import Gowaves.Lib.VersionLog
import Gowaves.State.StateManager

/-!
# What the storage holds for a chain

The invariant that ties the storage of `Gowaves.State.StateManager` to the chain it should hold.
The blocks of the chain carry numbers (`nbs`): strictly increasing along the chain, all below
`lastBlockNum`, valid exactly for the blocks of the chain, and found from their IDs; the blocks
of the batch carry `lastBlockNum`, `lastBlockNum + 1`, …, in the memory of the state database
and in the write batch.  For every key:

* the database holds nothing when no block of the chain wrote the key, and otherwise a history
  of the key's kind, strictly increasing in block number, that is the chain's entries of the
  key from some point, at most at the last entry below the rollback window, followed by
  entries of blocks that are no longer valid (`Stored`);
* the local storage holds exactly the entries of the batch's blocks.

`Numbered` states it for a numbering; `HoldsChain` says some numbering exists.  The lemmas of this
module are the facts about the entries of numbered blocks (`entriesOf`) and about the pieces of
the source that the steps run, which `Gowaves.State.HistoryRefinement` combines.
-/

set_option autoImplicit false

namespace Gowaves.State

open GoLib VersionLog

section Entries

variable {ID K : Type} [DecidableEq K]

/-- The entries a key's history holds for numbered blocks: one for each block that writes the
key, with the last value the block writes and the block's number. -/
def entriesOf (key : K) (nbs : List (Block ID K × Nat)) : List HistoryEntry :=
  nbs.filterMap fun nb => (lastWrite key nb.1.writes).map fun v => ⟨v, UInt32.ofNat nb.2⟩

@[simp] theorem entriesOf_nil (key : K) : entriesOf key ([] : List (Block ID K × Nat)) = [] := rfl

@[simp] theorem entriesOf_append (key : K) (l₁ l₂ : List (Block ID K × Nat)) :
    entriesOf key (l₁ ++ l₂) = entriesOf key l₁ ++ entriesOf key l₂ :=
  List.filterMap_append

theorem entriesOf_singleton (key : K) (b : Block ID K) (n : Nat) :
    entriesOf key [(b, n)] = ((lastWrite key b.writes).map fun v => ⟨v, UInt32.ofNat n⟩).toList := by
  cases h : lastWrite key b.writes <;> simp [entriesOf, h]

theorem map_data_entriesOf (key : K) (nbs : List (Block ID K × Nat)) :
    (entriesOf key nbs).map (·.data) = (nbs.map (·.1)).filterMap fun b => lastWrite key b.writes := by
  induction nbs with
  | nil => rfl
  | cons nb nbs ih =>
    rw [← List.singleton_append, entriesOf_append, List.map_append, ih, entriesOf_singleton]
    cases h : lastWrite key nb.1.writes <;> simp [h]

theorem valueAt_eq_entriesOf (key : K) (nbs : List (Block ID K × Nat)) :
    valueAt key (nbs.map (·.1)) = ((entriesOf key nbs).getLast?).map (·.data) := by
  rw [valueAt, ← map_data_entriesOf, List.getLast?_map]

theorem valueAt_eq_none_iff (key : K) (nbs : List (Block ID K × Nat)) :
    valueAt key (nbs.map (·.1)) = none ↔ entriesOf key nbs = [] := by
  rw [valueAt_eq_entriesOf, Option.map_eq_none_iff, List.getLast?_eq_none_iff]

theorem mem_entriesOf {key : K} {nbs : List (Block ID K × Nat)} {e : HistoryEntry}
    (he : e ∈ entriesOf key nbs) : ∃ nb ∈ nbs, e.blockNum = UInt32.ofNat nb.2 := by
  obtain ⟨nb, hnb, hf⟩ := List.mem_filterMap.mp he
  obtain ⟨v, -, rfl⟩ := Option.map_eq_some_iff.mp hf
  exact ⟨nb, hnb, rfl⟩

theorem ofNat_lt_ofNat {a b : Nat} (ha : a < 2 ^ 32) (hb : b < 2 ^ 32) :
    UInt32.ofNat a < UInt32.ofNat b ↔ a < b := by
  rw [UInt32.lt_iff_toNat_lt, UInt32.toNat_ofNat_of_lt' ha, UInt32.toNat_ofNat_of_lt' hb]

theorem ofNat_le_ofNat {a b : Nat} (ha : a < 2 ^ 32) (hb : b < 2 ^ 32) :
    UInt32.ofNat a ≤ UInt32.ofNat b ↔ a ≤ b := by
  rw [UInt32.le_iff_toNat_le, UInt32.toNat_ofNat_of_lt' ha, UInt32.toNat_ofNat_of_lt' hb]

theorem pairwise_entriesOf (key : K) {nbs : List (Block ID K × Nat)}
    (hs : nbs.Pairwise fun a b => a.2 < b.2) (hb : ∀ nb ∈ nbs, nb.2 < 2 ^ 32) :
    (entriesOf key nbs).Pairwise (·.blockNum < ·.blockNum) := by
  have hs' := List.Pairwise.and_mem.mp hs
  apply List.Pairwise.filterMap _ _ hs'
  intro a a' ⟨ha, ha', hlt⟩ e he e' he'
  obtain ⟨v, -, rfl⟩ := Option.map_eq_some_iff.mp he
  obtain ⟨v', -, rfl⟩ := Option.map_eq_some_iff.mp he'
  exact (ofNat_lt_ofNat (hb a ha) (hb a' ha')).mpr hlt

theorem takeWhile_entriesOf (key : K) {nbs : List (Block ID K × Nat)}
    (hs : nbs.Pairwise fun a b => a.2 < b.2) (hb : ∀ nb ∈ nbs, nb.2 < 2 ^ 32)
    (p : Nat → Bool) (q : UInt32 → Bool) (hpq : ∀ n < 2 ^ 32, q (UInt32.ofNat n) = p n)
    (hp : ∀ a b, a < b → p b = true → p a = true) :
    (entriesOf key nbs).takeWhile (fun e => q e.blockNum) =
      entriesOf key (nbs.takeWhile fun nb => p nb.2) := by
  apply takeWhile_filterMap_of_pairwise
  · exact hs.imp fun hlt => hp _ _ hlt
  · intro nb hnb e he
    obtain ⟨v, -, rfl⟩ := Option.map_eq_some_iff.mp he
    exact hpq nb.2 (hb nb hnb)

theorem entriesOf_take_prefixOf (key : K) (nbs : List (Block ID K × Nat)) (m : Nat) :
    entriesOf key (nbs.take m) <+: entriesOf key nbs := by
  conv_rhs => rw [← List.take_append_drop m nbs]
  rw [entriesOf_append]
  exact List.prefix_append _ _

/-- The number of a key's entries below the rollback window: those of the blocks below the
rollback minimum height. -/
def belowWindow (key : K) (nbs : List (Block ID K × Nat)) (rollbackMinHeight : Nat) : Nat :=
  (entriesOf key (nbs.take (rollbackMinHeight - 1))).length

theorem belowWindow_le (key : K) (nbs : List (Block ID K × Nat)) (m : Nat) :
    belowWindow key nbs m ≤ (entriesOf key nbs).length :=
  (entriesOf_take_prefixOf key nbs _).length_le

theorem belowWindow_mono (key : K) {nbs nbs' : List (Block ID K × Nat)} {m m' : Nat}
    (hm : m ≤ m') (hpre : nbs.take (m - 1) = nbs'.take (m - 1)) :
    belowWindow key nbs m ≤ belowWindow key nbs' m' := by
  unfold belowWindow
  rw [hpre]
  have htake : nbs'.take (m - 1) = (nbs'.take (m' - 1)).take (m - 1) := by
    rw [List.take_take, min_eq_left (by omega)]
  rw [htake]
  exact (entriesOf_take_prefixOf key _ _).length_le

theorem le_length_take_of_le_belowWindow (key : K) {nbs nbs' : List (Block ID K × Nat)}
    {m h j : Nat} (hj : j ≤ belowWindow key nbs m - 1) (hm : m ≤ h)
    (hpre : nbs.take (m - 1) = nbs'.take (m - 1)) :
    j ≤ (entriesOf key (nbs'.take h)).length - 1 := by
  have hmono : belowWindow key nbs m ≤ belowWindow key nbs' (h + 1) :=
    belowWindow_mono key (Nat.le_succ_of_le hm) hpre
  simp only [belowWindow, Nat.add_sub_cancel] at hmono hj
  omega

end Entries

/-! ## Stored histories -/

section Stored

/-- What a history of the database holds, against the entries `W` the chain's blocks make for
its key: it is of the key's kind, strictly increasing in block number, and it is `W` from a
point at most at the last entry below the rollback window (there are `below` of them), followed
by entries of blocks that are no longer valid, all numbered below `L`. -/
structure StoredRecord (entity : BlockchainEntity) (W : List HistoryEntry) (below L : Nat)
    (valid : UInt32 → Bool) (r : HistoryRecord) : Prop where
  entityType : r.entityType = entity
  sorted : r.entries.Pairwise fun a b => a.blockNum < b.blockNum
  split : ∃ j tail, j ≤ below - 1 ∧ r.entries = W.drop j ++ tail ∧
    ∀ e ∈ tail, valid e.blockNum = false ∧ e.blockNum.toNat < L

/-- What the database holds for a key: nothing only when no block of the chain wrote it. -/
def Stored (entity : BlockchainEntity) (W : List HistoryEntry) (below L : Nat)
    (valid : UInt32 → Bool) : Option HistoryRecord → Prop
  | none => W = []
  | some r => StoredRecord entity W below L valid r

variable {entity : BlockchainEntity} {W : List HistoryEntry} {below L : Nat}
  {valid : UInt32 → Bool}

theorem Stored.mono {below' L' : Nat} {valid' : UInt32 → Bool} {x : Option HistoryRecord}
    (hx : Stored entity W below L valid x) (hbelow : below ≤ below') (hL : L ≤ L')
    (hvalid : ∀ n : UInt32, n.toNat < L → valid n = false → valid' n = false) :
    Stored entity W below' L' valid' x := by
  cases x with
  | none => exact hx
  | some r =>
    obtain ⟨hent, hsorted, j, tail, hj, hr, htail⟩ := hx
    refine ⟨hent, hsorted, j, tail, by omega, hr, fun e he => ?_⟩
    obtain ⟨hinv, hlt⟩ := htail e he
    exact ⟨hvalid _ hlt hinv, by omega⟩

theorem Stored.cut {W₁ W₂ : List HistoryEntry} {valid' : UInt32 → Bool} {x : Option HistoryRecord}
    (hx : Stored entity (W₁ ++ W₂) below L valid x) (hbelow : below ≤ W₁.length)
    (hvalid : ∀ n : UInt32, n.toNat < L → valid n = false → valid' n = false)
    (hW₂ : ∀ e ∈ W₂, valid' e.blockNum = false ∧ e.blockNum.toNat < L) :
    Stored entity W₁ below L valid' x := by
  cases x with
  | none => exact (List.append_eq_nil_iff.mp hx).1
  | some r =>
    obtain ⟨hent, hsorted, j, tail, hj, hr, htail⟩ := hx
    have hjW : j ≤ W₁.length := by omega
    refine ⟨hent, hsorted, j, W₂ ++ tail, hj, ?_, fun e he => ?_⟩
    · rw [hr, List.drop_append_of_le_length hjW, List.append_assoc]
    · rcases List.mem_append.mp he with he | he
      · exact hW₂ e he
      · obtain ⟨hinv, hlt⟩ := htail e he
        exact ⟨hvalid _ hlt hinv, hlt⟩

theorem drop_eq_nil_iff_of_le {j : Nat} (hj : j ≤ below - 1) (hbelow : below ≤ W.length) :
    W.drop j = [] ↔ W = [] := by
  rw [List.drop_eq_nil_iff, ← List.length_eq_zero_iff]
  omega

theorem getLast?_drop_of_le {j : Nat} (hj : j ≤ below - 1) (hbelow : below ≤ W.length) :
    (W.drop j).getLast? = W.getLast? := by
  by_cases hW : W = []
  · simp [hW]
  · rw [List.getLast?_drop, if_neg]
    intro h
    exact hW ((drop_eq_nil_iff_of_le hj hbelow).mp (List.drop_eq_nil_of_le h))

theorem stored_drop (hs : W.Pairwise fun a b => a.blockNum < b.blockNum) {j : Nat}
    (hj : j ≤ below - 1) (hbelow : below ≤ W.length) :
    Stored entity W below L valid
      (if W.drop j = [] then none else some ⟨entity, W.drop j⟩) := by
  split
  · rename_i h
    exact (drop_eq_nil_iff_of_le hj hbelow).mp h
  · exact ⟨rfl, hs.drop, j, [], hj, (List.append_nil _).symm, by simp⟩

end Stored

/-! ## The formatter on stored histories -/

section Formatter

theorem filter_of_append {valid : UInt32 → Bool} {r : HistoryRecord} {W tail : List HistoryEntry}
    (hW : ∀ e ∈ W, valid e.blockNum = true) (htail : ∀ e ∈ tail, valid e.blockNum = false)
    (hr : r.entries = W ++ tail) :
    (HistoryFormatter.filter valid r).2 = ⟨r.entityType, W⟩ := by
  have hdrop : (W ++ tail).rdropWhile (fun e => !valid e.blockNum) = W := by
    rw [VersionLog.rdropWhile_append_of_forall fun e he => by simp [htail e he],
      VersionLog.rdropWhile_of_forall_not fun e he => by simp [hW e he]]
  simp [HistoryFormatter.filter, BlockchainEntity.needToFilter, hr, hdrop]

variable {ID K : Type} [DecidableEq K]

theorem cutEntries_entriesOf (key : K) {nbs : List (Block ID K × Nat)}
    (hs : nbs.Pairwise fun a b => a.2 < b.2) (hb : ∀ nb ∈ nbs, nb.2 < 2 ^ 32) {m : Nat}
    (hm : m < nbs.length) {j : Nat} (hj : j ≤ (entriesOf key (nbs.take m)).length - 1) :
    (HistoryFormatter.cutEntries (UInt32.ofNat nbs[m].2) ((entriesOf key nbs).drop j)).2 =
      (entriesOf key nbs).drop ((entriesOf key (nbs.take m)).length - 1) := by
  have hbm : nbs[m].2 < 2 ^ 32 := hb _ (List.getElem_mem hm)
  -- the test of the loop is downward closed along the increasing entries
  have hdc : (entriesOf key nbs).Pairwise fun a b =>
      decide (b.blockNum < UInt32.ofNat nbs[m].2) = true →
        decide (a.blockNum < UInt32.ofNat nbs[m].2) = true :=
    (pairwise_entriesOf key hs hb).imp fun hab hb' => by
      simp only [decide_eq_true_eq, UInt32.lt_iff_toNat_lt] at hab hb' ⊢
      omega
  have htw : (entriesOf key nbs).takeWhile
      (fun e => decide (e.blockNum < UInt32.ofNat nbs[m].2)) = entriesOf key (nbs.take m) := by
    rw [takeWhile_entriesOf key hs hb (fun n => decide (n < nbs[m].2))
      (fun n => decide (n < UInt32.ofNat nbs[m].2))
      (fun n hn => by simp only [ofNat_lt_ofNat hn hbm]) (fun a b hab hb' => by simp at hb' ⊢; omega),
      takeWhile_lt_getElem (·.2) hs hm]
  show ((entriesOf key nbs).drop j).drop
      ((((entriesOf key nbs).drop j).takeWhile
        fun e => decide (e.blockNum < UInt32.ofNat nbs[m].2)).length - 1) = _
  rw [drop_prune hdc (by rw [htw]; exact hj), htw]

theorem pairwise_le_of_sorted {l : List HistoryEntry}
    (hl : l.Pairwise fun a b => a.blockNum < b.blockNum) (t : UInt32) :
    l.Pairwise fun a b => decide (b.blockNum ≤ t) = true → decide (a.blockNum ≤ t) = true :=
  hl.imp fun hab hb' => by
    simp only [decide_eq_true_eq, UInt32.lt_iff_toNat_lt, UInt32.le_iff_toNat_le] at hab hb' ⊢
    omega

theorem takeWhile_le_entriesOf (key : K) {nbs : List (Block ID K × Nat)}
    (hs : nbs.Pairwise fun a b => a.2 < b.2) (hb : ∀ nb ∈ nbs, nb.2 < 2 ^ 32) {m : Nat}
    (hm : m < nbs.length) :
    (entriesOf key nbs).takeWhile (fun e => decide (e.blockNum ≤ UInt32.ofNat nbs[m].2)) =
      entriesOf key (nbs.take (m + 1)) := by
  have hbm : nbs[m].2 < 2 ^ 32 := hb _ (List.getElem_mem hm)
  rw [takeWhile_entriesOf key hs hb (fun n => decide (n ≤ nbs[m].2))
    (fun n => decide (n ≤ UInt32.ofNat nbs[m].2))
    (fun n hn => by simp only [ofNat_le_ofNat hn hbm]) (fun a b hab hb' => by simp at hb' ⊢; omega),
    takeWhile_le_getElem (·.2) hs hm]

theorem getLast?_takeWhile_le_entriesOf (key : K) {nbs : List (Block ID K × Nat)}
    (hs : nbs.Pairwise fun a b => a.2 < b.2) (hb : ∀ nb ∈ nbs, nb.2 < 2 ^ 32) {m : Nat}
    (hm : m < nbs.length) {j : Nat}
    (hj : j < (entriesOf key (nbs.take (m + 1))).length ∨ j = 0) :
    (((entriesOf key nbs).drop j).takeWhile
        fun e => decide (e.blockNum ≤ UInt32.ofNat nbs[m].2)).getLast? =
      (entriesOf key (nbs.take (m + 1))).getLast? := by
  have htw := takeWhile_le_entriesOf key hs hb hm
  rw [getLast?_takeWhile_drop (pairwise_le_of_sorted (pairwise_entriesOf key hs hb) _)
    (by rw [htw]; exact hj), htw]

theorem blockRangeEntries_entriesOf (key : K) {nbs : List (Block ID K × Nat)}
    (hs : nbs.Pairwise fun a b => a.2 < b.2) (hb : ∀ nb ∈ nbs, nb.2 < 2 ^ 32)
    (entity : BlockchainEntity) {j startHeight endHeight : Nat} (h1 : 1 ≤ startHeight)
    (hse : startHeight ≤ endHeight) (hh : endHeight ≤ nbs.length)
    (hj : j ≤ (entriesOf key (nbs.take startHeight)).length - 1) :
    HistoryStorage.blockRangeEntries ⟨entity, (entriesOf key nbs).drop j⟩
        (UInt32.ofNat nbs[startHeight - 1].2) (UInt32.ofNat nbs[endHeight - 1].2) =
      ((entriesOf key (nbs.take endHeight)).map (·.data)).drop
        ((entriesOf key (nbs.take startHeight)).length - 1) := by
  have hle : UInt32.ofNat nbs[startHeight - 1].2 ≤ UInt32.ofNat nbs[endHeight - 1].2 := by
    rw [ofNat_le_ofNat (hb _ (List.getElem_mem _)) (hb _ (List.getElem_mem _))]
    rcases Nat.eq_or_lt_of_le hse with heq | hlt
    · subst heq
      exact le_refl _
    · exact le_of_lt (List.pairwise_iff_getElem.mp hs _ _ _ _ (by omega))
  have hsorted := pairwise_entriesOf key hs hb
  have htake : ∀ m (hm : 1 ≤ m) (hml : m ≤ nbs.length),
      ((entriesOf key nbs).drop j).takeWhile
        (fun e => decide (e.blockNum ≤ UInt32.ofNat nbs[m - 1].2)) =
        (entriesOf key (nbs.take m)).drop j := by
    intro m hm hml
    rw [takeWhile_drop (pairwise_le_of_sorted hsorted _),
      takeWhile_le_entriesOf key hs hb (by omega), Nat.sub_add_cancel hm]
  rw [HistoryStorage.blockRangeEntries_eq hle (hsorted.drop (i := j)),
    htake _ h1 (le_trans hse hh), htake _ (le_trans h1 hse) hh, List.map_drop, List.drop_drop,
    List.length_drop]
  congr 1
  omega

end Formatter

/-! ## What the history storage reads -/

/-- What a read of a key's value returns: the value, or an error when there is none. -/
def readOutcome (e : StorageError) : Option (List UInt8) → Outcome StorageError (List UInt8)
  | some v => .ok v
  | none => .error e

namespace Storage

variable {ID K : Type}

/-- The storage with the database's history of a key replaced. -/
def withHistory (s : Storage ID K) [DecidableEq K] (key : K) (x : Option HistoryRecord) :
    Storage ID K :=
  { s with db := { s.db with histories := Function.update s.db.histories key x } }

variable [DecidableEq K] (s : Storage ID K) (key : K) (x : Option HistoryRecord)

@[simp] theorem withHistory_self : s.withHistory key (s.db.histories key) = s := by
  simp [withHistory]

@[simp] theorem withHistory_histories :
    (s.withHistory key x).db.histories = Function.update s.db.histories key x := rfl

@[simp] theorem withHistory_isValidBlock : (s.withHistory key x).isValidBlock = s.isValidBlock :=
  rfl

@[simp] theorem withHistory_rollbackMinHeight :
    (s.withHistory key x).db.rollbackMinHeight = s.db.rollbackMinHeight := rfl

@[simp] theorem withHistory_blockIdToNum :
    (s.withHistory key x).db.blockIdToNum = s.db.blockIdToNum := rfl

@[simp] theorem withHistory_rw : (s.withHistory key x).rw = s.rw := rfl

end Storage

section View

variable {ID K : Type} [DecidableEq ID] [LinearOrder K]

/-- What the reads of the history storage see: the numbered blocks `nbs` of the chain have
their IDs at their heights, their numbers by ID and as the valid ones, increasing and below
`L`; the rollback window starts at a block of the chain, and every key's history is stored
(`Stored`) against the chain's entries. -/
structure View (entityOf : K → BlockchainEntity) (s : Storage ID K)
    (nbs : List (Block ID K × Nat)) (L : Nat) : Prop where
  ids : nbs.map (·.1.id) <+: s.rw.ids
  nodup : (nbs.map (·.1.id)).Nodup
  sorted : nbs.Pairwise fun a b => a.2 < b.2
  lt : ∀ nb ∈ nbs, nb.2 < L
  bound : L < 2 ^ 32
  blockIdToNum : ∀ blockID,
    s.db.blockIdToNum blockID = (nbs.find? (·.1.id = blockID)).map fun nb => UInt32.ofNat nb.2
  valid : ∀ n : UInt32, s.isValidBlock n = true ↔ n ∈ nbs.map fun nb => UInt32.ofNat nb.2
  rollbackMinHeight_pos : 1 ≤ s.db.rollbackMinHeight
  rollbackMinHeight_le : s.db.rollbackMinHeight ≤ max 1 nbs.length
  empty : nbs = [] → ∀ key, s.db.histories key = none
  stored : ∀ key, Stored (entityOf key) (entriesOf key nbs)
    (belowWindow key nbs s.db.rollbackMinHeight) L s.isValidBlock (s.db.histories key)

variable {entityOf : K → BlockchainEntity} {s : Storage ID K} {nbs : List (Block ID K × Nat)}
  {L : Nat}

theorem View.congr {s' : Storage ID K} (hv : View entityOf s nbs L) (hdb : s'.db = s.db)
    (hids : nbs.map (·.1.id) <+: s'.rw.ids) : View entityOf s' nbs L := by
  obtain ⟨db, dbBatch, stateDB, rw, stor⟩ := s
  obtain ⟨db', dbBatch', stateDB', rw', stor'⟩ := s'
  simp only at hdb hids
  subst hdb
  exact ⟨hids, hv.nodup, hv.sorted, hv.lt, hv.bound, hv.blockIdToNum, hv.valid,
    hv.rollbackMinHeight_pos, hv.rollbackMinHeight_le, hv.empty, hv.stored⟩

omit [LinearOrder K] in
theorem find?_id_getElem (hnd : (nbs.map (·.1.id)).Nodup) {i : Nat} (hi : i < nbs.length) :
    nbs.find? (·.1.id = nbs[i].1.id) = some nbs[i] := by
  rw [List.find?_eq_some_iff_getElem]
  refine ⟨by simp, i, hi, rfl, fun j hj => ?_⟩
  have hj' : j < (nbs.map (·.1.id)).length := by simp; omega
  have hi' : i < (nbs.map (·.1.id)).length := by simpa using hi
  have hne : (nbs.map (·.1.id))[j] ≠ (nbs.map (·.1.id))[i] := by
    intro h
    have := (List.Nodup.getElem_inj_iff hnd).mp h
    omega
  simpa using hne

namespace View

variable (hv : View entityOf s nbs L)
include hv

theorem bound_of_mem {nb : Block ID K × Nat} (hnb : nb ∈ nbs) : nb.2 < 2 ^ 32 :=
  lt_trans (hv.lt nb hnb) hv.bound

theorem sorted_entriesOf (key : K) :
    (entriesOf key nbs).Pairwise fun a b => a.blockNum < b.blockNum :=
  pairwise_entriesOf key hv.sorted fun _ hnb => hv.bound_of_mem hnb

theorem valid_of_mem_entriesOf {key : K} {e : HistoryEntry} (he : e ∈ entriesOf key nbs) :
    s.isValidBlock e.blockNum = true := by
  obtain ⟨nb, hnb, hnum⟩ := mem_entriesOf he
  rw [hv.valid, hnum]
  exact List.mem_map_of_mem hnb

theorem blockNumByHeight {h : Nat} (h0 : 1 ≤ h) (hh : h ≤ nbs.length) :
    s.blockNumByHeight h = .ok (UInt32.ofNat (nbs[h - 1]).2) := by
  have hi : h - 1 < (nbs.map (·.1.id)).length := by simp; omega
  have hid : s.rw.ids[h - 1]? = some (nbs[h - 1]).1.id := by
    rw [List.getElem?_eq_getElem (by have := hv.ids.length_le; omega),
      ← hv.ids.getElem hi, List.getElem_map]
  have hbid : s.blockIDByHeight h = .ok (nbs[h - 1]).1.id := by
    simp only [Storage.blockIDByHeight, if_neg (show h ≠ 0 by omega), hid]
  have hnum : s.blockIdToNum (nbs[h - 1]).1.id =
      .ok (UInt32.ofNat (nbs[h - 1]).2) := by
    simp only [Storage.blockIdToNum, hv.blockIdToNum, find?_id_getElem hv.nodup, Option.map_some]
  rw [Storage.blockNumByHeight, hbid]
  exact hnum

theorem rollbackMinHeight_sub_le : s.db.rollbackMinHeight - 1 ≤ nbs.length := by
  rcases le_max_iff.mp hv.rollbackMinHeight_le with h | h <;> omega

theorem rollbackMinHeight_lt (hne : nbs ≠ []) : s.db.rollbackMinHeight - 1 < nbs.length := by
  have := hv.rollbackMinHeight_le
  have := List.length_pos_iff.mpr hne
  have := hv.rollbackMinHeight_pos
  rw [max_eq_right (by omega)] at *
  omega

theorem normalize (key : K) {r : HistoryRecord}
    (hr : StoredRecord (entityOf key) (entriesOf key nbs)
      (belowWindow key nbs s.db.rollbackMinHeight) L s.isValidBlock r) (hne : nbs ≠ []) :
    ∃ j ≤ belowWindow key nbs s.db.rollbackMinHeight - 1, ∃ changed,
      s.normalize true r = .ok (changed, ⟨r.entityType, (entriesOf key nbs).drop j⟩) := by
  obtain ⟨-, -, j, tail, hj, hentries, htail⟩ := hr
  have hfilter := filter_of_append
    (fun e he => hv.valid_of_mem_entriesOf (List.mem_of_mem_drop he)) (fun e he => (htail e he).1)
    hentries
  obtain ⟨filtered, hf⟩ : ∃ filtered, HistoryFormatter.filter s.isValidBlock r =
      (filtered, ⟨r.entityType, (entriesOf key nbs).drop j⟩) := ⟨_, Prod.ext rfl hfilter⟩
  have hm := hv.rollbackMinHeight_lt hne
  cases hcut : r.entityType.needToCut with
  | false =>
    refine ⟨j, hj, filtered, ?_⟩
    simp [Storage.normalize, Storage.cut, hf, hcut]
  | true =>
    have hmin : s.calculateMinAcceptableBlockNum =
        .ok (UInt32.ofNat nbs[s.db.rollbackMinHeight - 1].2) :=
      hv.blockNumByHeight hv.rollbackMinHeight_pos (by omega)
    refine ⟨belowWindow key nbs s.db.rollbackMinHeight - 1, le_refl _, ?_⟩
    simp [Storage.normalize, Storage.cut, hf, hcut, hmin,
      cutEntries_entriesOf key hv.sorted (fun _ hnb => hv.bound_of_mem hnb) hm hj, belowWindow]

theorem withHistory {key : K} {x : Option HistoryRecord}
    (hx : Stored (entityOf key) (entriesOf key nbs) (belowWindow key nbs s.db.rollbackMinHeight) L
      s.isValidBlock x) (hx0 : nbs = [] → x = none) :
    View entityOf (s.withHistory key x) nbs L := by
  refine ⟨hv.ids, hv.nodup, hv.sorted, hv.lt, hv.bound, hv.blockIdToNum, hv.valid,
    hv.rollbackMinHeight_pos, hv.rollbackMinHeight_le, fun h k => ?_, fun k => ?_⟩
  · by_cases hk : k = key
    · subst hk
      simp [hx0 h]
    · simp [hk, hv.empty h k]
  · by_cases hk : k = key
    · subst hk
      simpa using hx
    · simpa [hk] using hv.stored k

theorem getHistory (key : K) (update : Bool) :
    ∃ j ≤ belowWindow key nbs s.db.rollbackMinHeight - 1, ∃ x,
      View entityOf (s.withHistory key x) nbs L ∧ (update = false → x = s.db.histories key) ∧
      HistoryStorage.getHistory true key update s =
        (if entriesOf key nbs = [] then
          .error (if s.db.histories key = none then .notFound else .emptyHist)
        else .ok ⟨entityOf key, (entriesOf key nbs).drop j⟩, s.withHistory key x) := by
  have hstored := hv.stored key
  cases hh : s.db.histories key with
  | none =>
    have hself : s.withHistory key none = s := by
      rw [← hh]
      exact Storage.withHistory_self s key
    rw [hh] at hstored
    refine ⟨0, Nat.zero_le _, none, by rw [hself]; exact hv, fun _ => rfl, ?_⟩
    simp [HistoryStorage.getHistory, hh, hself, show entriesOf key nbs = [] from hstored]
  | some r =>
    rw [hh] at hstored
    have hne : nbs ≠ [] := fun h => by simp [hv.empty h key] at hh
    obtain ⟨j, hj, changed, hnorm⟩ := hv.normalize key hstored hne
    have hbelow := belowWindow_le key nbs s.db.rollbackMinHeight
    have hnil := drop_eq_nil_iff_of_le (W := entriesOf key nbs) hj hbelow
    let back : Option HistoryRecord :=
      if (entriesOf key nbs).drop j = [] then none else some ⟨entityOf key, (entriesOf key nbs).drop j⟩
    refine ⟨j, hj, if changed && update then back else some r, ?_, fun hu => by simp [hu], ?_⟩
    · refine hv.withHistory ?_ fun h => absurd h hne
      split
      · exact stored_drop (hv.sorted_entriesOf key) hj hbelow
      · exact hstored
    · by_cases hcu : (changed && update) = true
      · by_cases hW : entriesOf key nbs = [] <;>
          simp [HistoryStorage.getHistory, hh, hnorm, hstored.entityType, hcu, back,
            HistoryStorage.manageDbUpdate, Storage.withHistory, hnil, hW]
      · rw [if_neg hcu, ← hh, Storage.withHistory_self]
        by_cases hW : entriesOf key nbs = [] <;>
          simp [HistoryStorage.getHistory, hh, hnorm, hstored.entityType, hcu, hnil, hW]

theorem combineHistories (key : K) (P : List HistoryEntry) :
    ∃ r x, View entityOf (s.withHistory key x) nbs L ∧
      HistoryStorage.combineHistories true key ⟨entityOf key, P⟩ s = (.ok r, s.withHistory key x) ∧
      r.entityType = entityOf key ∧ ∃ j ≤ belowWindow key nbs s.db.rollbackMinHeight - 1,
        r.entries = (entriesOf key nbs).drop j ++ P := by
  obtain ⟨j, hj, x, hview, -, hget⟩ := hv.getHistory key true
  by_cases hW : entriesOf key nbs = []
  · refine ⟨⟨entityOf key, P⟩, x, hview, ?_, rfl, 0, Nat.zero_le _, by simp [hW]⟩
    by_cases hh : s.db.histories key = none <;>
      simp [HistoryStorage.combineHistories, hget, hW, hh]
  · refine ⟨⟨entityOf key, (entriesOf key nbs).drop j ++ P⟩, x, hview, ?_, rfl, j, hj, rfl⟩
    simp [HistoryStorage.combineHistories, hget, hW]

theorem flushLoop (l : List (K × HistoryRecord)) (hnd : (l.map (·.1)).Nodup)
    (hl : ∀ kv ∈ l, kv.2.entityType = entityOf kv.1) :
    ∃ rs : K → HistoryRecord, ∃ hs : K → Option HistoryRecord,
      View entityOf { s with db := { s.db with histories := hs } } nbs L ∧
      (∀ kv ∈ l, (rs kv.1).entityType = entityOf kv.1 ∧
        ∃ j ≤ belowWindow kv.1 nbs s.db.rollbackMinHeight - 1,
          (rs kv.1).entries = (entriesOf kv.1 nbs).drop j ++ kv.2.entries) ∧
      HistoryStorage.flushLoop true l s =
        (.ok (), { s with
          db := { s.db with histories := hs }
          dbBatch := s.dbBatch ++ l.map fun kv => .putHistory kv.1 (rs kv.1) }) := by
  induction l generalizing s with
  | nil =>
    refine ⟨fun k => ⟨entityOf k, []⟩, s.db.histories, hv.congr rfl hv.ids, by simp, ?_⟩
    simp [HistoryStorage.flushLoop]
  | cons kv l ih =>
    obtain ⟨k, ⟨ent, P⟩⟩ := kv
    have hent : ent = entityOf k := hl (k, ⟨ent, P⟩) (by simp)
    subst hent
    obtain ⟨hk, hnd'⟩ := List.nodup_cons.mp hnd
    obtain ⟨r, x, hview, hcomb, hrent, j, hj, hr⟩ := hv.combineHistories k P
    let s₁ : Storage ID K := { s.withHistory k x with dbBatch := s.dbBatch ++ [.putHistory k r] }
    obtain ⟨rs, hs, hview', hrs, hrun⟩ :=
      ih (s := s₁) (hview.congr rfl hview.ids) hnd' fun kv hkv => hl kv (List.mem_cons_of_mem _ hkv)
    have hrs_eq : ∀ kv ∈ l, Function.update rs k r kv.1 = rs kv.1 := by
      intro kv hkv
      have hne : kv.1 ≠ k := by
        rintro h
        exact hk (by simpa [h] using List.mem_map_of_mem (f := (·.1)) hkv)
      exact Function.update_of_ne hne _ _
    refine ⟨Function.update rs k r, hs, hview'.congr rfl hview'.ids, ?_, ?_⟩
    · intro kv hkv
      rcases List.mem_cons.mp hkv with rfl | hkv
      · exact ⟨by simpa using hrent, j, hj, by simpa using hr⟩
      · rw [hrs_eq kv hkv]
        exact hrs kv hkv
    · have hmap : l.map (fun kv => (.putHistory kv.1 (Function.update rs k r kv.1) : BatchOp ID K)) =
          l.map fun kv => .putHistory kv.1 (rs kv.1) :=
        List.map_congr_left fun kv hkv => by rw [hrs_eq kv hkv]
      have hstep : HistoryStorage.flushLoop true ((k, ⟨entityOf k, P⟩) :: l) s =
          HistoryStorage.flushLoop true l s₁ := by
        simp only [HistoryStorage.flushLoop, StOutcome.bind_run_ok hcomb, Storage.putBatch,
          StOutcome.modify_bind_run]
        rfl
      rw [hstep, hrun]
      simp [s₁, hmap, Storage.withHistory]

theorem topEntryData (key : K) :
    HistoryStorage.topEntryData true key s =
      (readOutcome (if s.db.histories key = none then .notFound else .emptyHist)
        ((entriesOf key nbs).getLast?.map (·.data)), s) := by
  obtain ⟨j, hj, x, -, hx, hget⟩ := hv.getHistory key false
  rw [hx rfl, Storage.withHistory_self] at hget
  have hlast := getLast?_drop_of_le (W := entriesOf key nbs) hj (belowWindow_le _ _ _)
  by_cases hW : entriesOf key nbs = []
  · simp [HistoryStorage.topEntryData, HistoryStorage.topEntry, StOutcome.bind_run,
      StOutcome.bind, hget, hW, readOutcome]
  · obtain ⟨e, he⟩ : ∃ e, (entriesOf key nbs).getLast? = some e :=
      Option.ne_none_iff_exists'.mp (by simpa using hW)
    simp [HistoryStorage.topEntryData, HistoryStorage.topEntry, StOutcome.bind_run,
      StOutcome.bind, hget, hW, readOutcome, HistoryRecord.topEntry, hlast, he]

theorem newestTopEntryData (key : K) {P : List HistoryEntry}
    (hstor : s.stor.get key = if P = [] then none else some ⟨entityOf key, P⟩) :
    HistoryStorage.newestTopEntryData true key s =
      (readOutcome (if s.db.histories key = none then .notFound else .emptyHist)
        ((entriesOf key nbs ++ P).getLast?.map (·.data)), s) := by
  by_cases hP : P = []
  · have hnewest : HistoryStorage.newestTopEntry true key s = HistoryStorage.topEntry true key s := by
      simp [HistoryStorage.newestTopEntry, hstor, hP]
    have hdata : HistoryStorage.newestTopEntryData true key s =
        HistoryStorage.topEntryData true key s := by
      simp only [HistoryStorage.newestTopEntryData, HistoryStorage.topEntryData,
        StOutcome.bind_run, StOutcome.bind, hnewest]
    rw [hdata, hv.topEntryData, hP, List.append_nil]
  · obtain ⟨e, he⟩ : ∃ e, P.getLast? = some e := Option.ne_none_iff_exists'.mp (by simpa using hP)
    simp [HistoryStorage.newestTopEntryData, HistoryStorage.newestTopEntry, StOutcome.bind_run,
      StOutcome.bind, hstor, hP, HistoryRecord.topEntry, he, readOutcome,
      List.getLast?_append_of_ne_nil _ hP]

theorem fullHistory (key : K) {P : List HistoryEntry}
    (hstor : s.stor.get key = if P = [] then none else some ⟨entityOf key, P⟩) :
    ∃ j ≤ belowWindow key nbs s.db.rollbackMinHeight - 1, ∃ x,
      View entityOf (s.withHistory key x) nbs L ∧
      HistoryStorage.fullHistory true key s =
        (if entriesOf key nbs ++ P = [] then
          .error (if s.db.histories key = none then .notFound else .emptyHist)
        else .ok ⟨entityOf key, (entriesOf key nbs ++ P).drop j⟩, s.withHistory key x) := by
  by_cases hP : P = []
  · obtain ⟨j, hj, x, hview, -, hget⟩ := hv.getHistory key true
    refine ⟨j, hj, x, hview, ?_⟩
    simp [HistoryStorage.fullHistory, hstor, hP, hget]
  · obtain ⟨⟨entityType, entries⟩, x, hview, hcomb, hent, j, hj, hr⟩ := hv.combineHistories key P
    have hjW : j ≤ (entriesOf key nbs).length :=
      le_trans (by omega) (belowWindow_le key nbs s.db.rollbackMinHeight)
    have hne : entriesOf key nbs ++ P ≠ [] := by simp [hP]
    refine ⟨j, hj, x, hview, ?_⟩
    simp only at hent hr
    simp only [HistoryStorage.fullHistory, hstor, if_neg hP, hcomb, if_neg hne,
      List.drop_append_of_le_length hjW, hent, hr]

theorem entryDataAtHeight (key : K) {h : Nat} (h0 : s.db.rollbackMinHeight ≤ h)
    (hh : h ≤ nbs.length) :
    HistoryStorage.entryDataAtHeight true key h s =
      (if entriesOf key nbs = [] then
        .error (if s.db.histories key = none then .notFound else .emptyHist)
      else .ok (((entriesOf key (nbs.take h)).getLast?.map (·.data)).getD []), s) := by
  have h1 : 1 ≤ h := le_trans hv.rollbackMinHeight_pos h0
  have hnum := hv.blockNumByHeight h1 hh
  obtain ⟨j, hj, x, -, hx, hget⟩ := hv.getHistory key false
  rw [hx rfl, Storage.withHistory_self] at hget
  have hjh : j < (entriesOf key (nbs.take (h - 1 + 1))).length ∨ j = 0 := by
    have hjh' := le_length_take_of_le_belowWindow key hj h0 rfl
    rw [Nat.sub_add_cancel h1]
    omega
  have hread := getLast?_takeWhile_le_entriesOf key hv.sorted (fun _ hnb => hv.bound_of_mem hnb)
    (show h - 1 < nbs.length by omega) hjh
  rw [Nat.sub_add_cancel h1] at hread
  simp only [HistoryStorage.entryDataAtHeight, HistoryStorage.entryDataWithHeightFilter,
    StOutcome.bind_run, StOutcome.bind, StOutcome.get_run, StOutcome.pure_run,
    StOutcome.lift_run, hnum, Outcome.ofExcept]
  rw [hget]
  by_cases hW : entriesOf key nbs = []
  · simp [hW]
  · simp [hW, hread]

theorem entriesDataInHeightRange (key : K) {startHeight endHeight : Nat}
    (h0 : s.db.rollbackMinHeight ≤ startHeight) (hse : startHeight ≤ endHeight)
    (hh : endHeight ≤ nbs.length) :
    HistoryStorage.entriesDataInHeightRange true key startHeight endHeight s =
      (if entriesOf key nbs = [] then
        .error (if s.db.histories key = none then .notFound else .emptyHist)
      else .ok (((entriesOf key (nbs.take endHeight)).map (·.data)).drop
        ((entriesOf key (nbs.take startHeight)).length - 1)), s) := by
  have h1 : 1 ≤ startHeight := le_trans hv.rollbackMinHeight_pos h0
  obtain ⟨j, hj, x, -, hx, hget⟩ := hv.getHistory key false
  rw [hx rfl, Storage.withHistory_self] at hget
  by_cases hW : entriesOf key nbs = []
  · simp [HistoryStorage.entriesDataInHeightRange, StOutcome.bind_run, StOutcome.bind, hget, hW]
  have hjs : j ≤ (entriesOf key (nbs.take startHeight)).length - 1 :=
    le_length_take_of_le_belowWindow key hj h0 rfl
  have hne : (entriesOf key nbs).drop j ≠ [] := fun h =>
    hW ((drop_eq_nil_iff_of_le hj (belowWindow_le _ _ _)).mp h)
  have hnumS := hv.blockNumByHeight h1 (le_trans hse hh)
  have hnumE := hv.blockNumByHeight (le_trans h1 hse) hh
  simp only [HistoryStorage.entriesDataInHeightRange, StOutcome.bind_run, StOutcome.bind, hget,
    if_neg hW, if_neg hne, StOutcome.get_run, StOutcome.lift_run, hnumS, hnumE, Outcome.ofExcept,
    StOutcome.pure_run]
  rw [blockRangeEntries_entriesOf key hv.sorted (fun _ hnb => hv.bound_of_mem hnb) _ h1 hse hh hjs]

theorem rollback {s' : Storage ID K} {h : Nat} (hh : s.db.rollbackMinHeight ≤ h)
    (hhl : h ≤ nbs.length) (hids : s'.rw.ids = (nbs.take h).map (·.1.id))
    (hrmh : s'.db.rollbackMinHeight = s.db.rollbackMinHeight)
    (hid : ∀ blockID, s'.db.blockIdToNum blockID =
      if blockID ∈ (nbs.drop h).map (·.1.id) then none else s.db.blockIdToNum blockID)
    (hvalid : ∀ n, s'.isValidBlock n =
      (s.isValidBlock n && !decide (n ∈ (nbs.drop h).map fun nb => UInt32.ofNat nb.2)))
    (hhist : s'.db.histories = s.db.histories) :
    View entityOf s' (nbs.take h) L := by
  have hnd := hv.nodup
  rw [← List.take_append_drop h nbs, List.map_append] at hnd
  have hnum : ∀ a ∈ nbs.take h,
      UInt32.ofNat a.2 ∉ (nbs.drop h).map fun nb => UInt32.ofNat nb.2 := by
    have hs := hv.sorted
    rw [← List.take_append_drop h nbs, List.pairwise_append] at hs
    intro a ha hmem
    obtain ⟨b, hb, hab⟩ := List.mem_map.mp hmem
    have hlt : UInt32.ofNat a.2 < UInt32.ofNat b.2 :=
      (ofNat_lt_ofNat (hv.bound_of_mem (List.mem_of_mem_take ha))
        (hv.bound_of_mem (List.mem_of_mem_drop hb))).mpr (hs.2.2 a ha b hb)
    rw [hab] at hlt
    exact UInt32.lt_irrefl _ hlt
  refine ⟨by rw [hids], hv.nodup.sublist ((List.take_sublist _ _).map _),
    hv.sorted.sublist (List.take_sublist _ _), fun nb hnb => hv.lt nb (List.mem_of_mem_take hnb),
    hv.bound, ?bid, ?valid, by rw [hrmh]; exact hv.rollbackMinHeight_pos, ?le, ?empty, ?stored⟩
  case bid =>
    intro blockID
    have hfind : nbs.find? (·.1.id = blockID) =
        ((nbs.take h).find? (·.1.id = blockID)).or ((nbs.drop h).find? (·.1.id = blockID)) := by
      rw [← List.find?_append, List.take_append_drop]
    rw [hid, hv.blockIdToNum, hfind]
    split_ifs with hb
    · have hnone : (nbs.take h).find? (·.1.id = blockID) = none := by
        rw [List.find?_eq_none]
        intro a ha hab
        simp only [decide_eq_true_eq] at hab
        exact List.disjoint_of_nodup_append hnd (hab ▸ List.mem_map_of_mem ha) hb
      simp [hnone]
    · have hnone : (nbs.drop h).find? (·.1.id = blockID) = none := by
        rw [List.find?_eq_none]
        intro a ha hab
        simp only [decide_eq_true_eq] at hab
        exact hb (hab ▸ List.mem_map_of_mem ha)
      rw [hnone, Option.or_none]
  case valid =>
    intro n
    rw [hvalid, Bool.and_eq_true, hv.valid, Bool.not_eq_true', decide_eq_false_iff_not]
    constructor
    · rintro ⟨hmem, hcut⟩
      rw [← List.take_append_drop h nbs, List.map_append, List.mem_append] at hmem
      exact hmem.resolve_right hcut
    · intro hmem
      obtain ⟨a, ha, rfl⟩ := List.mem_map.mp hmem
      exact ⟨List.mem_map_of_mem (List.mem_of_mem_take ha), hnum a ha⟩
  case le =>
    rw [hrmh, List.length_take, min_eq_left hhl]
    exact le_max_of_le_right hh
  case empty =>
    intro hnil
    have hpos := hv.rollbackMinHeight_pos
    have hlen := congrArg List.length hnil
    rw [List.length_take, List.length_nil] at hlen
    omega
  case stored =>
    intro key
    have hbelow : belowWindow key (nbs.take h) s'.db.rollbackMinHeight =
        belowWindow key nbs s.db.rollbackMinHeight := by
      unfold belowWindow
      rw [hrmh, List.take_take, min_eq_left (by omega)]
    have hx : Stored (entityOf key) (entriesOf key (nbs.take h) ++ entriesOf key (nbs.drop h))
        (belowWindow key nbs s.db.rollbackMinHeight) L s.isValidBlock (s.db.histories key) := by
      rw [← entriesOf_append, List.take_append_drop]
      exact hv.stored key
    rw [hhist, hbelow]
    refine hx.cut (hbelow ▸ belowWindow_le key _ _) (fun n _ hfalse => ?_) fun e he => ?_
    · rw [hvalid, hfalse, Bool.false_and]
    · obtain ⟨nb, hnb, hnum⟩ := mem_entriesOf he
      have hnb' := List.mem_of_mem_drop hnb
      refine ⟨?_, ?_⟩
      · rw [hvalid, hnum, decide_eq_true (List.mem_map_of_mem hnb), Bool.not_true,
          Bool.and_false]
      · rw [hnum, UInt32.toNat_ofNat_of_lt' (hv.bound_of_mem hnb')]
        exact hv.lt nb hnb'

theorem flush (hnd : (s.stor.map (·.1)).Nodup)
    (hl : ∀ kv ∈ s.stor, kv.2.entityType = entityOf kv.1) :
    ∃ rs : K → HistoryRecord, ∃ hs : K → Option HistoryRecord,
      HistoryStorage.flush true s = (.ok (), { s with
        db := { s.db with histories := hs }
        dbBatch := s.dbBatch ++
          (HistoryStorage.sortEntries s.stor).map fun kv => .putHistory kv.1 (rs kv.1)
        stor := [] }) ∧
      View entityOf { s with db := { s.db with histories := hs } } nbs L ∧
      ∀ kv ∈ s.stor, (rs kv.1).entityType = entityOf kv.1 ∧
        ∃ j ≤ belowWindow kv.1 nbs s.db.rollbackMinHeight - 1,
          (rs kv.1).entries = (entriesOf kv.1 nbs).drop j ++ kv.2.entries := by
  have hperm : List.Perm (HistoryStorage.sortEntries s.stor) s.stor := List.mergeSort_perm _ _
  obtain ⟨rs, hs, hview, hrs, hrun⟩ := hv.flushLoop (HistoryStorage.sortEntries s.stor)
    (((hperm.map _).nodup_iff).mpr hnd) fun kv hkv => hl kv (hperm.subset hkv)
  refine ⟨rs, hs, ?_, hview.congr rfl hview.ids, fun kv hkv => hrs kv (hperm.symm.subset hkv)⟩
  simp only [HistoryStorage.flush, StOutcome.get_bind_run]
  rw [StOutcome.bind_run_ok hrun]
  rfl

end View

end View

end Gowaves.State
