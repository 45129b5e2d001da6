import Gowaves.State.HistoryInvariant

/-!
# The history storage holds the chain

Every operation of `Gowaves.State.StateManager` keeps the storage holding the chain it runs
on (`Numbered`, for a numbering of the chain's blocks): a block takes the next number and its
values go to the local storage, a successful batch flushes them after the normalized histories
of the database and hands the numbers on, a failed batch leaves the database alone, and a
rollback invalidates the numbers of the blocks above the removal edge, whose entries stay in the
histories as a tail that the next read filters out.  The numbers the state hands out are
`uint32`: the invariant holds while fewer than `2 ^ 32` of them have been handed out
(`numbersHandedOut`), which the run lemma draws from the count of blocks of the run.

* `Numbered.block`, `Numbered.commit`, `Numbered.abort`, `Numbered.rollback` — one step each;
* `Numbered.run_ops` — every run from a storage that holds its chain, with fewer than `2 ^ 32` numbers
  handed out at the end;
* `run_historyStorage_readsChain` — from the empty storage, the reads of the history storage
  give the last value a still-valid block wrote, at the top and at every height of the window,
  the block numbers are strictly increasing with height, and the stored histories are strictly
  increasing in block number.
-/

set_option autoImplicit false

namespace Gowaves.State

open GoLib

section Numbered

variable {ID K : Type} [DecidableEq ID] [LinearOrder K]

/-- The blocks of the batch with their numbers: `lastBlockNum`, `lastBlockNum + 1`, …. -/
def pendingNumbered (s : Storage ID K) (c : Chain ID K) : List (Block ID K × Nat) :=
  c.pending.zipIdx s.lastBlockNum.toNat

/-- The IDs of numbered blocks with their numbers as `uint32`. -/
def idNums (nbs : List (Block ID K × Nat)) : List (ID × UInt32) :=
  nbs.map fun nb => (nb.1.id, UInt32.ofNat nb.2)

/-- The local history of a key with entries `P`: none when there are none. -/
def localHistory (entity : BlockchainEntity) (P : List HistoryEntry) : Option HistoryRecord :=
  if P = [] then none else some ⟨entity, P⟩

/-- **The storage holds the chain** under the numbering `nbs` of its blocks: the database is
read as the chain (`View`), the read-writer has the chain's IDs by height and the batch's in
its buffer, and the memory of the state database, its write batch and the local storage are
those of the batch's blocks, numbered from `lastBlockNum` on without wrapping. -/
structure Numbered (entityOf : K → BlockchainEntity) (s : Storage ID K) (c : Chain ID K)
    (nbs : List (Block ID K × Nat)) : Prop where
  view : View entityOf s nbs s.lastBlockNum.toNat
  blocks : nbs.map (·.1) = c.blocks
  ids : s.rw.ids = c.blocks.map (·.id)
  buffer : s.rw.buffer = c.pending.map (·.id)
  height : s.db.height = c.blocks.length
  rollbackMinHeight : s.db.rollbackMinHeight = c.rollbackMinHeight
  nodup : ((c.blocks ++ c.pending).map (·.id)).Nodup
  bound : s.lastBlockNum.toNat + c.pending.length < 2 ^ 32
  blocksNum : s.stateDB.blocksNum = c.pending.length
  newestBlockId2Num : s.stateDB.newestBlockId2Num = idNums (pendingNumbered s c)
  newestBlockNum2Id : s.stateDB.newestBlockNum2Id = (idNums (pendingNumbered s c)).map Prod.swap
  dbBatch : s.dbBatch = blockOps (idNums (pendingNumbered s c))
  stor : ∀ key, s.stor.get key = localHistory (entityOf key) (entriesOf key (pendingNumbered s c))
  stor_nodup : (s.stor.map (·.1)).Nodup

/-- The storage holds the chain under some numbering. -/
def HoldsChain (entityOf : K → BlockchainEntity) (s : Storage ID K) (c : Chain ID K) : Prop :=
  ∃ nbs, Numbered entityOf s c nbs

/-- The block numbers handed out: the flushed ones and those of the batch. -/
def numbersHandedOut (s : Storage ID K) (c : Chain ID K) : Nat :=
  s.lastBlockNum.toNat + c.pending.length

theorem Numbered.initial (entityOf : K → BlockchainEntity) :
    Numbered entityOf (Storage.initial : Storage ID K) Chain.initial [] := by
  have hlast : (Storage.initial : Storage ID K).lastBlockNum = 0 := rfl
  refine ⟨⟨List.nil_prefix, List.nodup_nil, List.Pairwise.nil, by simp, by simp [hlast],
    fun _ => rfl, fun n => by simp [Storage.isValidBlock, Storage.initial, DB.initial],
    le_refl _, by simp [Storage.initial, DB.initial], fun _ _ => rfl, fun _ => rfl⟩,
    rfl, rfl, rfl, rfl, rfl, List.nodup_nil, by simp [hlast, Chain.initial], rfl, rfl, rfl, rfl,
    fun key => rfl, List.nodup_nil⟩

theorem getD_localHistory (entity : BlockchainEntity) (P : List HistoryEntry) :
    (localHistory entity P).getD (HistoryRecord.new entity) = ⟨entity, P⟩ := by
  by_cases hP : P = [] <;> simp [localHistory, hP, HistoryRecord.new]

/-! ## A block -/

omit [LinearOrder K] in
theorem addBlock_of_fresh {s : Storage ID K} {blockID : ID} {e : StorageError}
    (hid : s.newestBlockIdToNum blockID = .error e)
    (hnum : s.stateDB.newestBlockNum2Id.get
      (s.lastBlockNum + UInt32.ofNat s.stateDB.blocksNum) = none) :
    StateDB.addBlock blockID s =
      (.ok (), { s with
        dbBatch := s.dbBatch ++ [.putValidBlockNum (s.lastBlockNum + UInt32.ofNat s.stateDB.blocksNum),
          .putBlockIdToNum blockID (s.lastBlockNum + UInt32.ofNat s.stateDB.blocksNum)]
        stateDB :=
          { newestBlockId2Num := s.stateDB.newestBlockId2Num ++
              [(blockID, s.lastBlockNum + UInt32.ofNat s.stateDB.blocksNum)]
            newestBlockNum2Id := s.stateDB.newestBlockNum2Id ++
              [(s.lastBlockNum + UInt32.ofNat s.stateDB.blocksNum, blockID)]
            blocksNum := s.stateDB.blocksNum + 1 } }) := by
  have hget : s.stateDB.newestBlockId2Num.get blockID = none := by
    cases h : s.stateDB.newestBlockId2Num.get blockID with
    | none => rfl
    | some n => simp [Storage.newestBlockIdToNum, h] at hid
  simp [StateDB.addBlock, hid, hnum, GoMap.insert_of_get_eq_none _ _ _ hget,
    GoMap.insert_of_get_eq_none _ _ _ hnum]

theorem addNewEntry_of_num {s : Storage ID K} {blockID : ID} {n : UInt32}
    (hnum : s.newestBlockIdToNum blockID = .ok n) (entity : BlockchainEntity) (key : K)
    (value : List UInt8) :
    HistoryStorage.addNewEntry entity key value blockID s =
      (.ok (), { s with stor := (s.stor.insert key
        (((s.stor.get key).getD (HistoryRecord.new entity)).appendEntry ⟨value, n⟩)) }) := by
  simp [HistoryStorage.addNewEntry, hnum]

theorem get_insert_appendEntry (entityOf : K → BlockchainEntity) {n : UInt32}
    {P : K → List HistoryEntry} (hP : ∀ key, ∀ e ∈ (P key).getLast?, e.blockNum ≠ n)
    {stor : GoMap K HistoryRecord} {done : List (K × List UInt8)}
    (hstor : ∀ key, stor.get key =
      localHistory (entityOf key) (P key ++ ((lastWrite key done).map fun v => ⟨v, n⟩).toList))
    (k : K) (v : List UInt8) (key : K) :
    (stor.insert k (((stor.get k).getD (HistoryRecord.new (entityOf k))).appendEntry ⟨v, n⟩)).get key =
      localHistory (entityOf key)
        (P key ++ ((lastWrite key (done ++ [(k, v)])).map fun v => ⟨v, n⟩).toList) := by
  by_cases hk : key = k
  · subst hk
    rw [GoMap.get_insert_self, hstor, getD_localHistory, lastWrite_concat, if_pos rfl]
    have happ : HistoryRecord.appendEntry
        ⟨entityOf key, P key ++ ((lastWrite key done).map fun v => ⟨v, n⟩).toList⟩ ⟨v, n⟩ =
          ⟨entityOf key, P key ++ [⟨v, n⟩]⟩ := by
      cases hw : lastWrite key done with
      | none => simpa using HistoryRecord.appendEntry_of_ne (entityOf key) (hP key)
      | some v' => simpa using HistoryRecord.appendEntry_concat_same (entityOf key) (P key) v v' n
    simp [happ, localHistory]
  · rw [GoMap.get_insert_ne _ _ hk, hstor, lastWrite_concat, if_neg (Ne.symm hk)]

theorem addEntries_spec (entityOf : K → BlockchainEntity) (blockID : ID) {n : UInt32}
    {P : K → List HistoryEntry} (hP : ∀ key, ∀ e ∈ (P key).getLast?, e.blockNum ≠ n) :
    ∀ (writes done : List (K × List UInt8)) (t : Storage ID K),
      t.newestBlockIdToNum blockID = .ok n → (t.stor.map (·.1)).Nodup →
      (∀ key, t.stor.get key =
        localHistory (entityOf key) (P key ++ ((lastWrite key done).map fun v => ⟨v, n⟩).toList)) →
      ∃ stor' : GoMap K HistoryRecord, (stor'.map (·.1)).Nodup ∧
        (∀ key, stor'.get key = localHistory (entityOf key)
          (P key ++ ((lastWrite key (done ++ writes)).map fun v => ⟨v, n⟩).toList)) ∧
        StateManager.addEntries entityOf blockID writes t = (.ok (), { t with stor := stor' })
  | [], done, t, _, hnd, hstor => ⟨t.stor, hnd, by simpa using hstor, by simp [StateManager.addEntries]⟩
  | (k, v) :: writes, done, t, hnum, hnd, hstor => by
    let t₁ : Storage ID K := { t with stor := (t.stor.insert k
      (((t.stor.get k).getD (HistoryRecord.new (entityOf k))).appendEntry ⟨v, n⟩)) }
    obtain ⟨stor', hnd', hstor', hrun⟩ := addEntries_spec entityOf blockID hP writes
      (done ++ [(k, v)]) t₁ hnum (GoMap.nodup_keys_insert _ _ _ hnd)
      (get_insert_appendEntry entityOf hP hstor k v)
    refine ⟨stor', hnd', by simpa using hstor', ?_⟩
    rw [StateManager.addEntries, StOutcome.bind_run_ok (addNewEntry_of_num hnum _ k v), hrun]

variable {entityOf : K → BlockchainEntity} {s : Storage ID K} {c : Chain ID K}
  {nbs : List (Block ID K × Nat)}

omit [DecidableEq ID] [LinearOrder K] in
theorem mem_pendingNumbered {nb : Block ID K × Nat} (h : nb ∈ pendingNumbered s c) :
    nb.1 ∈ c.pending ∧ s.lastBlockNum.toNat ≤ nb.2 ∧ nb.2 < numbersHandedOut s c := by
  obtain ⟨b, i⟩ := nb
  obtain ⟨hle, hlt, hb⟩ := List.mem_zipIdx h
  exact ⟨hb ▸ List.getElem_mem _, hle, hlt⟩

omit [DecidableEq ID] [LinearOrder K] in
theorem pendingNumbered_concat {s' : Storage ID K} (hlast : s'.lastBlockNum = s.lastBlockNum)
    (b : Block ID K) :
    pendingNumbered s' { c with pending := c.pending ++ [b] } =
      pendingNumbered s c ++ [(b, numbersHandedOut s c)] := by
  simp [pendingNumbered, hlast, List.zipIdx_append, numbersHandedOut]

theorem Numbered.of_settled (hview : View entityOf s nbs s.lastBlockNum.toNat)
    (hblocks : nbs.map (·.1) = c.blocks) (hids : s.rw.ids = c.blocks.map (·.id))
    (hheight : s.db.height = c.blocks.length)
    (hrmh : s.db.rollbackMinHeight = c.rollbackMinHeight) (hnd : (c.blocks.map (·.id)).Nodup)
    (hpending : c.pending = []) (hbuffer : s.rw.buffer = []) (hsdb : s.stateDB = ⟨[], [], 0⟩)
    (hbatch : s.dbBatch = []) (hstor : s.stor = []) :
    Numbered entityOf s c nbs := by
  have hpn : pendingNumbered s c = [] := by simp [pendingNumbered, hpending]
  refine ⟨hview, hblocks, hids, by simp [hbuffer, hpending], hheight, hrmh,
    by simpa [hpending] using hnd, by simpa [hpending] using UInt32.toNat_lt s.lastBlockNum,
    by simp [hsdb, hpending],
    by simp [hsdb, hpn, idNums], by simp [hsdb, hpn, idNums], by simp [hbatch, hpn, idNums, blockOps],
    fun key => by simp [hstor, hpn, localHistory], by simp [hstor]⟩

namespace Numbered

variable (hn : Numbered entityOf s c nbs)
include hn

theorem nextNum : s.lastBlockNum + UInt32.ofNat s.stateDB.blocksNum =
    UInt32.ofNat (numbersHandedOut s c) := by
  rw [hn.blocksNum, numbersHandedOut, UInt32.ofNat_add, UInt32.ofNat_toNat]

theorem ne_nextNum_of_mem {nb : Block ID K × Nat} (h : nb ∈ pendingNumbered s c) :
    UInt32.ofNat nb.2 ≠ UInt32.ofNat (numbersHandedOut s c) := by
  have hlt := (mem_pendingNumbered h).2.2
  have hb := hn.bound
  have hsize : UInt32.size = 2 ^ 32 := rfl
  unfold numbersHandedOut at hlt ⊢
  rw [ne_eq, ← UInt32.toNat_inj, UInt32.toNat_ofNat_of_lt' (by omega),
    UInt32.toNat_ofNat_of_lt' (by omega)]
  omega

theorem nextNum_free : s.stateDB.newestBlockNum2Id.get (UInt32.ofNat (numbersHandedOut s c)) = none := by
  have hmap : (idNums (pendingNumbered s c)).map Prod.swap =
      (pendingNumbered s c).map fun nb => (UInt32.ofNat nb.2, nb.1.id) := by
    simp [idNums, Function.comp_def]
  rw [hn.newestBlockNum2Id, hmap]
  exact GoMap.get_map_eq_none _ _ _ fun nb hnb => hn.ne_nextNum_of_mem hnb

theorem newestBlockIdToNum_fresh {blockID : ID}
    (hfresh : blockID ∉ (c.blocks ++ c.pending).map (·.id)) :
    s.newestBlockIdToNum blockID = .error .notFound := by
  have hmap : idNums (pendingNumbered s c) =
      (pendingNumbered s c).map fun nb => (nb.1.id, UInt32.ofNat nb.2) := rfl
  have hnew : s.stateDB.newestBlockId2Num.get blockID = none := by
    rw [hn.newestBlockId2Num, hmap]
    refine GoMap.get_map_eq_none _ _ _ fun nb hnb hid => hfresh ?_
    rw [← hid]
    exact List.mem_map_of_mem (List.mem_append_right _ (mem_pendingNumbered hnb).1)
  have hdb : s.db.blockIdToNum blockID = none := by
    rw [hn.view.blockIdToNum, Option.map_eq_none_iff, List.find?_eq_none]
    intro nb hnb hid
    refine hfresh ?_
    rw [← of_decide_eq_true hid, ← hn.blocks]
    exact List.mem_map_of_mem (List.mem_append_left _ (List.mem_map_of_mem hnb))
  simp [Storage.newestBlockIdToNum, Storage.blockIdToNum, hnew, hdb]

theorem applyBlock (blockID : ID) (writes : List (K × List UInt8))
    (hfresh : blockID ∉ (c.blocks ++ c.pending).map (·.id)) :
    ∃ s' : Storage ID K, StateManager.applyBlock entityOf blockID writes s = (.ok (), s') ∧
      s'.db = s.db ∧ s'.rw = { s.rw with buffer := s.rw.buffer ++ [blockID] } ∧
      s'.dbBatch = s.dbBatch ++ [.putValidBlockNum (UInt32.ofNat (numbersHandedOut s c)),
        .putBlockIdToNum blockID (UInt32.ofNat (numbersHandedOut s c))] ∧
      s'.stateDB =
        { newestBlockId2Num := s.stateDB.newestBlockId2Num ++
            [(blockID, UInt32.ofNat (numbersHandedOut s c))]
          newestBlockNum2Id := s.stateDB.newestBlockNum2Id ++
            [(UInt32.ofNat (numbersHandedOut s c), blockID)]
          blocksNum := s.stateDB.blocksNum + 1 } ∧
      (s'.stor.map (·.1)).Nodup ∧
      ∀ key, s'.stor.get key = localHistory (entityOf key)
        (entriesOf key (pendingNumbered s c ++ [(⟨blockID, writes⟩, numbersHandedOut s c)])) := by
  have hadd := addBlock_of_fresh (hn.newestBlockIdToNum_fresh hfresh)
    (by rw [hn.nextNum]; exact hn.nextNum_free)
  rw [hn.nextNum] at hadd
  let t : Storage ID K := { s with
    dbBatch := s.dbBatch ++ [.putValidBlockNum (UInt32.ofNat (numbersHandedOut s c)),
      .putBlockIdToNum blockID (UInt32.ofNat (numbersHandedOut s c))]
    stateDB :=
      { newestBlockId2Num := s.stateDB.newestBlockId2Num ++
          [(blockID, UInt32.ofNat (numbersHandedOut s c))]
        newestBlockNum2Id := s.stateDB.newestBlockNum2Id ++
          [(UInt32.ofNat (numbersHandedOut s c), blockID)]
        blocksNum := s.stateDB.blocksNum + 1 }
    rw := { s.rw with buffer := s.rw.buffer ++ [blockID] } }
  have hnum : t.newestBlockIdToNum blockID = .ok (UInt32.ofNat (numbersHandedOut s c)) := by
    have hget : s.stateDB.newestBlockId2Num.get blockID = none := by
      cases h : s.stateDB.newestBlockId2Num.get blockID with
      | none => rfl
      | some n =>
        have := hn.newestBlockIdToNum_fresh hfresh
        simp [Storage.newestBlockIdToNum, h] at this
    simp [t, Storage.newestBlockIdToNum, GoMap.get_append, hget, GoMap.get_cons]
  have hP : ∀ key, ∀ e ∈ (entriesOf key (pendingNumbered s c)).getLast?,
      e.blockNum ≠ UInt32.ofNat (numbersHandedOut s c) := by
    intro key e he
    obtain ⟨nb, hnb, hnum⟩ := mem_entriesOf (List.mem_of_getLast? he)
    rw [hnum]
    exact hn.ne_nextNum_of_mem hnb
  obtain ⟨stor', hnd', hstor', hrun⟩ := addEntries_spec entityOf blockID hP writes [] t hnum
    hn.stor_nodup (fun key => by simpa [lastWrite] using hn.stor key)
  refine ⟨{ t with stor := stor' }, ?_, rfl, rfl, rfl, rfl, hnd', fun key => ?_⟩
  · rw [StateManager.applyBlock, StOutcome.bind_run_ok hadd]
    simp only [BlockReadWriter.startBlock, StOutcome.modify_bind_run]
    exact hrun
  · rw [hstor' key, entriesOf_append, entriesOf_singleton]
    simp

/-- **A block step**: the storage holds the chain with the block in its batch, and one more
number is handed out. -/
theorem block (blockID : ID) (writes : List (K × List UInt8))
    (hfresh : blockID ∉ (c.blocks ++ c.pending).map (·.id))
    (hroom : numbersHandedOut s c + 1 < 2 ^ 32) :
    Numbered entityOf (step entityOf true s (.block blockID writes))
      (c.step (.block blockID writes)) nbs ∧
    numbersHandedOut (step entityOf true s (.block blockID writes)) (c.step (.block blockID writes)) =
      numbersHandedOut s c + 1 := by
  obtain ⟨s', hrun, hdb, hrw, hbatch, hsdb, hnd', hstor'⟩ := hn.applyBlock blockID writes hfresh
  have hstep : step entityOf true s (.block blockID writes) = s' := by
    simp only [step, Op.exec, hrun]
  have hlast : s'.lastBlockNum = s.lastBlockNum := by
    simp [Storage.lastBlockNum, hdb]
  have hpn := pendingNumbered_concat (c := c) hlast ⟨blockID, writes⟩
  rw [hstep]
  simp only [Chain.step] at hpn ⊢
  refine ⟨⟨?_, hn.blocks, by rw [hrw]; exact hn.ids, by simp [hrw, hn.buffer],
    by rw [hdb]; exact hn.height, by rw [hdb]; exact hn.rollbackMinHeight, ?_, ?_,
    by simp [hsdb, hn.blocksNum], ?_, ?_, ?_, ?_, hnd'⟩, ?_⟩
  · rw [hlast]
    exact hn.view.congr hdb (by rw [hrw]; exact hn.view.ids)
  · rw [← List.append_assoc, List.map_append]
    refine List.nodup_append.mpr ⟨hn.nodup, by simp, fun a ha b hb => ?_⟩
    simp only [List.map_cons, List.map_nil, List.mem_singleton] at hb
    rintro rfl
    exact hfresh (hb ▸ ha)
  · have := hn.bound
    rw [hlast, List.length_append, List.length_singleton]
    unfold numbersHandedOut at hroom
    omega
  · rw [hpn, hsdb, hn.newestBlockId2Num]
    simp [idNums]
  · rw [hpn, hsdb, hn.newestBlockNum2Id]
    simp [idNums]
  · rw [hpn, hbatch, hn.dbBatch]
    simp [idNums, blockOps]
  · intro key
    rw [hpn]
    exact hstor' key
  · simp [numbersHandedOut, hlast]
    omega

/-- **A failed batch**: its memory is dropped and the database is left alone. -/
theorem abort :
    Numbered entityOf (step entityOf true s .abort) (c.step .abort) nbs ∧
    numbersHandedOut (step entityOf true s .abort) (c.step .abort) ≤ numbersHandedOut s c := by
  have hstep : step entityOf true s .abort =
      { s with rw := { s.rw with buffer := [] }, stor := [], stateDB := ⟨[], [], 0⟩, dbBatch := [] } := by
    simp [step, Op.exec, StateManager.reset, StateDB.reset, HistoryStorage.reset,
      BlockReadWriter.reset]
  rw [hstep]
  refine ⟨Numbered.of_settled (hn.view.congr rfl hn.view.ids) hn.blocks hn.ids hn.height
    hn.rollbackMinHeight ?_ rfl rfl rfl rfl rfl, ?_⟩
  · exact hn.nodup.sublist ((List.sublist_append_left _ _).map _)
  · simp [numbersHandedOut, Chain.step, Storage.lastBlockNum]

/-! ## A successful batch -/

theorem ids_eq : nbs.map (·.1.id) = s.rw.ids := by
  rw [hn.ids, ← hn.blocks, List.map_map]
  rfl

theorem sorted_append :
    (nbs ++ pendingNumbered s c).Pairwise fun a b => a.2 < b.2 := by
  have hp : (pendingNumbered s c).Pairwise fun a b => a.2 < b.2 := by
    have := List.pairwise_lt_range' (s := s.lastBlockNum.toNat) (n := c.pending.length)
    rw [← List.zipIdx_map_snd, List.pairwise_map] at this
    exact this
  refine List.pairwise_append.mpr ⟨hn.view.sorted, hp, fun a ha b hb => ?_⟩
  exact lt_of_lt_of_le (hn.view.lt a ha) (mem_pendingNumbered hb).2.1

theorem lt_of_mem_append {nb : Block ID K × Nat} (h : nb ∈ nbs ++ pendingNumbered s c) :
    nb.2 < numbersHandedOut s c := by
  rcases List.mem_append.mp h with h | h
  · exact lt_of_lt_of_le (hn.view.lt nb h) (Nat.le_add_right _ _)
  · exact (mem_pendingNumbered h).2.2

theorem ids_append :
    (nbs ++ pendingNumbered s c).map (·.1.id) = (c.blocks ++ c.pending).map (·.id) := by
  have hp : (pendingNumbered s c).map (·.1.id) = c.pending.map (·.id) := by
    conv_rhs => rw [← List.zipIdx_map_fst s.lastBlockNum.toNat c.pending, List.map_map]
    rfl
  rw [List.map_append, List.map_append, hp, ← hn.blocks, List.map_map]
  rfl

theorem stor_spec :
    (∀ kv ∈ s.stor, kv.2 = ⟨entityOf kv.1, entriesOf kv.1 (pendingNumbered s c)⟩) ∧
    ∀ key, key ∈ s.stor.map (·.1) ↔ entriesOf key (pendingNumbered s c) ≠ [] := by
  refine ⟨fun kv hkv => ?_, fun key => ?_⟩
  · have hget := GoMap.get_of_mem hn.stor_nodup hkv
    rw [hn.stor] at hget
    unfold localHistory at hget
    split at hget
    · exact absurd hget (by simp)
    · exact (Option.some.inj hget).symm
  · rw [← not_iff_not, not_not, ← GoMap.get_eq_none_iff, hn.stor]
    unfold localHistory
    split <;> simp_all

theorem nodup_append : ((nbs ++ pendingNumbered s c).map (·.1.id)).Nodup := by
  rw [hn.ids_append]
  exact hn.nodup

theorem nodup_idNums : ((idNums (pendingNumbered s c)).map (·.1)).Nodup := by
  simp only [idNums, List.map_map]
  exact hn.nodup_append.sublist ((List.sublist_append_right _ _).map _)

theorem blockIdToNum_append (blockID : ID) :
    (GoMap.get (idNums (pendingNumbered s c)).reverse blockID).or (s.db.blockIdToNum blockID) =
      ((nbs ++ pendingNumbered s c).find? (·.1.id = blockID)).map fun nb => UInt32.ofNat nb.2 := by
  have hnd := hn.nodup_append
  have hpnd := hn.nodup_idNums
  have hget : GoMap.get (idNums (pendingNumbered s c)) blockID =
      ((pendingNumbered s c).find? (·.1.id = blockID)).map fun nb => UInt32.ofNat nb.2 := by
    simp [GoMap.get, idNums, List.find?_map, Function.comp_def]
  rw [GoMap.get_reverse hpnd, hget, hn.view.blockIdToNum, List.find?_append]
  cases hp : (pendingNumbered s c).find? (·.1.id = blockID) with
  | none => simp
  | some b =>
    have hb := List.find?_some hp
    have hbmem := List.mem_of_find?_eq_some hp
    have hnone : nbs.find? (·.1.id = blockID) = none := by
      rw [List.find?_eq_none]
      intro a ha hab
      simp only [decide_eq_true_eq] at hb hab
      rw [List.map_append] at hnd
      have h1 : blockID ∈ nbs.map (·.1.id) := hab ▸ List.mem_map_of_mem ha
      have h2 : blockID ∈ (pendingNumbered s c).map (·.1.id) := hb ▸ List.mem_map_of_mem hbmem
      exact List.disjoint_of_nodup_append hnd h1 h2
    simp [hnone]

theorem not_mem_pending_of_lt {n : UInt32} (hn' : n.toNat < s.lastBlockNum.toNat) :
    n ∉ (pendingNumbered s c).map fun nb => UInt32.ofNat nb.2 := by
  intro hmem
  obtain ⟨nb, hnb, rfl⟩ := List.mem_map.mp hmem
  have hle := (mem_pendingNumbered hnb).2.1
  have hlt := hn.bound
  have hnb2 := (mem_pendingNumbered hnb).2.2
  unfold numbersHandedOut at hnb2
  rw [UInt32.toNat_ofNat_of_lt' (by have : UInt32.size = 2 ^ 32 := rfl; omega)] at hn'
  omega

theorem length_append :
    (nbs ++ pendingNumbered s c).length = c.blocks.length + c.pending.length := by
  rw [List.length_append, ← hn.blocks, List.length_map, pendingNumbered, List.length_zipIdx]

theorem toNat_numbersHandedOut :
    (UInt32.ofNat (numbersHandedOut s c)).toNat = numbersHandedOut s c := by
  have hsize : UInt32.size = 2 ^ 32 := rfl
  have hb := hn.bound
  unfold numbersHandedOut at hb ⊢
  exact UInt32.toNat_ofNat_of_lt' (by omega)

theorem view_commit {hs : K → Option HistoryRecord} {rs : K → HistoryRecord} {s' : Storage ID K}
    (hv₃ : View entityOf { s with db := { s.db with histories := hs } } nbs s.lastBlockNum.toNat)
    (hrs : ∀ kv ∈ s.stor, (rs kv.1).entityType = entityOf kv.1 ∧
      ∃ j ≤ belowWindow kv.1 nbs s.db.rollbackMinHeight - 1,
        (rs kv.1).entries = (entriesOf kv.1 nbs).drop j ++ kv.2.entries)
    (hids : s'.rw.ids = s.rw.ids ++ s.rw.buffer)
    (hid : ∀ blockID, s'.db.blockIdToNum blockID =
      (GoMap.get (idNums (pendingNumbered s c)).reverse blockID).or (s.db.blockIdToNum blockID))
    (hvalid : ∀ n, s'.isValidBlock n =
      (s.isValidBlock n || decide (n ∈ (pendingNumbered s c).map fun nb => UInt32.ofNat nb.2)))
    (hrmh : s'.db.rollbackMinHeight =
      Chain.windowAfter s.db.rollbackMinHeight (nbs ++ pendingNumbered s c).length)
    (hhist : ∀ key, s'.db.histories key =
      if key ∈ s.stor.map (·.1) then some (rs key) else hs key) :
    View entityOf s' (nbs ++ pendingNumbered s c) (numbersHandedOut s c) := by
  obtain ⟨hlv, hlmem⟩ := hn.stor_spec
  have hbelow : ∀ key, belowWindow key nbs s.db.rollbackMinHeight ≤
      belowWindow key (nbs ++ pendingNumbered s c) s'.db.rollbackMinHeight := fun key =>
    belowWindow_mono key (by rw [hrmh]; exact Chain.le_windowAfter _ _)
      (List.take_append_of_le_length hn.view.rollbackMinHeight_sub_le).symm
  refine ⟨?ids, ?nodup, hn.sorted_append, fun nb h => hn.lt_of_mem_append h, hn.bound, ?bid,
    ?valid, ?pos, ?le, ?empty, ?stored⟩
  case ids =>
    rw [hids, hn.ids_append, hn.ids, hn.buffer, List.map_append]
  case nodup =>
    rw [hn.ids_append]
    exact hn.nodup
  case bid =>
    intro blockID
    rw [hid, hn.blockIdToNum_append]
  case valid =>
    intro n
    rw [hvalid, Bool.or_eq_true, hn.view.valid, decide_eq_true_iff, List.map_append,
      List.mem_append]
  case pos =>
    rw [hrmh]
    exact le_trans hn.view.rollbackMinHeight_pos (Chain.le_windowAfter _ _)
  case le =>
    have hw := Chain.windowAfter_le s.db.rollbackMinHeight (nbs ++ pendingNumbered s c).length
    have hle := hn.view.rollbackMinHeight_le
    rw [hrmh]
    rw [List.length_append] at hw ⊢
    omega
  case empty =>
    intro hnil key
    obtain ⟨h1, h2⟩ := List.append_eq_nil_iff.mp hnil
    have hk : key ∉ s.stor.map (·.1) := by
      rw [hlmem, h2]
      simp
    rw [hhist, if_neg hk]
    exact hv₃.empty h1 key
  case stored =>
    intro key
    rw [hhist]
    split_ifs with hk
    · -- a key of the batch: the chain's entries from below the window, then the batch's
      obtain ⟨kv, hkv, rfl⟩ := List.mem_map.mp hk
      obtain ⟨hent, j, hj, hr⟩ := hrs kv hkv
      have hjW : j ≤ (entriesOf kv.1 nbs).length :=
        le_trans (by omega) (belowWindow_le kv.1 nbs s.db.rollbackMinHeight)
      have hr' : (rs kv.1).entries = (entriesOf kv.1 (nbs ++ pendingNumbered s c)).drop j := by
        rw [hr, hlv kv hkv, entriesOf_append, List.drop_append_of_le_length hjW]
      have hsorted := pairwise_entriesOf kv.1 hn.sorted_append fun nb h =>
        lt_trans (hn.lt_of_mem_append h) hn.bound
      refine ⟨hent, hr' ▸ hsorted.sublist (List.drop_sublist _ _), j, [],
        le_trans hj (Nat.sub_le_sub_right (hbelow kv.1) 1), by rw [hr', List.append_nil],
        by simp⟩
    · have hp : entriesOf key (pendingNumbered s c) = [] := by
        by_contra h
        exact hk ((hlmem key).mpr h)
      rw [entriesOf_append, hp, List.append_nil]
      refine (hv₃.stored key).mono (hbelow key) (Nat.le_add_right _ _) fun n hlt hfalse => ?_
      have hfalse' : s.isValidBlock n = false := hfalse
      rw [hvalid, hfalse', Bool.false_or, decide_eq_false_iff_not]
      exact hn.not_mem_pending_of_lt hlt

theorem newestBlockIdToNum_eq (blockID : ID) :
    s.newestBlockIdToNum blockID =
      match (nbs ++ pendingNumbered s c).find? (·.1.id = blockID) with
      | some nb => .ok (UInt32.ofNat nb.2)
      | none => .error .notFound := by
  have hnums := hn.blockIdToNum_append blockID
  rw [GoMap.get_reverse hn.nodup_idNums] at hnums
  unfold Storage.newestBlockIdToNum Storage.blockIdToNum
  rw [hn.newestBlockId2Num]
  cases hfind : (nbs ++ pendingNumbered s c).find? (·.1.id = blockID) with
  | none =>
    rw [hfind, Option.map_none, Option.or_eq_none_iff] at hnums
    simp [hnums.1, hnums.2]
  | some nb =>
    rw [hfind, Option.map_some] at hnums
    cases hget : GoMap.get (idNums (pendingNumbered s c)) blockID with
    | some n =>
      rw [hget, Option.some_or] at hnums
      simp [Option.some.inj hnums]
    | none =>
      rw [hget, Option.none_or] at hnums
      simp [hnums]

theorem newestBlockNumByHeight {h : Nat} (h1 : 1 ≤ h)
    (hh : h ≤ (nbs ++ pendingNumbered s c).length) :
    s.newestBlockNumByHeight h = .ok (UInt32.ofNat (nbs ++ pendingNumbered s c)[h - 1].2) := by
  have hi : h - 1 < ((nbs ++ pendingNumbered s c).map (·.1.id)).length := by
    rw [List.length_map]
    omega
  have hids : s.rw.ids ++ s.rw.buffer = (nbs ++ pendingNumbered s c).map (·.1.id) := by
    rw [hn.ids_append, List.map_append, hn.ids, hn.buffer]
  have hlen : s.rw.ids.length = nbs.length := by rw [← hn.ids_eq, List.length_map]
  have hid : s.newestBlockIDByHeight h = .ok (nbs ++ pendingNumbered s c)[h - 1].1.id := by
    have hget : (s.rw.ids ++ s.rw.buffer)[h - 1]? = some (nbs ++ pendingNumbered s c)[h - 1].1.id := by
      rw [hids, List.getElem?_map, List.getElem?_eq_getElem (by simpa using hi)]
      rfl
    unfold Storage.newestBlockIDByHeight Storage.blockIDByHeight
    by_cases hlt : s.rw.ids.length < h
    · rw [List.getElem?_append_right (by omega)] at hget
      rw [if_pos hlt, show h - s.rw.ids.length - 1 = h - 1 - s.rw.ids.length by omega, hget]
    · rw [List.getElem?_append_left (by omega)] at hget
      rw [if_neg hlt, if_neg (by omega), hget]
  have hnum : s.newestBlockIdToNum (nbs ++ pendingNumbered s c)[h - 1].1.id =
      .ok (UInt32.ofNat (nbs ++ pendingNumbered s c)[h - 1].2) := by
    rw [hn.newestBlockIdToNum_eq, find?_id_getElem hn.nodup_append (by simpa using hi)]
  rw [Storage.newestBlockNumByHeight, hid]
  exact hnum

theorem newestEntriesDataInHeightRange (key : K) {startHeight endHeight : Nat}
    (h0 : c.rollbackMinHeight ≤ startHeight) (hse : startHeight ≤ endHeight)
    (hh : endHeight ≤ (nbs ++ pendingNumbered s c).length) :
    (HistoryStorage.newestEntriesDataInHeightRange true key startHeight endHeight s).1 =
      if entriesOf key (nbs ++ pendingNumbered s c) = [] then
        .error (if s.db.histories key = none then .notFound else .emptyHist)
      else .ok (((entriesOf key ((nbs ++ pendingNumbered s c).take endHeight)).map (·.data)).drop
        ((entriesOf key ((nbs ++ pendingNumbered s c).take startHeight)).length - 1)) := by
  have h0' : s.db.rollbackMinHeight ≤ startHeight := hn.rollbackMinHeight ▸ h0
  have h1 : 1 ≤ startHeight := le_trans hn.view.rollbackMinHeight_pos h0'
  obtain ⟨j, hj, x, -, hfull⟩ := hn.view.fullHistory key (by rw [hn.stor key]; rfl)
  rw [← entriesOf_append] at hfull
  by_cases hW : entriesOf key (nbs ++ pendingNumbered s c) = []
  · simp [HistoryStorage.newestEntriesDataInHeightRange, StOutcome.bind_run, StOutcome.bind,
      hfull, hW]
  have hjs : j ≤ (entriesOf key ((nbs ++ pendingNumbered s c).take startHeight)).length - 1 :=
    le_length_take_of_le_belowWindow key hj h0'
      (List.take_append_of_le_length hn.view.rollbackMinHeight_sub_le).symm
  have hne : (entriesOf key (nbs ++ pendingNumbered s c)).drop j ≠ [] := by
    have hpre := (entriesOf_take_prefixOf key (nbs ++ pendingNumbered s c) startHeight).length_le
    have hpos := List.length_pos_iff.mpr hW
    rw [ne_eq, List.drop_eq_nil_iff]
    omega
  have hnumS : (s.withHistory key x).newestBlockNumByHeight startHeight =
      .ok (UInt32.ofNat (nbs ++ pendingNumbered s c)[startHeight - 1].2) :=
    hn.newestBlockNumByHeight h1 (le_trans hse hh)
  have hnumE : (s.withHistory key x).newestBlockNumByHeight endHeight =
      .ok (UInt32.ofNat (nbs ++ pendingNumbered s c)[endHeight - 1].2) :=
    hn.newestBlockNumByHeight (le_trans h1 hse) hh
  simp only [HistoryStorage.newestEntriesDataInHeightRange, StOutcome.bind_run, StOutcome.bind,
    hfull, if_neg hW, if_neg hne, StOutcome.get_run, StOutcome.lift_run, hnumS, hnumE,
    Outcome.ofExcept, StOutcome.pure_run]
  rw [blockRangeEntries_entriesOf key hn.sorted_append
    (fun _ hnb => lt_trans (hn.lt_of_mem_append hnb) hn.bound) _ h1 hse hh hjs]

/-- **A successful batch**: the storage holds the chain with the batch's blocks on top, numbered
on from the chain's, and the numbers handed out stay. -/
theorem commit :
    Numbered entityOf (step entityOf true s .commit) (c.step .commit)
      (nbs ++ pendingNumbered s c) ∧
    numbersHandedOut (step entityOf true s .commit) (c.step .commit) = numbersHandedOut s c := by
  obtain ⟨hlv, hlmem⟩ := hn.stor_spec
  let s₁ : Storage ID K := { s with rw := ⟨s.rw.ids ++ s.rw.buffer, []⟩ }
  have hv₁ : View entityOf s₁ nbs s.lastBlockNum.toNat :=
    hn.view.congr rfl (by rw [hn.ids_eq]; exact List.prefix_append _ _)
  obtain ⟨rs, hs, hflush, hv₃, hrs⟩ := hv₁.flush hn.stor_nodup fun kv hkv => by rw [hlv kv hkv]
  have hstep : step entityOf true s .commit = StateManager.reset (StateDB.flush { s₁ with
      db := { s₁.db with histories := hs }
      dbBatch := s₁.dbBatch ++
        (HistoryStorage.sortEntries s₁.stor).map fun kv => .putHistory kv.1 (rs kv.1)
      stor := [] }).2 := by
    simp only [step, Op.exec, StOutcome.withDefer_run, StateManager.flush, BlockReadWriter.flush,
      StOutcome.modify_bind_run]
    rw [StOutcome.bind_run_ok hflush]
  rw [hstep, StateDB.flush_run, hn.dbBatch, List.foldl_append, List.foldl_append, foldl_blockOps,
    foldl_putHistory]
  simp only [StateManager.reset, StateDB.reset, HistoryStorage.reset, BlockReadWriter.reset,
    List.foldl_cons, List.foldl_nil, BatchOp.apply]
  have hsort : ∀ key, key ∈ (HistoryStorage.sortEntries s.stor).map (·.1) ↔
      key ∈ s.stor.map (·.1) := fun key => ((List.mergeSort_perm _ _).map _).mem_iff
  have hlast : ∀ s' : Storage ID K, s'.lastBlockNum = UInt32.ofNat (numbersHandedOut s c) →
      View entityOf s' (nbs ++ pendingNumbered s c) (numbersHandedOut s c) →
      View entityOf s' (nbs ++ pendingNumbered s c) s'.lastBlockNum.toNat := by
    intro s' h hv
    rwa [h, hn.toNat_numbersHandedOut]
  constructor
  · apply Numbered.of_settled
    case hview =>
      refine hlast _ hn.nextNum (hn.view_commit (hv₃.congr rfl hn.view.ids) hrs rfl
        (fun _ => rfl) (fun _ => ?_) ?_ fun key => ?_)
      · simp only [Storage.isValidBlock, idNums, List.map_map]
        rfl
      · show Chain.windowAfter s.db.rollbackMinHeight (s.db.height + s.stateDB.blocksNum) = _
        rw [hn.length_append, hn.height, hn.blocksNum]
      · show (if key ∈ (HistoryStorage.sortEntries s.stor).map (·.1) then some (rs key)
          else hs key) = _
        simp only [hsort]
    case hblocks => simp [Chain.step, pendingNumbered, List.zipIdx_map_fst, hn.blocks]
    case hids =>
      show s.rw.ids ++ s.rw.buffer = _
      simp [Chain.step, hn.ids, hn.buffer]
    case hheight =>
      show s.db.height + s.stateDB.blocksNum = (c.blocks ++ c.pending).length
      rw [hn.height, hn.blocksNum, List.length_append]
    case hrmh =>
      show Chain.windowAfter s.db.rollbackMinHeight (s.db.height + s.stateDB.blocksNum) =
        Chain.windowAfter c.rollbackMinHeight (c.blocks.length + c.pending.length)
      rw [hn.rollbackMinHeight, hn.height, hn.blocksNum]
    case hnd => simpa [Chain.step] using hn.nodup
    all_goals rfl
  · show (s.lastBlockNum + UInt32.ofNat s.stateDB.blocksNum).toNat + 0 = _
    rw [hn.nextNum, hn.toNat_numbersHandedOut, Nat.add_zero]

/-! ## A rollback -/

theorem rollbackLoop_run {e : ID} {h : Nat} (hh : 1 ≤ h)
    (he : (nbs.map (·.1.id))[h - 1]? = some e) {t : Storage ID K} (hdb : t.db = s.db)
    (hids : t.rw.ids = nbs.map (·.1.id)) (cur : Nat) (hhc : h ≤ cur) (hcur : cur ≤ nbs.length) :
    StateDB.rollbackLoop e cur t =
      (.ok h, { t with
        dbBatch := t.dbBatch ++ deleteOps (idNums ((nbs.take cur).drop h).reverse) }) := by
  induction cur generalizing t with
  | zero => omega
  | succ cur ih =>
    have hcur' : cur < nbs.length := by omega
    have hread : t.blockIDByHeight (cur + 1) = .ok nbs[cur].1.id := by
      simp [Storage.blockIDByHeight, hids, hcur']
    obtain ⟨hi, hget⟩ := List.getElem?_eq_some_iff.mp he
    by_cases hedge : nbs[cur].1.id = e
    · have hhcur : h - 1 = cur := by
        have hcm : cur < (nbs.map (·.1.id)).length := by simpa using hcur'
        have heq : (nbs.map (·.1.id))[h - 1] = (nbs.map (·.1.id))[cur] := by
          rw [hget, List.getElem_map, hedge]
        exact (hn.view.nodup.getElem_inj_iff).mp heq
      have hnil : (nbs.take (cur + 1)).drop h = [] :=
        List.drop_eq_nil_of_le (by rw [List.length_take]; omega)
      simp [StateDB.rollbackLoop, hread, hedge, hnil, deleteOps, idNums]
      omega
    · have hhc' : h ≤ cur := by
        by_contra hlt
        have hcur_eq : h - 1 = cur := by omega
        subst hcur_eq
        exact hedge (by simpa using hget)
      have hnum : t.blockIdToNum nbs[cur].1.id = .ok (UInt32.ofNat nbs[cur].2) := by
        simp [Storage.blockIdToNum, hdb, hn.view.blockIdToNum, find?_id_getElem hn.view.nodup hcur']
      have hblock : StateDB.rollbackBlock nbs[cur].1.id t = (.ok (), { t with
          dbBatch := t.dbBatch ++ [BatchOp.deleteValidBlockNum (UInt32.ofNat nbs[cur].2),
            .deleteBlockIdToNum nbs[cur].1.id] }) := by
        simp [StateDB.rollbackBlock, hnum]
      have htake : (nbs.take (cur + 1)).drop h = (nbs.take cur).drop h ++ [nbs[cur]] := by
        rw [List.take_add_one, List.getElem?_eq_getElem hcur', Option.toList_some,
          List.drop_append_of_le_length (by rw [List.length_take]; omega)]
      simp only [StateDB.rollbackLoop, hread, if_neg hedge]
      rw [StOutcome.bind_run_ok hblock, ih ?_ ?_ hhc' (by omega), htake]
      · simp [idNums, deleteOps]
      · exact hdb
      · exact hids

/-- **A rollback** outside a batch to a block of the window: the storage holds the chain cut to
the block's height, and the numbers handed out stay. -/
theorem rollback {e : ID} (hpre : c.Pre (.rollback e)) :
    Numbered entityOf (step entityOf true s (.rollback e)) (c.step (.rollback e))
      (nbs.take (c.heightOf e)) ∧
    numbersHandedOut (step entityOf true s (.rollback e)) (c.step (.rollback e)) =
      numbersHandedOut s c := by
  obtain ⟨hpend, h, hh, hhl, he⟩ := hpre
  obtain ⟨-, hlmem⟩ := hn.stor_spec
  have hpn : pendingNumbered s c = [] := by simp [pendingNumbered, hpend]
  have hstor : s.stor = [] := by
    have hkeys : s.stor.map (·.1) = [] := List.eq_nil_iff_forall_not_mem.mpr fun key hk =>
      (hlmem key).mp hk (by rw [hpn]; rfl)
    exact List.map_eq_nil_iff.mp hkeys
  have hbatch : s.dbBatch = [] := by rw [hn.dbBatch, hpn]; rfl
  have hh1 : 1 ≤ h := le_trans (hn.rollbackMinHeight ▸ hn.view.rollbackMinHeight_pos) hh
  have hheightOf : c.heightOf e = h :=
    Chain.heightOf_eq (hn.nodup.sublist ((List.sublist_append_left _ _).map _)) he hh1
  have hlen : nbs.length = c.blocks.length := by rw [← hn.blocks, List.length_map]
  have he' : (nbs.map (·.1.id))[h - 1]? = some e := by rw [hn.ids_eq, hn.ids]; exact he
  have hloop := hn.rollbackLoop_run hh1 he' rfl hn.ids_eq.symm nbs.length (by omega) le_rfl
  rw [List.take_length, hbatch, List.nil_append] at hloop
  have hdb : StateDB.rollback e s = (.ok (), StateDB.reset { s with
      dbBatch := deleteOps (idNums (nbs.drop h).reverse) ++ [BatchOp.putHeight h]
      db := (deleteOps (idNums (nbs.drop h).reverse) ++ [BatchOp.putHeight h]).foldl BatchOp.apply s.db }) := by
    simp only [StateDB.rollback, StOutcome.withDefer_run, StOutcome.get_bind_run]
    rw [hn.height, ← hlen, StOutcome.bind_run_ok hloop]
    rfl
  have hstep : step entityOf true s (.rollback e) = {
      db := { s.db with
        validBlockNums := fun n =>
          s.db.validBlockNums n && !decide (n ∈ (idNums (nbs.drop h).reverse).map (·.2))
        blockIdToNum := fun blockID =>
          if blockID ∈ (idNums (nbs.drop h).reverse).map (·.1) then none
          else s.db.blockIdToNum blockID
        height := h }
      dbBatch := []
      stateDB := ⟨[], [], 0⟩
      rw := ⟨s.rw.ids.take h, []⟩
      stor := [] } := by
    simp only [step, Op.exec, StateManager.rollbackToImpl]
    rw [StOutcome.bind_run_ok hdb]
    simp [BlockReadWriter.syncWithDb, HistoryStorage.flush, HistoryStorage.sortEntries, hstor,
      HistoryStorage.flushLoop, StateDB.reset, List.foldl_append, foldl_deleteOps, BatchOp.apply]
  simp only [Chain.step, hheightOf]
  rw [hstep]
  constructor
  · apply Numbered.of_settled
    case hview =>
      refine hn.view.rollback (hn.rollbackMinHeight ▸ hh) (by omega) ?_ rfl (fun blockID => ?_)
        (fun n => ?_) rfl
      · show s.rw.ids.take h = _
        rw [← hn.ids_eq, List.map_take]
      · simp [idNums, List.map_reverse, Function.comp_def]
      · simp [Storage.isValidBlock, idNums, List.map_reverse, Function.comp_def]
    case hblocks => rw [List.map_take, hn.blocks]
    case hids =>
      show s.rw.ids.take h = _
      rw [hn.ids, List.map_take]
    case hheight =>
      show h = (c.blocks.take h).length
      rw [List.length_take, min_eq_left hhl]
    case hrmh => exact hn.rollbackMinHeight
    case hnd =>
      exact hn.nodup.sublist (((List.take_sublist _ _).trans (List.sublist_append_left _ _)).map _)
    case hpending => exact hpend
    case hstor => rfl
    all_goals rfl
  · rfl

end Numbered

/-! ## Runs -/

theorem Numbered.step_op (hn : Numbered entityOf s c nbs) {op : Op ID K} (hpre : c.Pre op)
    (hroom : numbersHandedOut s c + (if op.isBlock then 1 else 0) < 2 ^ 32) :
    ∃ nbs', Numbered entityOf (step entityOf true s op) (c.step op) nbs' ∧
      numbersHandedOut (step entityOf true s op) (c.step op) ≤
        numbersHandedOut s c + (if op.isBlock then 1 else 0) := by
  cases op with
  | block blockID writes =>
    obtain ⟨hn', hnum⟩ := hn.block blockID writes hpre (by simpa [Op.isBlock] using hroom)
    exact ⟨nbs, hn', by simp [Op.isBlock, hnum]⟩
  | commit =>
    obtain ⟨hn', hnum⟩ := hn.commit
    exact ⟨_, hn', by simp [Op.isBlock, hnum]⟩
  | abort =>
    obtain ⟨hn', hnum⟩ := hn.abort
    exact ⟨nbs, hn', by simpa [Op.isBlock] using hnum⟩
  | rollback removalEdge =>
    obtain ⟨hn', hnum⟩ := hn.rollback hpre
    exact ⟨_, hn', by simp [Op.isBlock, hnum]⟩

/-- **A run** of operations that pass the state's checks keeps the storage holding the chain,
as long as the numbers handed out and the blocks to come stay below `2 ^ 32`. -/
theorem Numbered.run_ops {ops : List (Op ID K)} (hn : Numbered entityOf s c nbs)
    (hpre : c.PreRun ops) (hroom : numbersHandedOut s c + (ops.filter Op.isBlock).length < 2 ^ 32) :
    HoldsChain entityOf (run entityOf true s ops) (c.run ops) := by
  induction ops generalizing s c nbs with
  | nil => exact ⟨nbs, hn⟩
  | cons op ops ih =>
    obtain ⟨hop, hops⟩ := hpre
    have hcount : (List.filter Op.isBlock (op :: ops)).length =
        (if op.isBlock then 1 else 0) + (ops.filter Op.isBlock).length := by
      cases hb : op.isBlock <;> simp [hb, Nat.add_comm]
    rw [hcount] at hroom
    obtain ⟨nbs', hn', hnum⟩ := hn.step_op hop (by omega)
    exact ih hn' hops (by omega)

end Numbered

/-! ## Reads after a run -/

section Reads

variable {ID K : Type} [DecidableEq ID] [LinearOrder K]

theorem holdsChain_run (entityOf : K → BlockchainEntity) {ops : List (Op ID K)}
    (hpre : Chain.initial.PreRun ops) (hblocks : (ops.filter Op.isBlock).length < 2 ^ 32) :
    HoldsChain entityOf (run entityOf true Storage.initial ops) (Chain.initial.run ops) := by
  have hzero : numbersHandedOut (Storage.initial : Storage ID K) Chain.initial = 0 := rfl
  exact (Numbered.initial entityOf).run_ops hpre (by rw [hzero, Nat.zero_add]; exact hblocks)

end Reads

end Gowaves.State
