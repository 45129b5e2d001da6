import Gowaves.GoLib.GoMap
import Mathlib.Data.List.Nodup
import Mathlib.Data.List.TakeWhile

/-!
# Block sync (`pkg/libs/ordered_blocks`, `pkg/node/fsm/sync_internal`)

While a node syncs, `Internal` asks a peer for the IDs of the blocks after its own, then for
those blocks (and, on a light node, their snapshots), and hands them to the state in the order
it asked for them.  `OrderedBlocks` keeps that order:

* `requested`, the IDs asked for and not yet handed over, oldest first;
* `blocks`, whose keys are exactly the requested IDs, with `nil` for a block not yet received;
* `snapshots`, with an entry for every ID `Add` saw.

`Add` puts an ID in all three; `pop` takes the first requested ID out of `requested` and
`blocks` once its block has arrived, and out of `snapshots` only on a light node that has its
snapshot too.  `Internal.Blocks` pops everything once every requested block (and snapshot) is
in.  The model is generic in the types of the IDs, the blocks and the snapshots; a Go pointer
that may be `nil` is an `Option`, and a missing map key reads as `nil`.

Results:

* `Inv`, kept by every step of `Internal` (`step_inv`, `reachable_inv`): the requested IDs are
  distinct and are the keys of `blocks`, each of them has an entry in `snapshots`, and every
  block is stored under its own ID;
* `blocks_delivers`: `Blocks` does nothing until every requested block is in, and then hands
  over the blocks of all the requested IDs, in the order asked for, and on a light node their
  snapshots, the ones set and not `nil`;
* `blocks_keepsSnapshots`: on a full node, every ID `Blocks` hands over keeps its entry in
  `snapshots`, though it has left `requested` and `blocks`.
-/

set_option autoImplicit false

namespace Gowaves.Sync

open GoLib

structure OrderedBlocks (κ β σ : Type) where
  requested : List κ
  blocks : GoMap κ (Option β)
  snapshots : GoMap κ (Option σ)

section

variable {κ β σ : Type} [DecidableEq κ] (blockID : β → κ)

def newOrderedBlocks : OrderedBlocks κ β σ := ⟨[], [], []⟩

namespace OrderedBlocks

/-- `Contains`: the ID has a key in `blocks`, whether its block has arrived or not. -/
def contains (a : OrderedBlocks κ β σ) (sig : κ) : Bool := a.blocks.contains sig

/-- `SetBlock`: the block under its own ID. -/
def setBlock (a : OrderedBlocks κ β σ) (b : β) : OrderedBlocks κ β σ :=
  { a with blocks := a.blocks.insert (blockID b) (some b) }

def setSnapshot (a : OrderedBlocks κ β σ) (id : κ) (snapshot : Option σ) : OrderedBlocks κ β σ :=
  { a with snapshots := a.snapshots.insert id snapshot }

/-- `pop`: the first requested ID with its block, once the block has arrived.  Its `blocks`
entry goes; its `snapshots` entry goes only on a light node whose snapshot has arrived, and
the snapshot is returned only then. -/
def pop (a : OrderedBlocks κ β σ) (isLightNode : Bool) : Option (κ × β × Option σ) × OrderedBlocks κ β σ :=
  match a.requested with
  | [] => (none, a)
  | firstSig :: rest =>
    match (a.blocks.get firstSig).join with
    | none => (none, a)
    | some bts =>
      let bsn := (a.snapshots.get firstSig).join
      if isLightNode = true ∧ bsn.isSome then
        (some (firstSig, bts, bsn),
          ⟨rest, a.blocks.delete firstSig, a.snapshots.delete firstSig⟩)
      else (some (firstSig, bts, none), ⟨rest, a.blocks.delete firstSig, a.snapshots⟩)

/-- The loop of `PopAll`, for at most `fuel` pops. -/
def popAllLoop (isLightNode : Bool) :
    Nat → OrderedBlocks κ β σ → List β × List (Option σ) → (List β × List (Option σ)) × OrderedBlocks κ β σ
  | 0, a, out => (out, a)
  | fuel + 1, a, out =>
    match a.pop isLightNode with
    | (none, a) => (out, a)
    | (some (_, b, s), a) => popAllLoop isLightNode fuel a (out.1 ++ [b], out.2 ++ [s])

/-- `PopAll`: pop until `pop` fails.  Every pop takes an ID out of `requested`, so the loop
runs at most `len(requested)` times. -/
def popAll (a : OrderedBlocks κ β σ) (isLightNode : Bool) :
    (List β × List (Option σ)) × OrderedBlocks κ β σ :=
  popAllLoop isLightNode a.requested.length a ([], [])

/-- `Add`: an ID not yet in `blocks` is requested, with `nil` block and snapshot. -/
def add (a : OrderedBlocks κ β σ) (sig : κ) : Bool × OrderedBlocks κ β σ :=
  if a.blocks.contains sig then (false, a)
  else (true, ⟨a.requested ++ [sig], a.blocks.insert sig none, a.snapshots.insert sig none⟩)

def requestedCount (a : OrderedBlocks κ β σ) : Nat := a.requested.length

/-- Whether `ReceivedCount` counts the requested ID: its block has arrived, and on a light
node its snapshot too. -/
def received (a : OrderedBlocks κ β σ) (isLightNode : Bool) (sig : κ) : Bool :=
  (a.blocks.get sig).join.isSome && (!isLightNode || (a.snapshots.get sig).join.isSome)

/-- `ReceivedCount`: the position of the first requested ID not received. -/
def receivedCount (a : OrderedBlocks κ β σ) (isLightNode : Bool) : Nat :=
  (a.requested.takeWhile (a.received isLightNode)).length

/-! ## The invariant -/

/-- What `OrderedBlocks` keeps through `Internal`'s calls: the requested IDs are distinct and
are the keys of `blocks`, each has an entry in `snapshots`, and every block is stored under
its own ID. -/
structure Inv (a : OrderedBlocks κ β σ) : Prop where
  nodup : a.requested.Nodup
  keys : ∀ id, a.blocks.contains id = true ↔ id ∈ a.requested
  snapshots : ∀ id ∈ a.requested, a.snapshots.contains id = true
  own : ∀ id b, a.blocks.get id = some (some b) → blockID b = id

theorem inv_new : Inv blockID (newOrderedBlocks : OrderedBlocks κ β σ) where
  nodup := List.nodup_nil
  keys := by simp [newOrderedBlocks, GoMap.contains]
  snapshots := by simp [newOrderedBlocks]
  own := by simp [newOrderedBlocks]

variable {blockID}

theorem Inv.add {a : OrderedBlocks κ β σ} (hi : Inv blockID a) (sig : κ) : Inv blockID (a.add sig).2 := by
  unfold OrderedBlocks.add
  split
  · exact hi
  · rename_i hnew
    have hnot : sig ∉ a.requested := fun h => hnew ((hi.keys sig).2 h)
    refine ⟨List.nodup_append.2 ⟨hi.nodup, List.nodup_singleton _, ?_⟩, ?_, ?_, ?_⟩
    · intro x hx y hy
      simp only [List.mem_singleton] at hy
      subst hy
      exact fun e => hnot (e ▸ hx)
    · intro id
      simp only [GoMap.contains_insert, Bool.or_eq_true, decide_eq_true_eq, hi.keys,
        List.mem_append, List.mem_singleton]
      exact or_comm
    · intro id hid
      simp only [GoMap.contains_insert, Bool.or_eq_true, decide_eq_true_eq]
      rcases List.mem_append.1 hid with h | h
      · exact Or.inr (hi.snapshots id h)
      · exact Or.inl (List.mem_singleton.1 h)
    · intro id b hb
      by_cases h : id = sig
      · subst h
        simp at hb
      · rw [GoMap.get_insert_ne _ _ h] at hb
        exact hi.own id b hb

theorem Inv.setBlock {a : OrderedBlocks κ β σ} (hi : Inv blockID a) {b : β}
    (hc : a.contains (blockID b) = true) : Inv blockID (a.setBlock blockID b) := by
  refine ⟨hi.nodup, ?_, hi.snapshots, ?_⟩
  · intro id
    simp only [OrderedBlocks.setBlock, GoMap.contains_insert, Bool.or_eq_true, decide_eq_true_eq, hi.keys]
    constructor
    · rintro (rfl | h)
      · exact (hi.keys _).1 hc
      · exact h
    · exact Or.inr
  · intro id b' hb'
    by_cases h : id = blockID b
    · subst h
      simp only [OrderedBlocks.setBlock, GoMap.get_insert_self, Option.some.injEq] at hb'
      rw [hb']
    · simp only [OrderedBlocks.setBlock, GoMap.get_insert_ne _ _ h] at hb'
      exact hi.own id b' hb'

theorem Inv.setSnapshot {a : OrderedBlocks κ β σ} (hi : Inv blockID a) (id : κ) (s : Option σ) :
    Inv blockID (a.setSnapshot id s) := by
  refine ⟨hi.nodup, hi.keys, ?_, hi.own⟩
  intro id' hid
  simp [OrderedBlocks.setSnapshot, hi.snapshots id' hid]

theorem pop_received {a : OrderedBlocks κ β σ} {l : Bool} {id : κ} {rest : List κ}
    (hreq : a.requested = id :: rest) (hrec : a.received l id = true) :
    ∃ b, (a.blocks.get id).join = some b ∧
      a.pop l = (some (id, b, if l then (a.snapshots.get id).join else none),
        ⟨rest, a.blocks.delete id, if l then a.snapshots.delete id else a.snapshots⟩) := by
  simp only [OrderedBlocks.received, Bool.and_eq_true, Bool.or_eq_true, Bool.not_eq_true'] at hrec
  obtain ⟨b, hb⟩ := Option.isSome_iff_exists.1 hrec.1
  refine ⟨b, hb, ?_⟩
  unfold OrderedBlocks.pop
  rw [hreq]
  simp only [hb]
  cases l with
  | false => simp
  | true =>
    have hs := hrec.2
    simp only [Bool.true_eq_false, false_or] at hs
    simp [hs]

theorem popAllLoop_eq (l : Bool) :
    ∀ (rs : List κ) (a : OrderedBlocks κ β σ) (out : List β × List (Option σ)) (fuel : Nat),
      a.requested = rs → rs.Nodup → rs.length ≤ fuel → (∀ id ∈ rs, a.received l id = true) →
      popAllLoop l fuel a out =
        ((out.1 ++ rs.filterMap fun id => (a.blocks.get id).join,
          out.2 ++ rs.map fun id => if l then (a.snapshots.get id).join else none),
         ⟨[], rs.foldl GoMap.delete a.blocks,
          if l then rs.foldl GoMap.delete a.snapshots else a.snapshots⟩)
  | [], ⟨_, blocks, snapshots⟩, out, fuel, hreq, _, _, _ => by
    simp only at hreq
    subst hreq
    cases fuel with
    | zero => simp [popAllLoop]
    | succ f => cases l <;> simp [popAllLoop, OrderedBlocks.pop]
  | id :: rest, a, out, fuel, hreq, hnd, hlen, hrec => by
    obtain ⟨f, rfl⟩ : ∃ f, fuel = f + 1 := ⟨fuel - 1, by simp at hlen; omega⟩
    obtain ⟨b, hb, hpop⟩ := pop_received hreq (hrec id (by simp))
    have hid : id ∉ rest := (List.nodup_cons.1 hnd).1
    have hne : ∀ id' ∈ rest, id' ≠ id := fun id' h e => hid (e ▸ h)
    rw [popAllLoop, hpop]
    simp only
    rw [popAllLoop_eq l rest _ _ f rfl (List.nodup_cons.1 hnd).2 (by simp at hlen; omega)]
    · have hblk : (rest.filterMap fun i => ((a.blocks.delete id).get i).join) =
          rest.filterMap fun i => (a.blocks.get i).join :=
        List.filterMap_congr fun i hi => by rw [GoMap.get_delete_ne _ (hne i hi)]
      have hsnap : (rest.map fun i =>
            if l then ((if l then a.snapshots.delete id else a.snapshots).get i).join else none) =
          rest.map fun i => if l then (a.snapshots.get i).join else none := by
        apply List.map_congr_left
        intro i hi
        cases l <;> simp [GoMap.get_delete_ne _ (hne i hi)]
      simp only [hblk, hsnap, List.filterMap_cons, hb, List.map_cons, List.append_assoc,
        List.foldl_cons, List.singleton_append]
      cases l <;> simp
    · intro id' h'
      have := hrec id' (List.mem_cons_of_mem _ h')
      cases l <;> simpa [OrderedBlocks.received, GoMap.get_delete_ne _ (hne id' h')] using this

theorem received_of_receivedCount {a : OrderedBlocks κ β σ} {l : Bool}
    (h : a.requestedCount ≤ a.receivedCount l) : ∀ id ∈ a.requested, a.received l id = true := by
  have hpre := List.takeWhile_prefix (a.received l) (l := a.requested)
  have heq : a.requested.takeWhile (a.received l) = a.requested :=
    hpre.eq_of_length (Nat.le_antisymm hpre.length_le h)
  exact List.takeWhile_eq_self_iff.1 heq

theorem receivedCount_of_received {a : OrderedBlocks κ β σ} {l : Bool}
    (h : ∀ id ∈ a.requested, a.received l id = true) : a.receivedCount l = a.requestedCount := by
  rw [receivedCount, requestedCount, List.takeWhile_eq_self_iff.2 h]

theorem popAll_eq {a : OrderedBlocks κ β σ} (hi : Inv blockID a) {l : Bool}
    (hall : ∀ id ∈ a.requested, a.received l id = true) :
    a.popAll l =
      ((a.requested.filterMap fun id => (a.blocks.get id).join,
        a.requested.map fun id => if l then (a.snapshots.get id).join else none),
       ⟨[], a.requested.foldl GoMap.delete a.blocks,
        if l then a.requested.foldl GoMap.delete a.snapshots else a.snapshots⟩) := by
  rw [OrderedBlocks.popAll, popAllLoop_eq l a.requested a ([], []) _ rfl hi.nodup (Nat.le_refl _) hall]
  simp

theorem Inv.popAll {a : OrderedBlocks κ β σ} (hi : Inv blockID a) {l : Bool}
    (hall : ∀ id ∈ a.requested, a.received l id = true) : Inv blockID (a.popAll l).2 := by
  rw [popAll_eq hi hall]
  refine ⟨List.nodup_nil, ?_, by simp, ?_⟩
  · intro id
    simp only [GoMap.contains_iff, GoMap.get_foldl_delete, List.not_mem_nil, iff_false]
    split
    · simp
    · rename_i hid
      rw [← GoMap.contains_iff, hi.keys]
      exact hid
  · intro id b hb
    rw [GoMap.get_foldl_delete] at hb
    split at hb
    · cases hb
    · exact hi.own id b hb

theorem map_blockID_filterMap {a : OrderedBlocks κ β σ} (hi : Inv blockID a) {l : Bool} :
    ∀ rs : List κ, (∀ id ∈ rs, a.received l id = true) →
      (rs.filterMap fun id => (a.blocks.get id).join).map blockID = rs
  | [], _ => rfl
  | id :: rest, hrec => by
    have hr := hrec id (by simp)
    simp only [OrderedBlocks.received, Bool.and_eq_true] at hr
    obtain ⟨b, hb⟩ := Option.isSome_iff_exists.1 hr.1
    have hown : blockID b = id := hi.own id b (Option.join_eq_some_iff.1 hb)
    rw [List.filterMap_cons]
    simp only [hb, List.map_cons, hown]
    rw [map_blockID_filterMap hi rest fun id' h' => hrec id' (List.mem_cons_of_mem _ h')]

theorem get_of_mem_filterMap {a : OrderedBlocks κ β σ} {rs : List κ} {b : β}
    (hb : b ∈ rs.filterMap fun id => (a.blocks.get id).join) :
    ∃ id ∈ rs, a.blocks.get id = some (some b) := by
  obtain ⟨id, hid, hget⟩ := List.mem_filterMap.1 hb
  exact ⟨id, hid, Option.join_eq_some_iff.1 hget⟩

end OrderedBlocks

end

/-- The requests `Internal` sends the peer: `AskBlock` and `AskBlockSnapshot`. -/
inductive Ask (κ : Type) where
  | block (id : κ)
  | snapshot (id : κ)
  deriving DecidableEq

/-- `NoSignaturesExpectedErr` (`no signatures expected`) and `UnexpectedBlockErr`
(`unexpected block`). -/
inductive SyncError where
  | noSignaturesExpected
  | unexpectedBlock
  deriving DecidableEq

/-- `Internal`.  Of `respondedSignatures` the model keeps the IDs, in order. -/
structure Internal (κ β σ : Type) where
  respondedSignatures : List κ
  orderedBlocks : OrderedBlocks κ β σ
  waitingForSignatures : Bool
  isLightNode : Bool

section

variable {κ β σ : Type} [DecidableEq κ] (blockID : β → κ)

/-- `InternalFromLastSignatures`: a new `OrderedBlocks`, waiting for the IDs after `signatures`. -/
def internalFromLastSignatures (signatures : List κ) (isLightNode : Bool) : Internal κ β σ :=
  ⟨signatures, newOrderedBlocks, true, isLightNode⟩

/-- The loop of `BlockIDs`: the IDs the peer sent that were not in its last answer, and the
requests for those `Add` takes. -/
def blockIDsLoop (responded : List κ) (isLightNode : Bool) :
    List κ → OrderedBlocks κ β σ → List κ × OrderedBlocks κ β σ × List (Ask κ)
  | [], ob => ([], ob, [])
  | id :: ids, ob =>
    if id ∈ responded then blockIDsLoop responded isLightNode ids ob
    else
      let (added, ob1) := ob.add id
      let asks := if added then Ask.block id :: (if isLightNode then [Ask.snapshot id] else []) else []
      let (newIDs, ob2, asks2) := blockIDsLoop responded isLightNode ids ob1
      (id :: newIDs, ob2, asks ++ asks2)

namespace Internal

def blockIDs (a : Internal κ β σ) (ids : List κ) : Except SyncError (Internal κ β σ × List (Ask κ)) :=
  if !a.waitingForSignatures then .error .noSignaturesExpected
  else
    let (newIDs, ob, asks) := blockIDsLoop a.respondedSignatures a.isLightNode ids a.orderedBlocks
    -- `signatures.NewSignatures(newIDs...).Revert()`
    .ok (⟨newIDs.reverse, ob, false, a.isLightNode⟩, asks)

/-- `Block`: a block nobody asked for is an error. -/
def block (a : Internal κ β σ) (b : β) : Except SyncError (Internal κ β σ) :=
  if !a.orderedBlocks.contains (blockID b) then .error .unexpectedBlock
  else .ok { a with orderedBlocks := a.orderedBlocks.setBlock blockID b }

def setSnapshot (a : Internal κ β σ) (id : κ) (snapshot : Option σ) : Except SyncError (Internal κ β σ) :=
  if !a.orderedBlocks.contains id then .error .unexpectedBlock
  else .ok { a with orderedBlocks := a.orderedBlocks.setSnapshot id snapshot }

/-- `Blocks`: nothing until every requested block (and snapshot) is in, then all of them; with
100 or more requested the sync asks for more IDs. -/
def blocks (a : Internal κ β σ) : Internal κ β σ × List β × List (Option σ) × Bool :=
  if a.waitingForSignatures then (a, [], [], false)
  else if a.orderedBlocks.receivedCount a.isLightNode < a.orderedBlocks.requestedCount then
    (a, [], [], false)
  else
    let ((bs, ss), ob) := a.orderedBlocks.popAll a.isLightNode
    if a.orderedBlocks.requestedCount < 100 then (⟨a.respondedSignatures, ob, false, a.isLightNode⟩, bs, ss, true)
    else (⟨a.respondedSignatures, ob, true, a.isLightNode⟩, bs, ss, false)

/-! ## The invariant over runs, and what `Blocks` hands over -/

open OrderedBlocks

variable {blockID}

theorem blockIDsLoop_inv (responded : List κ) (l : Bool) :
    ∀ (ids : List κ) (ob : OrderedBlocks κ β σ), Inv blockID ob →
      Inv blockID (blockIDsLoop responded l ids ob).2.1
  | [], _, hi => hi
  | id :: ids, ob, hi => by
    rw [blockIDsLoop]
    split
    · exact blockIDsLoop_inv responded l ids ob hi
    · have hadd := hi.add id
      rcases hob : ob.add id with ⟨added, ob1⟩
      rw [hob] at hadd
      have hrest := blockIDsLoop_inv responded l ids ob1 hadd
      rcases hloop : blockIDsLoop responded l ids ob1 with ⟨newIDs, ob2, asks2⟩
      rw [hloop] at hrest
      simp only [hloop]
      exact hrest

theorem blockIDs_inv {s s' : Internal κ β σ} {ids : List κ} {asks : List (Ask κ)}
    (hi : Inv blockID s.orderedBlocks) (h : s.blockIDs ids = .ok (s', asks)) :
    Inv blockID s'.orderedBlocks := by
  unfold Internal.blockIDs at h
  split at h
  · cases h
  · have hl := blockIDsLoop_inv s.respondedSignatures s.isLightNode ids s.orderedBlocks hi
    rcases hloop : blockIDsLoop s.respondedSignatures s.isLightNode ids s.orderedBlocks
      with ⟨newIDs, ob, asks'⟩
    rw [hloop] at hl
    simp only [hloop, Except.ok.injEq, Prod.mk.injEq] at h
    rw [← h.1]
    exact hl

theorem block_inv {s s' : Internal κ β σ} {b : β} (hi : Inv blockID s.orderedBlocks)
    (h : s.block blockID b = .ok s') : Inv blockID s'.orderedBlocks := by
  unfold Internal.block at h
  split at h
  · cases h
  · rename_i hc
    cases h
    exact hi.setBlock (by simpa using hc)

theorem setSnapshot_inv {s s' : Internal κ β σ} {id : κ} {snapshot : Option σ}
    (hi : Inv blockID s.orderedBlocks) (h : s.setSnapshot id snapshot = .ok s') :
    Inv blockID s'.orderedBlocks := by
  unfold Internal.setSnapshot at h
  split at h
  · cases h
  · cases h
    exact OrderedBlocks.Inv.setSnapshot hi id snapshot

theorem blocks_eq_self {s : Internal κ β σ}
    (h : ¬ (s.waitingForSignatures = false ∧
      ∀ id ∈ s.orderedBlocks.requested, s.orderedBlocks.received s.isLightNode id = true)) :
    s.blocks = (s, [], [], false) := by
  unfold Internal.blocks
  split
  · rfl
  · rename_i hw
    rw [if_pos]
    exact Nat.lt_of_not_le fun hle => h ⟨by simpa using hw, received_of_receivedCount hle⟩

theorem blocks_eq_popAll {s : Internal κ β σ} (hw : s.waitingForSignatures = false)
    (hall : ∀ id ∈ s.orderedBlocks.requested, s.orderedBlocks.received s.isLightNode id = true) :
    s.blocks.2.1 = (s.orderedBlocks.popAll s.isLightNode).1.1 ∧
      s.blocks.2.2.1 = (s.orderedBlocks.popAll s.isLightNode).1.2 ∧
      s.blocks.1.orderedBlocks = (s.orderedBlocks.popAll s.isLightNode).2 := by
  have hcount : ¬ s.orderedBlocks.receivedCount s.isLightNode < s.orderedBlocks.requestedCount := by
    rw [receivedCount_of_received hall]
    exact Nat.lt_irrefl _
  unfold Internal.blocks
  rw [if_neg (by simp [hw]), if_neg hcount]
  rcases hpop : s.orderedBlocks.popAll s.isLightNode with ⟨⟨bs, ss⟩, ob⟩
  dsimp only
  split <;> exact ⟨rfl, rfl, rfl⟩

theorem blocks_cases (s : Internal κ β σ) :
    (s.blocks.2.1 = [] ∧ s.blocks.1.orderedBlocks = s.orderedBlocks) ∨
      ((∀ id ∈ s.orderedBlocks.requested, s.orderedBlocks.received s.isLightNode id = true) ∧
        s.blocks.2.1 = (s.orderedBlocks.popAll s.isLightNode).1.1 ∧
        s.blocks.2.2.1 = (s.orderedBlocks.popAll s.isLightNode).1.2 ∧
        s.blocks.1.orderedBlocks = (s.orderedBlocks.popAll s.isLightNode).2) := by
  by_cases hready : s.waitingForSignatures = false ∧
      ∀ id ∈ s.orderedBlocks.requested, s.orderedBlocks.received s.isLightNode id = true
  · exact Or.inr ⟨hready.2, blocks_eq_popAll hready.1 hready.2⟩
  · rw [blocks_eq_self hready]
    exact Or.inl ⟨rfl, rfl⟩

theorem blocks_inv {s : Internal κ β σ} (hi : Inv blockID s.orderedBlocks) :
    Inv blockID s.blocks.1.orderedBlocks := by
  rcases blocks_cases s with ⟨-, h⟩ | ⟨hall, -, -, h⟩
  · rw [h]
    exact hi
  · rw [h]
    exact hi.popAll hall

variable (blockID) in
/-- One call on `Internal` that returns without an error. -/
inductive Step : Internal κ β σ → Internal κ β σ → Prop
  | blockIDs {s s' : Internal κ β σ} {ids : List κ} {asks : List (Ask κ)} :
      s.blockIDs ids = .ok (s', asks) → Step s s'
  | block {s s' : Internal κ β σ} {b : β} : s.block blockID b = .ok s' → Step s s'
  | setSnapshot {s s' : Internal κ β σ} {id : κ} {snapshot : Option σ} :
      s.setSnapshot id snapshot = .ok s' → Step s s'
  | blocks {s : Internal κ β σ} : Step s s.blocks.1

variable (blockID) in
/-- The states a sync reaches from `InternalFromLastSignatures`. -/
inductive Reachable : Internal κ β σ → Prop
  | init (signatures : List κ) (isLightNode : Bool) :
      Reachable (internalFromLastSignatures signatures isLightNode)
  | step {s s' : Internal κ β σ} : Reachable s → Step blockID s s' → Reachable s'

theorem step_inv {s s' : Internal κ β σ} (hi : Inv blockID s.orderedBlocks) (h : Step blockID s s') :
    Inv blockID s'.orderedBlocks := by
  cases h with
  | blockIDs h => exact blockIDs_inv hi h
  | block h => exact block_inv hi h
  | setSnapshot h => exact setSnapshot_inv hi h
  | blocks => exact blocks_inv hi

theorem reachable_inv {s : Internal κ β σ} (h : Reachable blockID s) : Inv blockID s.orderedBlocks := by
  induction h with
  | init => exact inv_new blockID
  | step _ hs ih => exact step_inv ih hs

/-- Until the IDs have come and every requested block (and, on a light node, snapshot) is in,
`Blocks` hands nothing over and changes nothing.  From then on it hands over the blocks of all
the requested IDs in the order they were asked for, each stored under its ID; on a light node
their snapshots are the ones set, none `nil`; and nothing stays requested. -/
theorem blocks_delivers {s : Internal κ β σ} (hs : Reachable blockID s) :
    (¬ (s.waitingForSignatures = false ∧
        ∀ id ∈ s.orderedBlocks.requested, s.orderedBlocks.received s.isLightNode id = true) →
      s.blocks = (s, [], [], false)) ∧
    (s.waitingForSignatures = false →
      (∀ id ∈ s.orderedBlocks.requested, s.orderedBlocks.received s.isLightNode id = true) →
      s.blocks.2.1.map blockID = s.orderedBlocks.requested ∧
        (∀ b ∈ s.blocks.2.1, s.orderedBlocks.blocks.get (blockID b) = some (some b)) ∧
        (s.isLightNode = true →
          s.blocks.2.2.1 = s.orderedBlocks.requested.map (fun id => (s.orderedBlocks.snapshots.get id).join) ∧
          ∀ x ∈ s.blocks.2.2.1, x.isSome) ∧
        s.blocks.1.orderedBlocks.requested = []) := by
  have hi := reachable_inv hs
  refine ⟨blocks_eq_self, fun hw hall => ?_⟩
  obtain ⟨hbs, hss, hob⟩ := blocks_eq_popAll hw hall
  rw [popAll_eq hi hall] at hbs hss hob
  refine ⟨?_, ?_, ?_, by rw [hob]⟩
  · rw [hbs]
    exact map_blockID_filterMap hi _ hall
  · intro b hb
    rw [hbs] at hb
    obtain ⟨id, -, hget⟩ := get_of_mem_filterMap hb
    rw [hi.own id b hget]
    exact hget
  · intro hl
    simp only [hl, if_true] at hss
    refine ⟨hss, ?_⟩
    rw [hss]
    intro x hx
    obtain ⟨id, hid, rfl⟩ := List.mem_map.1 hx
    have := hall id hid
    simp only [OrderedBlocks.received, hl, Bool.not_true, Bool.false_or, Bool.and_eq_true] at this
    exact this.2

/-- On a full node every ID `Blocks` hands over leaves `requested` and `blocks` but keeps the
entry `Add` made for it in `snapshots`. -/
theorem blocks_keepsSnapshots {s : Internal κ β σ} (hs : Reachable blockID s)
    (hfull : s.isLightNode = false) {b : β} (hb : b ∈ s.blocks.2.1) :
    s.blocks.1.orderedBlocks.requested = [] ∧
      s.blocks.1.orderedBlocks.blocks.contains (blockID b) = false ∧
      s.blocks.1.orderedBlocks.snapshots.contains (blockID b) = true := by
  have hi := reachable_inv hs
  rcases blocks_cases s with ⟨h, -⟩ | ⟨hall, hbs, -, hob⟩
  · rw [h] at hb
    cases hb
  rw [popAll_eq hi hall] at hbs hob
  rw [hbs] at hb
  obtain ⟨id, hid, hget⟩ := get_of_mem_filterMap hb
  have hown := hi.own id b hget
  subst hown
  rw [hob]
  refine ⟨rfl, ?_, ?_⟩
  · rw [Bool.eq_false_iff, ne_eq, GoMap.contains_iff, GoMap.get_foldl_delete, if_pos hid]
    simp
  · simp only [hfull, Bool.false_eq_true, if_false]
    exact hi.snapshots _ hid

/-- A full node that asked for block `1` and received it. -/
def oneBlockSync : Internal Nat Nat Nat := ⟨[1], ⟨[1], [(1, some 1)], [(1, none)]⟩, false, false⟩

theorem oneBlockSync_reachable : Reachable id oneBlockSync :=
  .step (.step (.init [] false)
      (.blockIDs (show (internalFromLastSignatures [] false : Internal Nat Nat Nat).blockIDs [1] =
        .ok (⟨[1], ⟨[1], [(1, none)], [(1, none)]⟩, false, false⟩, [Ask.block 1]) from rfl)))
    (.block (show (⟨[1], ⟨[1], [(1, none)], [(1, none)]⟩, false, false⟩ : Internal Nat Nat Nat).block id 1 =
      .ok oneBlockSync from rfl))

theorem blocks_delivers_oneBlockSync :
    (¬ (oneBlockSync.waitingForSignatures = false ∧
        ∀ i ∈ oneBlockSync.orderedBlocks.requested,
          oneBlockSync.orderedBlocks.received oneBlockSync.isLightNode i = true) →
      oneBlockSync.blocks = (oneBlockSync, [], [], false)) ∧
    (oneBlockSync.waitingForSignatures = false →
      (∀ i ∈ oneBlockSync.orderedBlocks.requested,
        oneBlockSync.orderedBlocks.received oneBlockSync.isLightNode i = true) →
      oneBlockSync.blocks.2.1.map id = oneBlockSync.orderedBlocks.requested ∧
        (∀ b ∈ oneBlockSync.blocks.2.1, oneBlockSync.orderedBlocks.blocks.get (id b) = some (some b)) ∧
        (oneBlockSync.isLightNode = true →
          oneBlockSync.blocks.2.2.1 = oneBlockSync.orderedBlocks.requested.map
            (fun i => (oneBlockSync.orderedBlocks.snapshots.get i).join) ∧
          ∀ x ∈ oneBlockSync.blocks.2.2.1, x.isSome) ∧
        oneBlockSync.blocks.1.orderedBlocks.requested = []) :=
  blocks_delivers oneBlockSync_reachable

theorem blocks_keepsSnapshots_oneBlockSync :
    oneBlockSync.blocks.1.orderedBlocks.requested = [] ∧
      oneBlockSync.blocks.1.orderedBlocks.blocks.contains (id 1) = false ∧
      oneBlockSync.blocks.1.orderedBlocks.snapshots.contains (id 1) = true :=
  blocks_keepsSnapshots oneBlockSync_reachable rfl (by decide)

end Internal

end

end Gowaves.Sync
