import Gowaves.State.HistoryStorage

/-!
# Blocks, flushes and rollbacks of the state (`pkg/state/state.go`)

`stateManager.addBlocks` applies a batch of blocks: each one gets its number
(`initBlockAdditionWithHeightActions`), its ID at the next height of the block read-writer
(`startBlock`), and its transactions write their values to the history storage
(`addNewEntry`).  At the end of the batch `flush` writes the read-writer, the histories and the
state database, and a deferred `reset` clears the memory of all three, whether the batch
succeeded or not.  `RollbackTo` runs `rollbackToImpl`: the database part of the rollback, then
the read-writer cut to the new height, then a flush of the local histories.

## Model

The operations on the state are `Op`s: a block of a batch with the values it writes (each with
the kind of entity its key belongs to, `entityOf`), the end of a successful batch, the end of a
failed one, and a rollback.  The storage after an operation is the state it leaves, whichever
way it ends.

The chain the storage should hold is `Chain`: the blocks by height, those of the current batch,
and the rollback window, which moves at each flush as `calculateNewRollbackMinHeight` moves it.
`valueAt` is what a key holds after a list of blocks: the last value written to it.
-/

set_option autoImplicit false

namespace Gowaves.State

open GoLib

namespace StateManager

variable {ID K : Type} [DecidableEq ID] [LinearOrder K]

/-- The values a block writes, each one with `addNewEntry`. -/
def addEntries (entityOf : K → BlockchainEntity) (blockID : ID) :
    List (K × List UInt8) → St ID K Unit
  | [] => pure ()
  | (key, value) :: writes => do
    HistoryStorage.addNewEntry (entityOf key) key value blockID
    addEntries entityOf blockID writes

/-- A block applied in the batch: its number, its ID at the next height, and the values its
transactions write. -/
def applyBlock (entityOf : K → BlockchainEntity) (blockID : ID)
    (writes : List (K × List UInt8)) : St ID K Unit := do
  StateDB.addBlock blockID
  BlockReadWriter.startBlock blockID
  addEntries entityOf blockID writes

/-- `stateManager.flush`. -/
def flush (amend : Bool) : St ID K Unit := do
  BlockReadWriter.flush
  HistoryStorage.flush amend
  StateDB.flush

/-- `stateManager.reset`. -/
def reset (s : Storage ID K) : Storage ID K :=
  StateDB.reset (HistoryStorage.reset (BlockReadWriter.reset s))

def rollbackToImpl (amend : Bool) (removalEdge : ID) : St ID K Unit := do
  StateDB.rollback removalEdge
  BlockReadWriter.syncWithDb
  HistoryStorage.flush amend

end StateManager

/-- What the state does, as the history storage sees it. -/
inductive Op (ID K : Type) where
  /-- A block of a batch, with the values it writes in order. -/
  | block (blockID : ID) (writes : List (K × List UInt8))
  /-- The end of a batch that succeeded: `flush`, then the deferred `reset`. -/
  | commit
  /-- The end of a batch that failed: the deferred `reset` alone. -/
  | abort
  /-- `RollbackTo` the block that stays. -/
  | rollback (removalEdge : ID)

namespace Op

variable {ID K : Type} [DecidableEq ID] [LinearOrder K]

open StateManager

/-- An operation on the storage. -/
def exec (entityOf : K → BlockchainEntity) (amend : Bool) : Op ID K → St ID K Unit
  | block blockID writes => applyBlock entityOf blockID writes
  | commit => StOutcome.withDefer (flush amend) reset
  | abort => StOutcome.modify reset
  | rollback removalEdge => rollbackToImpl amend removalEdge

/-- Whether an operation is a block. -/
def isBlock : Op ID K → Bool
  | block _ _ => true
  | _ => false

end Op

/-- The storage after an operation. -/
def step {ID K : Type} [DecidableEq ID] [LinearOrder K] (entityOf : K → BlockchainEntity)
    (amend : Bool) (s : Storage ID K) (op : Op ID K) : Storage ID K :=
  (op.exec entityOf amend s).2

/-- The storage after a sequence of operations. -/
def run {ID K : Type} [DecidableEq ID] [LinearOrder K] (entityOf : K → BlockchainEntity)
    (amend : Bool) (s : Storage ID K) (ops : List (Op ID K)) : Storage ID K :=
  ops.foldl (step entityOf amend) s

/-! ## The chain the storage holds -/

/-- A block as the history storage sees it: its ID and the values it writes, in order. -/
structure Block (ID K : Type) where
  id : ID
  writes : List (K × List UInt8)

section Values

variable {ID K : Type} [DecidableEq K]

/-- The last value a list of writes gives a key. -/
def lastWrite (key : K) (writes : List (K × List UInt8)) : Option (List UInt8) :=
  ((writes.filter fun w => decide (w.1 = key)).getLast?).map (·.2)

theorem lastWrite_concat (key : K) (writes : List (K × List UInt8)) (k : K) (v : List UInt8) :
    lastWrite key (writes ++ [(k, v)]) = if k = key then some v else lastWrite key writes := by
  by_cases hk : k = key <;> simp [lastWrite, List.filter_append, hk]

/-- The value of a key after a list of blocks: the last one written to it. -/
def valueAt (key : K) (blocks : List (Block ID K)) : Option (List UInt8) :=
  (blocks.filterMap fun b => lastWrite key b.writes).getLast?

end Values

/-- The chain: the blocks by height, the blocks of the batch, and the rollback minimum height. -/
structure Chain (ID K : Type) where
  blocks : List (Block ID K)
  pending : List (Block ID K)
  rollbackMinHeight : Nat

namespace Chain

variable {ID K : Type} [DecidableEq ID]

/-- An empty chain, with the window from height `1`. -/
def initial : Chain ID K := ⟨[], [], 1⟩

/-- The rollback window after a flush to `newHeight`: it stays, unless the new height is more
than `rollbackMaxBlocks` above it. -/
def windowAfter (prev newHeight : Nat) : Nat :=
  if newHeight < prev then prev
  else if newHeight - prev < rollbackMaxBlocks then prev
  else newHeight - rollbackMaxBlocks

theorem le_windowAfter (prev newHeight : Nat) : prev ≤ windowAfter prev newHeight := by
  unfold windowAfter rollbackMaxBlocks
  split_ifs <;> omega

theorem windowAfter_le (prev newHeight : Nat) : windowAfter prev newHeight ≤ max prev newHeight := by
  unfold windowAfter rollbackMaxBlocks
  split_ifs <;> omega

/-- The height of a block of the chain. -/
def heightOf (c : Chain ID K) (blockID : ID) : Nat := c.blocks.findIdx (·.id = blockID) + 1

theorem heightOf_eq {c : Chain ID K} {blockID : ID} {h : Nat} (hnd : (c.blocks.map (·.id)).Nodup)
    (he : (c.blocks.map (·.id))[h - 1]? = some blockID) (hh : 1 ≤ h) : c.heightOf blockID = h := by
  obtain ⟨hi, hget⟩ := List.getElem?_eq_some_iff.mp he
  have hi' : h - 1 < c.blocks.length := by simpa using hi
  have hidx : c.blocks.findIdx (·.id = blockID) = h - 1 := by
    rw [List.findIdx_eq hi']
    refine ⟨by simpa using hget, fun j hj => ?_⟩
    have hjm : j < (c.blocks.map (·.id)).length := by simp only [List.length_map]; omega
    have hne : (c.blocks.map (·.id))[j] ≠ (c.blocks.map (·.id))[h - 1] := fun heq => by
      have := hnd.getElem_inj_iff.mp heq
      omega
    simpa [hget] using hne
  unfold heightOf
  omega

/-- What an operation does to the chain. -/
def step (c : Chain ID K) : Op ID K → Chain ID K
  | .block blockID writes => { c with pending := c.pending ++ [⟨blockID, writes⟩] }
  | .commit =>
    ⟨c.blocks ++ c.pending, [],
      windowAfter c.rollbackMinHeight (c.blocks.length + c.pending.length)⟩
  | .abort => { c with pending := [] }
  | .rollback removalEdge => { c with blocks := c.blocks.take (c.heightOf removalEdge) }

/-- The chain after a sequence of operations. -/
def run (c : Chain ID K) (ops : List (Op ID K)) : Chain ID K := ops.foldl step c

/-- What the state checks before an operation: a new block is not in the chain or the batch,
and a rollback, outside a batch, goes to a block of the window. -/
def Pre (c : Chain ID K) : Op ID K → Prop
  | .block blockID _ => blockID ∉ (c.blocks ++ c.pending).map (·.id)
  | .commit => True
  | .abort => True
  | .rollback removalEdge =>
    c.pending = [] ∧ ∃ h, c.rollbackMinHeight ≤ h ∧ h ≤ c.blocks.length ∧
      (c.blocks.map (·.id))[h - 1]? = some removalEdge

/-- Every operation of a sequence passes the checks in the chain it runs on. -/
def PreRun : Chain ID K → List (Op ID K) → Prop
  | _, [] => True
  | c, op :: ops => c.Pre op ∧ PreRun (c.step op) ops

end Chain

end Gowaves.State
