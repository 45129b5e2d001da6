import Mathlib.Logic.Function.Basic
import Gowaves.GoLib.GoMap
import Gowaves.State.HistoryRecord

/-!
# The state database: block numbers, heights and the rollback window (`pkg/state/database.go`)

Every value of the state is kept as a history of entries, each tagged with the number of the
block that wrote it (`Gowaves.State.HistoryStorage`).  `stateDB` hands out those numbers and
keeps the list of the valid ones:

* `addBlock` gives a new block the number `lastBlockNum + blocksNum`, the last number flushed
  plus the count of the blocks of the current batch, and puts in the write batch the key of
  the valid number and the number of the block's ID;
* `flush` advances `lastBlockNum` and the height by the blocks of the batch, moves the rollback
  window (`calculateNewRollbackMinHeight` keeps it at most `rollbackMaxBlocks` behind) and
  writes the batch;
* `rollback` walks down from the top height to the block that stays, deleting the valid number
  and the number of the ID of every block above it, then writes the new height and the batch.

Only `rollback` deletes valid numbers and nothing lowers `lastBlockNum`, so a number is not
handed out twice until the `uint32` sum wraps around.

## Model

The database is the record of the key families these functions read (`DB`), and a write batch
is the list of its writes, applied in order by `flushBatch`.  Of the block read-writer only the
IDs by height are kept: those of its `blockHeight2ID` file and those in the file's write buffer.
A Go map of the batch is a `GoMap`.  Heights (`uint64`) are natural numbers; block numbers are
`UInt32`, as in the source, and wrap.  The keys no modelled function reads
(`blockNumToIdKey`, the block offsets and transaction keys of the read-writer) are left out, and
a read of the database fails only on a missing key.
-/

set_option autoImplicit false

namespace Gowaves.State

open GoLib

/-- The errors of the storage layer that the model tells apart. -/
inductive StorageError where
  /-- `keyvalue.ErrNotFound`. -/
  | notFound
  /-- `errEmptyHist`. -/
  | emptyHist
  /-- `errNotFound` of the local history storage. -/
  | localNotFound
  /-- Any other error, by its text. -/
  | other (msg : String)
  deriving DecidableEq, Repr

def rollbackMaxBlocks : Nat := 2000

/-- The database, by the key families that the state database and the history storage read. -/
structure DB (ID K : Type) where
  /-- `validBlockNumKey`: present for the number of every valid block. -/
  validBlockNums : UInt32 → Bool
  /-- `blockIdToNumKey`. -/
  blockIdToNum : ID → Option UInt32
  /-- `lastBlockNumKeyBytes`, absent until the first flush. -/
  lastBlockNum : Option UInt32
  /-- `dbHeightKeyBytes`. -/
  height : Nat
  /-- `rollbackMinHeightKeyBytes`. -/
  rollbackMinHeight : Nat
  /-- The history records, by key. -/
  histories : K → Option HistoryRecord

/-- The database `newStateDB` leaves in an empty directory: height `0`, rollback minimum height
`1`. -/
def DB.initial {ID K : Type} : DB ID K where
  validBlockNums _ := false
  blockIdToNum _ := none
  lastBlockNum := none
  height := 0
  rollbackMinHeight := 1
  histories _ := none

/-- A write of a batch. -/
inductive BatchOp (ID K : Type) where
  | putValidBlockNum (n : UInt32)
  | deleteValidBlockNum (n : UInt32)
  | putBlockIdToNum (blockID : ID) (n : UInt32)
  | deleteBlockIdToNum (blockID : ID)
  | putLastBlockNum (n : UInt32)
  | putHeight (h : Nat)
  | putRollbackMinHeight (h : Nat)
  | putHistory (key : K) (r : HistoryRecord)

/-- What a write does to the database. -/
def BatchOp.apply {ID K : Type} [DecidableEq ID] [DecidableEq K] (db : DB ID K) :
    BatchOp ID K → DB ID K
  | .putValidBlockNum n => { db with validBlockNums := Function.update db.validBlockNums n true }
  | .deleteValidBlockNum n =>
    { db with validBlockNums := Function.update db.validBlockNums n false }
  | .putBlockIdToNum blockID n =>
    { db with blockIdToNum := Function.update db.blockIdToNum blockID (some n) }
  | .deleteBlockIdToNum blockID =>
    { db with blockIdToNum := Function.update db.blockIdToNum blockID none }
  | .putLastBlockNum n => { db with lastBlockNum := some n }
  | .putHeight h => { db with height := h }
  | .putRollbackMinHeight h => { db with rollbackMinHeight := h }
  | .putHistory key r => { db with histories := Function.update db.histories key (some r) }

/-- The fields of `stateDB` besides the database: the numbers of the batch's blocks, both ways,
and their count. -/
structure StateDB (ID : Type) where
  newestBlockId2Num : GoMap ID UInt32
  newestBlockNum2Id : GoMap UInt32 ID
  blocksNum : Nat

/-- The part of `blockReadWriter` that maps heights to block IDs: the `blockHeight2ID` file and
its write buffer. -/
structure BlockReadWriter (ID : Type) where
  ids : List ID
  buffer : List ID

/-- The storage: the database, the write batch that `stateDB` and `historyStorage` share, and the
memory of `stateDB`, of the block read-writer and of `historyStorage` (its local storage
`stor`). -/
structure Storage (ID K : Type) where
  db : DB ID K
  dbBatch : List (BatchOp ID K)
  stateDB : StateDB ID
  rw : BlockReadWriter ID
  stor : GoMap K HistoryRecord

/-- A computation over the storage. -/
abbrev St (ID K α : Type) := StOutcome (Storage ID K) StorageError α

namespace Storage

variable {ID K : Type} [DecidableEq ID] [DecidableEq K]

/-- The storage of a state opened on an empty directory. -/
def initial : Storage ID K := ⟨DB.initial, [], ⟨[], [], 0⟩, ⟨[], []⟩, []⟩

/-! ## Reads -/

/-- `getLastBlockNum`: zero before the first flush writes it. -/
def lastBlockNum (s : Storage ID K) : UInt32 := s.db.lastBlockNum.getD 0

def blockIdToNum (s : Storage ID K) (blockID : ID) : Except StorageError UInt32 :=
  match s.db.blockIdToNum blockID with
  | some n => .ok n
  | none => .error .notFound

/-- `newestBlockIdToNum`: the numbers of the batch first. -/
def newestBlockIdToNum (s : Storage ID K) (blockID : ID) : Except StorageError UInt32 :=
  match s.stateDB.newestBlockId2Num.get blockID with
  | some n => .ok n
  | none => s.blockIdToNum blockID

def isValidBlock (s : Storage ID K) (blockNum : UInt32) : Bool := s.db.validBlockNums blockNum

/-- `blockIDByHeight` of the read-writer, whose file holds the ID of height `h` at place `h - 1`;
at height `0` the `uint64` subtraction wraps and the read fails. -/
def blockIDByHeight (s : Storage ID K) (height : Nat) : Except StorageError ID :=
  if height = 0 then .error (.other "EOF")
  else
    match s.rw.ids[height - 1]? with
    | some blockID => .ok blockID
    | none => .error (.other "EOF")

def blockNumByHeight (s : Storage ID K) (height : Nat) : Except StorageError UInt32 := do
  let blockID ← s.blockIDByHeight height
  s.blockIdToNum blockID

/-- `newestBlockIDByHeight`: `startBlock` puts the ID of each block of the batch in
`height2IDCache` at the height above the blocks before it, which are the file's and the batch's
earlier ones; the file is read for any other height. -/
def newestBlockIDByHeight (s : Storage ID K) (height : Nat) : Except StorageError ID :=
  if s.rw.ids.length < height then
    match s.rw.buffer[height - s.rw.ids.length - 1]? with
    | some blockID => .ok blockID
    | none => s.blockIDByHeight height
  else s.blockIDByHeight height

def newestBlockNumByHeight (s : Storage ID K) (height : Nat) : Except StorageError UInt32 := do
  let blockID ← s.newestBlockIDByHeight height
  s.newestBlockIdToNum blockID

def calculateNewRollbackMinHeight (s : Storage ID K) (newHeight : Nat) : Nat :=
  let prevRollbackMinHeight := s.db.rollbackMinHeight
  if newHeight < prevRollbackMinHeight then prevRollbackMinHeight
  else if newHeight - prevRollbackMinHeight < rollbackMaxBlocks then prevRollbackMinHeight
  else newHeight - rollbackMaxBlocks

/-! ## Writes -/

/-- A write put in the batch. -/
def putBatch (op : BatchOp ID K) : St ID K Unit :=
  StOutcome.modify fun s => { s with dbBatch := s.dbBatch ++ [op] }

/-- `flushBatch`: the batch is written to the database (and kept until `reset`). -/
def flushBatch : St ID K Unit :=
  StOutcome.modify fun s => { s with db := s.dbBatch.foldl BatchOp.apply s.db }

end Storage

namespace StateDB

variable {ID K : Type} [DecidableEq ID] [DecidableEq K]

open Storage

/-- `addBlock`: a block not yet numbered gets `lastBlockNum + blocksNum`, refused only when the
batch already gave that number away. -/
def addBlock (blockID : ID) : St ID K Unit := fun s =>
  match s.newestBlockIdToNum blockID with
  -- the block is already in there
  | .ok _ => (.ok (), s)
  | .error _ =>
    let newBlockNum := s.lastBlockNum + UInt32.ofNat s.stateDB.blocksNum
    if (s.stateDB.newestBlockNum2Id.get newBlockNum).isSome then
      (.error (.other ("block number " ++ toString newBlockNum ++
        " is already taken by some block")), s)
    else
      (.ok (), { s with
        dbBatch := s.dbBatch ++ [.putValidBlockNum newBlockNum, .putBlockIdToNum blockID newBlockNum]
        stateDB :=
          { newestBlockId2Num := s.stateDB.newestBlockId2Num.insert blockID newBlockNum
            newestBlockNum2Id := s.stateDB.newestBlockNum2Id.insert newBlockNum blockID
            blocksNum := s.stateDB.blocksNum + 1 } })

/-- `rollbackBlock`: the block's number stops being valid and its ID loses its number. -/
def rollbackBlock (blockID : ID) : St ID K Unit := fun s =>
  match s.blockIdToNum blockID with
  | .error e => (.error e, s)
  | .ok blockNum =>
    (.ok (), { s with
      dbBatch := s.dbBatch ++ [.deleteValidBlockNum blockNum, .deleteBlockIdToNum blockID] })

/-- The loop of `rollback`, down from `curHeight`: every block above the removal edge is rolled
back, and the loop ends at the edge's height (or at `0`). -/
def rollbackLoop (removalEdge : ID) : Nat → St ID K Nat
  | 0 => pure 0
  | curHeight + 1 => fun s =>
    match s.blockIDByHeight (curHeight + 1) with
    | .error e => (.error e, s)
    | .ok blockID =>
      if blockID = removalEdge then (.ok (curHeight + 1), s)
      else (rollbackBlock blockID >>= fun _ => rollbackLoop removalEdge curHeight) s

/-- `stateDB.reset`. -/
def reset (s : Storage ID K) : Storage ID K := { s with stateDB := ⟨[], [], 0⟩, dbBatch := [] }

/-- `rollback`, with its deferred `reset`. -/
def rollback (removalEdge : ID) : St ID K Unit :=
  StOutcome.withDefer (do
    let s ← StOutcome.get
    let curHeight ← rollbackLoop removalEdge s.db.height
    putBatch (.putHeight curHeight)
    flushBatch) reset

/-- `stateDB.flush`. -/
def flush : St ID K Unit := do
  let s ← StOutcome.get
  let newLastBlockNum := s.lastBlockNum + UInt32.ofNat s.stateDB.blocksNum
  putBatch (.putLastBlockNum newLastBlockNum)
  let newHeight := s.db.height + s.stateDB.blocksNum
  putBatch (.putHeight newHeight)
  putBatch (.putRollbackMinHeight (s.calculateNewRollbackMinHeight newHeight))
  flushBatch

theorem flush_run (s : Storage ID K) :
    flush s = (.ok (), { s with
      dbBatch := s.dbBatch ++ [.putLastBlockNum (s.lastBlockNum + UInt32.ofNat s.stateDB.blocksNum),
        .putHeight (s.db.height + s.stateDB.blocksNum),
        .putRollbackMinHeight (s.calculateNewRollbackMinHeight (s.db.height + s.stateDB.blocksNum))]
      db := (s.dbBatch ++ [BatchOp.putLastBlockNum (s.lastBlockNum + UInt32.ofNat s.stateDB.blocksNum),
        .putHeight (s.db.height + s.stateDB.blocksNum),
        .putRollbackMinHeight (s.calculateNewRollbackMinHeight (s.db.height + s.stateDB.blocksNum))]).foldl
          BatchOp.apply s.db }) := by
  simp [flush, putBatch, flushBatch]

end StateDB

/-! ## What a batch does -/

section Batch

variable {ID K : Type} [DecidableEq ID] [DecidableEq K]

/-- The writes `addBlock` puts in the batch for blocks and their numbers, in order. -/
def blockOps (blocks : List (ID × UInt32)) : List (BatchOp ID K) :=
  blocks.flatMap fun b => [.putValidBlockNum b.2, .putBlockIdToNum b.1 b.2]

/-- The writes `rollbackBlock` puts in the batch for blocks and their numbers, in order. -/
def deleteOps (blocks : List (ID × UInt32)) : List (BatchOp ID K) :=
  blocks.flatMap fun b => [.deleteValidBlockNum b.2, .deleteBlockIdToNum b.1]

theorem foldl_blockOps (db : DB ID K) (blocks : List (ID × UInt32)) :
    (blockOps blocks).foldl BatchOp.apply db =
      { db with
        validBlockNums := fun n => db.validBlockNums n || decide (n ∈ blocks.map (·.2))
        blockIdToNum := fun blockID => (GoMap.get blocks.reverse blockID).or (db.blockIdToNum blockID) } := by
  induction blocks generalizing db with
  | nil => simp [blockOps]
  | cons b blocks ih =>
    obtain ⟨blockID, n⟩ := b
    simp only [blockOps, List.flatMap_cons, List.foldl_append] at ih ⊢
    rw [ih]
    simp only [List.foldl_cons, List.foldl_nil, BatchOp.apply, List.reverse_cons, GoMap.get_append,
      Option.or_assoc, List.map_cons, List.mem_cons]
    congr 1
    · funext m
      by_cases hm : m = n <;> simp [hm, Function.update]
    · funext blockID'
      by_cases hb : blockID = blockID' <;>
        simp [hb, GoMap.get_cons, Function.update, eq_comm]

theorem foldl_deleteOps (db : DB ID K) (blocks : List (ID × UInt32)) :
    (deleteOps blocks).foldl BatchOp.apply db =
      { db with
        validBlockNums := fun n => db.validBlockNums n && !decide (n ∈ blocks.map (·.2))
        blockIdToNum := fun blockID =>
          if blockID ∈ blocks.map (·.1) then none else db.blockIdToNum blockID } := by
  induction blocks generalizing db with
  | nil => simp [deleteOps]
  | cons b blocks ih =>
    obtain ⟨blockID, n⟩ := b
    simp only [deleteOps, List.flatMap_cons, List.foldl_append] at ih ⊢
    rw [ih]
    simp only [List.foldl_cons, List.foldl_nil, BatchOp.apply, List.map_cons, List.mem_cons]
    congr 1
    · funext m
      by_cases hm : m = n <;> simp [hm, Function.update]
    · funext blockID'
      by_cases hb : blockID' = blockID
      · simp [hb, Function.update]
      · simp only [Function.update, hb, dif_neg, not_false_eq_true, false_or]

theorem foldl_putHistory {β : Type} (db : DB ID K) (l : List (K × β)) (f : K → HistoryRecord) :
    (l.map fun kv => BatchOp.putHistory kv.1 (f kv.1)).foldl BatchOp.apply db =
      { db with histories := fun key =>
          if key ∈ l.map (·.1) then some (f key) else db.histories key } := by
  induction l generalizing db with
  | nil => simp
  | cons kv l ih =>
    simp only [List.map_cons, List.foldl_cons, ih, BatchOp.apply, List.mem_cons]
    congr 1
    funext key
    by_cases hk : key = kv.1
    · simp [hk, Function.update]
    · simp only [Function.update, hk, dif_neg, not_false_eq_true, false_or]

end Batch

namespace BlockReadWriter

variable {ID K : Type}

/-- `startBlock`: the ID goes to the buffer of `blockHeight2ID`. -/
def startBlock (blockID : ID) : St ID K Unit :=
  StOutcome.modify fun s => { s with rw := { s.rw with buffer := s.rw.buffer ++ [blockID] } }

/-- `blockReadWriter.flush`: the buffer is written to the file. -/
def flush : St ID K Unit :=
  StOutcome.modify fun s => { s with rw := ⟨s.rw.ids ++ s.rw.buffer, []⟩ }

/-- `blockReadWriter.reset`: the buffer is dropped. -/
def reset (s : Storage ID K) : Storage ID K := { s with rw := { s.rw with buffer := [] } }

/-- `syncWithDb`: the file is cut to the height of the database. -/
def syncWithDb : St ID K Unit :=
  StOutcome.modify fun s => { s with rw := ⟨s.rw.ids.take s.db.height, []⟩ }

end BlockReadWriter

end Gowaves.State
