import Mathlib.Data.List.DropRight
import Gowaves.State.StateDB

/-!
# The versioned history storage (`pkg/state/history_storage.go`, `history_formatter.go`)

A key of the state has a history: the entries written to it, in order, each with the number of
the block that wrote it (`Gowaves.State.HistoryRecord`).  The blocks of the current batch write
to the local storage `stor`; `flush` appends each local history to the one in the database
(`combineHistories`) and puts the result in the write batch.

Every read of a history from the database normalizes it (`historyFormatter.normalize`): with
`amend`, `filter` erases the entries of rolled-back blocks from its end, and `cut` drops the
entries of blocks below the rollback window, all but the last of them.  With `update`, a
history that changed is written straight back to the database (`manageDbUpdate`).

* `topEntryData` reads the last entry from the database; `newestTopEntryData` reads the local
  storage first;
* `entryDataAtHeight` reads the last entry whose block number is at most that of the block at
  a height, or empty data when there is none.

## Model

A history is the `HistoryRecord` of `Gowaves.State.HistoryRecord`, stored as a value: the
decoder reads back what the encoder writes (`newHistoryRecordFromBytes_marshalBinary`).  The
two flags of `properties` that the formatter reads are `BlockchainEntity.needToFilter` and
`BlockchainEntity.needToCut`.  The loop of `filter` from the last entry is `List.rdropWhile`,
and that of `cut` keeps the entries from the last one of the leading run below the minimum.
`appendEntry` never fails: its one error, a `topEntry` of an empty history, follows the append
of the first entry.
-/

set_option autoImplicit false

namespace Gowaves.State

open GoLib

namespace BlockchainEntity

/-- `needToFilter` of `properties`: every kind is filtered. -/
def needToFilter (_ : BlockchainEntity) : Bool := true

/-- `needToCut` of `properties`: every kind but the feature votes, which `votesAtHeight` reads in
full. -/
def needToCut : BlockchainEntity → Bool
  | .featureVote => false
  | _ => true

end BlockchainEntity

namespace HistoryRecord

/-- `newHistoryRecord`. -/
def new (entityType : BlockchainEntity) : HistoryRecord := ⟨entityType, []⟩

/-- `appendEntry`: an entry of the block of the last entry replaces it, any other is appended;
an empty history takes the entry first, which the comparison then replaces with itself. -/
def appendEntry (hr : HistoryRecord) (entry : HistoryEntry) : HistoryRecord :=
  let entries := if hr.entries = [] then [entry] else hr.entries
  match entries.getLast? with
  | some topEntry =>
    if topEntry.blockNum = entry.blockNum then { hr with entries := entries.dropLast ++ [entry] }
    else { hr with entries := entries ++ [entry] }
  | none => { hr with entries := entries }

theorem appendEntry_of_ne (entityType : BlockchainEntity) {entries : List HistoryEntry}
    {entry : HistoryEntry} (h : ∀ e ∈ entries.getLast?, e.blockNum ≠ entry.blockNum) :
    appendEntry ⟨entityType, entries⟩ entry = ⟨entityType, entries ++ [entry]⟩ := by
  cases hl : entries.getLast? with
  | none =>
    have : entries = [] := List.getLast?_eq_none_iff.mp hl
    subst this
    simp [appendEntry]
  | some e =>
    have hne : entries ≠ [] := fun h' => by simp [h'] at hl
    simp [appendEntry, hne, hl, h e hl]

theorem appendEntry_concat_same (entityType : BlockchainEntity) (entries : List HistoryEntry)
    (v v' : List UInt8) (n : UInt32) :
    appendEntry ⟨entityType, entries ++ [⟨v', n⟩]⟩ ⟨v, n⟩ = ⟨entityType, entries ++ [⟨v, n⟩]⟩ := by
  simp [appendEntry]

def topEntry (hr : HistoryRecord) : Except StorageError HistoryEntry :=
  match hr.entries.getLast? with
  | some entry => .ok entry
  | none => .error .emptyHist

end HistoryRecord

namespace HistoryFormatter

/-- `filter`, given the validity of block numbers: from the last entry back, the entries of
invalid blocks are erased until a valid one. -/
def filter (isValidBlock : UInt32 → Bool) (history : HistoryRecord) : Bool × HistoryRecord :=
  if !history.entityType.needToFilter then (false, history)
  else
    let entries := history.entries.rdropWhile fun entry => !isValidBlock entry.blockNum
    (decide (entries.length < history.entries.length), { history with entries := entries })

/-- The loop of `cut`: `firstNeeded` is the index of the last entry of the leading run below
the minimum, and the entries before it go. -/
def cutEntries (minAcceptableBlockNum : UInt32) (entries : List HistoryEntry) :
    Bool × List HistoryEntry :=
  let below := (entries.takeWhile fun entry => entry.blockNum < minAcceptableBlockNum).length
  (decide (0 < below), entries.drop (below - 1))

end HistoryFormatter

namespace Storage

variable {ID K : Type} [DecidableEq ID] [DecidableEq K]

open HistoryFormatter

/-- `calculateMinAcceptableBlockNum`: the number of the block at the rollback minimum height. -/
def calculateMinAcceptableBlockNum (s : Storage ID K) : Except StorageError UInt32 :=
  s.blockNumByHeight s.db.rollbackMinHeight

/-- `historyFormatter.cut`. -/
def cut (s : Storage ID K) (history : HistoryRecord) : Except StorageError (Bool × HistoryRecord) :=
  if !history.entityType.needToCut then .ok (false, history)
  else do
    let minAcceptableBlockNum ← s.calculateMinAcceptableBlockNum
    let (changed, entries) := cutEntries minAcceptableBlockNum history.entries
    pure (changed, { history with entries := entries })

/-- `historyFormatter.normalize`. -/
def normalize (s : Storage ID K) (amend : Bool) (history : HistoryRecord) :
    Except StorageError (Bool × HistoryRecord) := do
  let (filtered, history) := if amend then filter s.isValidBlock history else (false, history)
  let (cut, history) ← s.cut history
  pure (filtered || cut, history)

end Storage

namespace HistoryStorage

variable {ID K : Type} [DecidableEq ID] [LinearOrder K]

open Storage

/-- `manageDbUpdate`: a history written straight to the database, and an empty one deleted. -/
def manageDbUpdate (key : K) (history : HistoryRecord) : St ID K Unit :=
  StOutcome.modify fun s =>
    let stored := if history.entries = [] then none else some history
    { s with db := { s.db with histories := Function.update s.db.histories key stored } }

/-- `getHistory`: the normalized history of the database, written back when it changed and
`update` is set. -/
def getHistory (amend : Bool) (key : K) (update : Bool) : St ID K HistoryRecord := fun s =>
  match s.db.histories key with
  | none => (.error .notFound, s)
  | some history =>
    match s.normalize amend history with
    | .error e => (.error e, s)
    | .ok (changed, history) =>
      let s := if changed && update then (manageDbUpdate key history s).2 else s
      if history.entries = [] then (.error .emptyHist, s) else (.ok history, s)

def topEntry (amend : Bool) (key : K) : St ID K HistoryEntry := do
  let history ← getHistory amend key false
  StOutcome.lift (Outcome.ofExcept history.topEntry)

/-- `newestTopEntry`: the local storage first. -/
def newestTopEntry (amend : Bool) (key : K) : St ID K HistoryEntry := fun s =>
  match s.stor.get key with
  | some newHist => (Outcome.ofExcept newHist.topEntry, s)
  | none => topEntry amend key s

def topEntryData (amend : Bool) (key : K) : St ID K (List UInt8) := do
  let entry ← topEntry amend key
  pure entry.data

def newestTopEntryData (amend : Bool) (key : K) : St ID K (List UInt8) := do
  let entry ← newestTopEntry amend key
  pure entry.data

/-- `entryDataWithHeightFilter`: the data of the last entry of the leading run that `cmp`
accepts against the number of the block at the height, or the empty data of the zero entry. -/
def entryDataWithHeightFilter (amend : Bool) (key : K) (limitHeight : Nat)
    (cmp : UInt32 → UInt32 → Bool) : St ID K (List UInt8) := do
  let s ← StOutcome.get
  let limitBlockNum ← StOutcome.lift (Outcome.ofExcept (s.blockNumByHeight limitHeight))
  let history ← getHistory amend key false
  let res := (history.entries.takeWhile fun entry => cmp entry.blockNum limitBlockNum).getLast?
  pure ((res.map (·.data)).getD [])

def entryDataAtHeight (amend : Bool) (key : K) (height : Nat) : St ID K (List UInt8) :=
  entryDataWithHeightFilter amend key height fun entryNum limitNum => decide (entryNum ≤ limitNum)

/-- The loop of `blockRangeEntries`: the data of the leading entries up to `endBlockNum`, and
the place of the last of them at or below `startBlockNum`. -/
def blockRangeLoop (startBlockNum endBlockNum : UInt32) :
    List HistoryEntry → Nat → List (List UInt8) → Nat → List (List UInt8) × Nat
  | [], _, records, startPos => (records, startPos)
  | entry :: entries, i, records, startPos =>
    if entry.blockNum > endBlockNum then (records, startPos)
    else blockRangeLoop startBlockNum endBlockNum entries (i + 1) (records ++ [entry.data])
      (if entry.blockNum ≤ startBlockNum then i else startPos)

theorem blockRangeLoop_spec {startBlockNum endBlockNum : UInt32}
    (hse : startBlockNum ≤ endBlockNum) {l : List HistoryEntry}
    (hl : l.Pairwise fun a b => a.blockNum < b.blockNum) (i : Nat) (records : List (List UInt8))
    (startPos : Nat) :
    blockRangeLoop startBlockNum endBlockNum l i records startPos =
      (records ++ (l.takeWhile fun e => decide (e.blockNum ≤ endBlockNum)).map (·.data),
        if l.takeWhile (fun e => decide (e.blockNum ≤ startBlockNum)) = [] then startPos
        else i + (l.takeWhile fun e => decide (e.blockNum ≤ startBlockNum)).length - 1) := by
  induction l generalizing i records startPos with
  | nil => simp [blockRangeLoop]
  | cons e l ih =>
    obtain ⟨he, hl'⟩ := List.pairwise_cons.mp hl
    simp only [UInt32.le_iff_toNat_le, UInt32.lt_iff_toNat_lt] at hse he
    by_cases hend : e.blockNum > endBlockNum
    · have hstart : ¬ e.blockNum ≤ startBlockNum := by
        simp only [gt_iff_lt, UInt32.lt_iff_toNat_lt, UInt32.le_iff_toNat_le] at hend ⊢
        omega
      have hend' : ¬ e.blockNum ≤ endBlockNum := by
        simp only [gt_iff_lt, UInt32.lt_iff_toNat_lt, UInt32.le_iff_toNat_le] at hend ⊢
        omega
      simp [blockRangeLoop, hend, hstart, hend']
    · have hend' : e.blockNum ≤ endBlockNum := by
        simp only [gt_iff_lt, UInt32.lt_iff_toNat_lt, UInt32.le_iff_toNat_le] at hend ⊢
        omega
      rw [blockRangeLoop, if_neg hend, ih hl']
      by_cases hstart : e.blockNum ≤ startBlockNum
      · simp only [List.takeWhile_cons, hend', hstart, decide_true, if_true, List.map_cons,
          List.append_assoc, List.singleton_append, List.length_cons]
        rw [if_neg (List.cons_ne_nil _ _)]
        congr 1
        split_ifs with hT
        · simp [hT]
        · omega
      · have hnil : l.takeWhile (fun e => decide (e.blockNum ≤ startBlockNum)) = [] := by
          rw [List.takeWhile_eq_nil_iff]
          intro hl0
          have hlt := he _ (List.getElem_mem hl0)
          simp only [UInt32.le_iff_toNat_le] at hstart
          simp only [List.get_eq_getElem, decide_eq_true_eq, UInt32.le_iff_toNat_le, not_le]
          omega
        simp [hend', hstart, hnil]

/-- `blockRangeEntries`: the values relevant to a range of block numbers, from the one in force
at its start.  The start place is always a place of the records or `0`, so the slice of the
source does not panic. -/
def blockRangeEntries (history : HistoryRecord) (startBlockNum endBlockNum : UInt32) :
    List (List UInt8) :=
  let (records, startPos) := blockRangeLoop startBlockNum endBlockNum history.entries 0 [] 0
  records.drop startPos

theorem blockRangeEntries_eq {history : HistoryRecord} {startBlockNum endBlockNum : UInt32}
    (hse : startBlockNum ≤ endBlockNum)
    (hl : history.entries.Pairwise fun a b => a.blockNum < b.blockNum) :
    blockRangeEntries history startBlockNum endBlockNum =
      ((history.entries.takeWhile fun e => decide (e.blockNum ≤ endBlockNum)).map (·.data)).drop
        ((history.entries.takeWhile fun e => decide (e.blockNum ≤ startBlockNum)).length - 1) := by
  rw [blockRangeEntries, blockRangeLoop_spec hse hl]
  split_ifs with h <;> simp [h]

/-- `entriesDataInHeightRange`; the errors it extends with the name of the failing call are
kept as they are. -/
def entriesDataInHeightRange (amend : Bool) (key : K) (startHeight endHeight : Nat) :
    St ID K (List (List UInt8)) := do
  let history ← getHistory amend key false
  if history.entries = [] then pure []
  else
    let s ← StOutcome.get
    let startBlockNum ← StOutcome.lift (Outcome.ofExcept (s.blockNumByHeight startHeight))
    let endBlockNum ← StOutcome.lift (Outcome.ofExcept (s.blockNumByHeight endHeight))
    pure (blockRangeEntries history startBlockNum endBlockNum)

/-- `combineHistories`: the local history after the normalized one of the database, or alone
when the database has none left. -/
def combineHistories (amend : Bool) (key : K) (newHist : HistoryRecord) :
    St ID K HistoryRecord := fun s =>
  match getHistory amend key true s with
  | (.ok prevHist, s) =>
    if prevHist.entityType ≠ newHist.entityType then
      (.error (.other "trying to combine histories of different types"), s)
    else (.ok { prevHist with entries := prevHist.entries ++ newHist.entries }, s)
  | (.error .notFound, s) => (.ok newHist, s)
  | (.error .emptyHist, s) => (.ok newHist, s)
  | other => other

/-- `fullHistory`: the local history after the database's, or the database's alone when the
local storage has none. -/
def fullHistory (amend : Bool) (key : K) : St ID K HistoryRecord := fun s =>
  match s.stor.get key with
  | none => getHistory amend key true s
  | some newHist => combineHistories amend key newHist s

/-- `newestEntriesDataInHeightRange`: `entriesDataInHeightRange` over the full history and the
newest numbers by height. -/
def newestEntriesDataInHeightRange (amend : Bool) (key : K) (startHeight endHeight : Nat) :
    St ID K (List (List UInt8)) := do
  let history ← fullHistory amend key
  if history.entries = [] then pure []
  else
    let s ← StOutcome.get
    let startBlockNum ← StOutcome.lift (Outcome.ofExcept (s.newestBlockNumByHeight startHeight))
    let endBlockNum ← StOutcome.lift (Outcome.ofExcept (s.newestBlockNumByHeight endHeight))
    pure (blockRangeEntries history startBlockNum endBlockNum)

/-- `sortEntries`: the local histories by key. -/
def sortEntries (entries : GoMap K HistoryRecord) : GoMap K HistoryRecord :=
  entries.mergeSort fun a b => decide (a.1 ≤ b.1)

/-- The loop of `flush`: each local history is combined and put in the batch. -/
def flushLoop (amend : Bool) : List (K × HistoryRecord) → St ID K Unit
  | [] => pure ()
  | (key, value) :: entries => do
    let newEntry ← combineHistories amend key value
    putBatch (.putHistory key newEntry)
    flushLoop amend entries

/-- `historyStorage.flush`. -/
def flush (amend : Bool) : St ID K Unit := do
  let s ← StOutcome.get
  flushLoop amend (sortEntries s.stor)
  StOutcome.modify fun s => { s with stor := [] }

/-- `addNewEntry`: the entry of the block goes to the local history of the key. -/
def addNewEntry (entityType : BlockchainEntity) (key : K) (value : List UInt8) (blockID : ID) :
    St ID K Unit := fun s =>
  match s.newestBlockIdToNum blockID with
  | .error e => (.error e, s)
  | .ok blockNum =>
    let history := (s.stor.get key).getD (HistoryRecord.new entityType)
    (.ok (), { s with stor := s.stor.insert key (history.appendEntry ⟨value, blockNum⟩) })

/-- `historyStorage.reset`. -/
def reset (s : Storage ID K) : Storage ID K := { s with stor := [] }

end HistoryStorage

end Gowaves.State
