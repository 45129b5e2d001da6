import Gowaves.GoLib.Slice

/-!
# History records of the state storage (`pkg/state/history_storage.go`)

Every key of the state keeps the history of its value as a `historyRecord`: the kind of entity
(`blockchainEntity`) and a list of entries, each some data and the number of the block that
wrote it.  A record is stored as

  `TYPE (1) | ENTRY | ENTRY | ...`

where an entry is `DATA | BLOCK_NUM (4)` for the kinds of fixed size, whose entries all have the
record size of their kind (`properties`), and `SIZE (4) | DATA | BLOCK_NUM (4)` for the kinds of
variable size.  `newHistoryRecordFromBytes` decodes it; its loop over the entries of variable
size counts in `uint32`, `for i := uint32(1); i <= dataSize-4;`, and reslices the bytes at
`i` without checking them against the length.

## Results

* `newHistoryRecordFromBytes_marshalBinary` — every record with at least one entry, whose entries
  have the record size of a fixed-size kind or, for a kind of variable size, whose encoding is
  shorter than `2^32` bytes, is decoded back from its encoding;
* `newHistoryRecordFromBytes_malformed` — the empty record is not: its encoding is the type byte
  alone, which the decoder of a fixed-size kind refuses as too short, and on which the decoder of
  a variable-size kind computes `dataSize-4` below zero, wraps to `2^32 - 3`, enters the loop and
  panics slicing `data[1:5]`; and every byte string of a variable-size kind whose first size is
  `2^32 - 1` makes `i+recordSize` wrap below `i` and panics slicing `data[5:4]`.
-/

set_option autoImplicit false

namespace Gowaves.State

open GoLib

/-- `blockchainEntity`, numbered from one as the `iota` of its constants. -/
inductive BlockchainEntity where
  | alias | addressToAliases | asset | lease | wavesBalance | assetBalance | featureVote
  | approvedFeature | activatedFeature | ordersVolume | sponsorship | dataEntry | accountScript
  | assetScript | scriptBasicInfo | accountScriptComplexity | assetScriptComplexity | rewardVotes
  | rewardChanges | invokeResult | score | legacyStateHash | snapshotStateHash | hitSource
  | feeDistr | snapshots | patches | challengedAddress
  deriving DecidableEq, Repr

namespace BlockchainEntity

/-- The byte of the kind. -/
def toByte : BlockchainEntity → UInt8
  | .alias => 1 | addressToAliases => 2 | asset => 3 | lease => 4 | wavesBalance => 5
  | assetBalance => 6 | featureVote => 7 | approvedFeature => 8 | activatedFeature => 9
  | ordersVolume => 10 | sponsorship => 11 | dataEntry => 12 | accountScript => 13
  | assetScript => 14 | scriptBasicInfo => 15 | accountScriptComplexity => 16
  | assetScriptComplexity => 17 | rewardVotes => 18 | rewardChanges => 19 | invokeResult => 20
  | score => 21 | legacyStateHash => 22 | snapshotStateHash => 23 | hitSource => 24
  | feeDistr => 25 | snapshots => 26 | patches => 27 | challengedAddress => 28

/-- The kinds, in the order of their bytes. -/
def all : List BlockchainEntity :=
  [.alias, addressToAliases, asset, lease, wavesBalance, assetBalance, featureVote,
    approvedFeature, activatedFeature, ordersVolume, sponsorship, dataEntry, accountScript,
    assetScript, scriptBasicInfo, accountScriptComplexity, assetScriptComplexity, rewardVotes,
    rewardChanges, invokeResult, score, legacyStateHash, snapshotStateHash, hitSource, feeDistr,
    snapshots, patches, challengedAddress]

/-- The kind a byte numbers: the keys of `properties`. -/
def ofByte? (b : UInt8) : Option BlockchainEntity := all.find? (·.toByte == b)

theorem ofByte?_toByte (e : BlockchainEntity) : ofByte? e.toByte = some e := by
  cases e <;> decide

end BlockchainEntity

/-- `proto.AddressIDSize`. -/
def addressIDSize : Nat := 20

def aliasRecordSize : Nat := 1 + addressIDSize
def wavesBalanceRecordSize : Nat := 8 + 8 + 8
def assetBalanceRecordSize : Nat := 8
def votesFeaturesRecordSize : Nat := 8
def approvedFeaturesRecordSize : Nat := 8
def activatedFeaturesRecordSize : Nat := 8
def orderVolumeRecordSize : Nat := 8 + 8
def sponsorshipRecordSize : Nat := 8
def rewardVotesRecordSize : Nat := 4 + 4
def hitSourceSize : Nat := 32

/-- `blockchainEntityProperties`, with the two fields the codec reads. -/
structure BlockchainEntityProperties where
  fixedSize : Bool
  recordSize : Nat

/-- A kind of fixed size: the data and 4 bytes of block number. -/
def fixedOf (dataSize : Nat) : BlockchainEntityProperties := ⟨true, dataSize + 4⟩

/-- A kind of variable size. -/
def variableSize : BlockchainEntityProperties := ⟨false, 0⟩

open BlockchainEntity in
def properties : BlockchainEntity → BlockchainEntityProperties
  | .alias => fixedOf aliasRecordSize
  | wavesBalance => fixedOf wavesBalanceRecordSize
  | assetBalance => fixedOf assetBalanceRecordSize
  | featureVote => fixedOf votesFeaturesRecordSize
  | approvedFeature => fixedOf approvedFeaturesRecordSize
  | activatedFeature => fixedOf activatedFeaturesRecordSize
  | ordersVolume => fixedOf orderVolumeRecordSize
  | sponsorship => fixedOf sponsorshipRecordSize
  | rewardVotes => fixedOf rewardVotesRecordSize
  | hitSource => fixedOf hitSourceSize
  | addressToAliases | asset | lease | dataEntry | accountScript | assetScript | scriptBasicInfo
  | accountScriptComplexity | assetScriptComplexity | rewardChanges | invokeResult | score
  | legacyStateHash | snapshotStateHash | feeDistr | snapshots | patches | challengedAddress =>
    variableSize

theorem four_le_recordSize {e : BlockchainEntity} (h : (properties e).fixedSize = true) :
    4 ≤ (properties e).recordSize := by
  cases e <;> simp_all [properties, fixedOf, variableSize]

def errInvalidDataSize : String := "invalid data size"

/-! ## Entries -/

structure HistoryEntry where
  data : List UInt8
  blockNum : UInt32
  deriving DecidableEq, Repr

namespace HistoryEntry

/-- `historyEntry.size`: the data and the block number. -/
def size (he : HistoryEntry) : Nat := he.data.length + 4

/-- `historyEntry.marshalBinary`. -/
def marshalBinary (he : HistoryEntry) : List UInt8 :=
  he.data ++ BigEndian.toBytes 4 he.blockNum.toNat

/-- `historyEntry.unmarshalBinary`: a copy of all but the last four bytes, and the block number
from `data[len(data)-4:]`. -/
def unmarshalBinary (data : Slice UInt8) : Outcome String HistoryEntry :=
  if data.len < 4 then .error errInvalidDataSize
  else do
    let blockNum ← data.sliceFrom (data.len - 4) >>= Slice.uint32
    pure ⟨data.toList.take (data.len - 4), blockNum⟩

theorem length_marshalBinary (he : HistoryEntry) : he.marshalBinary.length = he.size := by
  simp [marshalBinary, size]

theorem unmarshalBinary_eq {t : Slice UInt8} {he : HistoryEntry}
    (ht : t.toList = he.marshalBinary) : unmarshalBinary t = .ok he := by
  have hlen : t.len = he.data.length + 4 := by
    rw [← Slice.length_toList, ht, length_marshalBinary, size]
  obtain ⟨t', ht', hl', hlen', -⟩ :=
    t.sliceFrom_ok (ε := String) (show t.len - 4 ≤ t.len by omega)
  have hbytes : t'.toList = BigEndian.toBytes 4 he.blockNum.toNat := by
    rw [hl', ht, marshalBinary, hlen, Nat.add_sub_cancel, List.drop_left]
  have hnum : (BigEndian.ofBytes (t'.toList.take 4)).toUInt32 = he.blockNum := by
    rw [hbytes, List.take_of_length_le (by simp),
      BigEndian.ofBytes_toBytes_of_lt (by simpa using he.blockNum.toNat_lt)]
    simp
  have hdata : t.toList.take (t.len - 4) = he.data := by
    rw [ht, marshalBinary, hlen, Nat.add_sub_cancel, List.take_left]
  simp only [unmarshalBinary, show ¬ t.len < 4 by omega, if_false, ht', Outcome.bind_ok,
    Slice.uint32, show 4 ≤ t'.len by omega, if_true, hnum, hdata, Outcome.pure_eq]

end HistoryEntry

/-! ## Records -/

structure HistoryRecord where
  entityType : BlockchainEntity
  entries : List HistoryEntry
  deriving DecidableEq, Repr

/-- `historyRecord.marshalBinary`: the type byte, then each entry, after its size for a kind of
variable size.  `countTotalSize` sizes the buffer exactly, so the entries fill it in order. -/
def HistoryRecord.marshalBinary (hr : HistoryRecord) : List UInt8 :=
  hr.entityType.toByte :: hr.entries.flatMap fun entry =>
    (if (properties hr.entityType).fixedSize then [] else BigEndian.toBytes 4 entry.size) ++
      entry.marshalBinary

/-- The loop over the entries of a fixed-size kind: `data[i : i+recordSize]` while
`i <= dataSize-recordSize`, in `int`. -/
def fixedEntries (data : Slice UInt8) (recordSize : Nat) :
    Nat → Nat → Outcome String (List HistoryEntry)
  | 0, _ => .exhausted
  | fuel + 1, i =>
    if i ≤ data.len - recordSize then do
      let entry ← data.slice i (i + recordSize) >>= HistoryEntry.unmarshalBinary
      let entries ← fixedEntries data recordSize fuel (i + recordSize)
      pure (entry :: entries)
    else pure []

/-- The loop over the entries of a variable-size kind, in `uint32`: the size from
`data[i : i+4]`, the check `dataSize < i+recordSize`, and the entry from
`data[i : i+recordSize]`. -/
def variableEntries (data : Slice UInt8) (dataSize : UInt32) :
    Nat → UInt32 → Outcome String (List HistoryEntry)
  | 0, _ => .exhausted
  | fuel + 1, i =>
    if i ≤ dataSize - 4 then do
      let recordSize ← data.slice i.toNat (i + 4).toNat >>= Slice.uint32
      let i := i + 4
      if dataSize < i + recordSize then .error errInvalidDataSize
      else do
        let entry ← data.slice i.toNat (i + recordSize).toNat >>= HistoryEntry.unmarshalBinary
        let entries ← variableEntries data dataSize fuel (i + recordSize)
        pure (entry :: entries)
    else pure []

/-- `newHistoryRecordFromBytes`.  Each turn of either loop moves `i` forward by at least four,
or stops, so `len(data) + 1` turns are enough. -/
def newHistoryRecordFromBytes (data : Slice UInt8) : Outcome String HistoryRecord :=
  if data.len < 1 then .error errInvalidDataSize
  else do
    let b ← data.index 0
    match BlockchainEntity.ofByte? b with
    | none => .error ("bad entity type " ++ toString b.toNat)
    | some entityType =>
      let property := properties entityType
      if property.fixedSize then
        if data.len < 1 + property.recordSize then
          .error ("entity type " ++ toString b.toNat ++ ": " ++ errInvalidDataSize)
        else do
          let entries ← fixedEntries data property.recordSize (data.len + 1) 1
          pure ⟨entityType, entries⟩
      else do
        let entries ← variableEntries data (UInt32.ofNat data.len) (data.len + 1) 1
        pure ⟨entityType, entries⟩

/-! ## Decoding what was encoded -/

theorem slice_ofList_mid (pre mid post : List UInt8) :
    ∃ t : Slice UInt8, ((Slice.ofList (pre ++ mid ++ post)).slice pre.length
      (pre.length + mid.length) : Outcome String (Slice UInt8)) = .ok t ∧ t.toList = mid := by
  obtain ⟨t, ht, htl, -⟩ := (Slice.ofList (pre ++ mid ++ post)).slice_ok (ε := String)
    (show pre.length ≤ pre.length + mid.length by omega)
    (show pre.length + mid.length ≤ (Slice.ofList (pre ++ mid ++ post)).cap by simp)
  refine ⟨t, ht, ?_⟩
  rw [htl]
  simp [Slice.ofList, List.take_append]

theorem fixedEntries_flatMap (l : List UInt8) {recordSize : Nat} (hrs : 0 < recordSize) :
    ∀ (es : List HistoryEntry) (pre : List UInt8), 0 < pre.length →
      (∀ e ∈ es, e.size = recordSize) → l = pre ++ es.flatMap HistoryEntry.marshalBinary →
        ∀ fuel, es.length < fuel → fixedEntries (Slice.ofList l) recordSize fuel pre.length = .ok es
  | [], pre, hpre, _, hl, fuel + 1, _ => by
    have hend : ¬ pre.length ≤ l.length - recordSize := by
      rw [hl]; simp; omega
    simp [fixedEntries, hend]
  | e :: es, pre, hpre, hsize, hl, fuel + 1, hfuel => by
    have he : e.marshalBinary.length = recordSize := by
      rw [HistoryEntry.length_marshalBinary, hsize e (by simp)]
    have hl' : l = pre ++ e.marshalBinary ++ es.flatMap HistoryEntry.marshalBinary := by
      rw [hl, List.flatMap_cons, List.append_assoc]
    have hlen : (Slice.ofList l).len = pre.length + recordSize +
        (es.flatMap HistoryEntry.marshalBinary).length := by
      rw [Slice.len_ofList, hl']; simp [he]; omega
    obtain ⟨t, ht, htl⟩ := slice_ofList_mid pre e.marshalBinary (es.flatMap HistoryEntry.marshalBinary)
    rw [he, ← hl'] at ht
    have hrest := fixedEntries_flatMap l hrs es (pre ++ e.marshalBinary) (by simp; omega)
      (fun e' he' => hsize e' (by simp [he'])) hl' fuel (by simp at hfuel; omega)
    rw [List.length_append, he] at hrest
    simp only [fixedEntries, hlen, show pre.length ≤ pre.length + recordSize +
        (es.flatMap HistoryEntry.marshalBinary).length - recordSize by omega, if_true, ht,
      Outcome.bind_ok, HistoryEntry.unmarshalBinary_eq htl, hrest, Outcome.pure_eq]

/-- The bytes of the entries of a variable-size kind, each after its size. -/
def variableBytes (es : List HistoryEntry) : List UInt8 :=
  es.flatMap fun e => BigEndian.toBytes 4 e.size ++ e.marshalBinary

theorem toNat_add_of_lt {a b : UInt32} (h : a.toNat + b.toNat < 2 ^ 32) :
    (a + b).toNat = a.toNat + b.toNat := by
  rw [UInt32.toNat_add]; omega

theorem toNat_ofNat_of_lt {n : Nat} (h : n < 2 ^ 32) : (UInt32.ofNat n).toNat = n := by
  rw [UInt32.toNat_ofNat']; omega

theorem variableEntries_flatMap (l : List UInt8) (hl32 : l.length < 2 ^ 32) (hl4 : 4 ≤ l.length) :
    ∀ (es : List HistoryEntry) (pre : List UInt8) (i : UInt32), i.toNat = pre.length →
      l = pre ++ variableBytes es → ∀ fuel, es.length < fuel →
        variableEntries (Slice.ofList l) (UInt32.ofNat l.length) fuel i = .ok es
  | [], pre, i, hi, hl, fuel + 1, _ => by
    have hsz := toNat_ofNat_of_lt hl32
    have hpre : pre.length = l.length := by rw [hl]; simp [variableBytes]
    have hend : ¬ i ≤ UInt32.ofNat l.length - 4 := by
      rw [UInt32.le_iff_toNat_le, UInt32.toNat_sub_of_le _ _
        (by rw [UInt32.le_iff_toNat_le, hsz]; simpa using hl4), hsz, hi, hpre]
      simp; omega
    simp [variableEntries, hend]
  | e :: es, pre, i, hi, hl, fuel + 1, hfuel => by
    have he := HistoryEntry.length_marshalBinary e
    have hl' : l = pre ++ BigEndian.toBytes 4 e.size ++ (e.marshalBinary ++ variableBytes es) := by
      rw [hl, variableBytes, List.flatMap_cons, ← variableBytes, List.append_assoc,
        List.append_assoc]
    have hl'' : l = pre ++ BigEndian.toBytes 4 e.size ++ e.marshalBinary ++ variableBytes es := by
      rw [hl', List.append_assoc _ e.marshalBinary]
    have hlen : pre.length + 4 + e.size ≤ l.length := by
      rw [hl'']; simp only [List.length_append, BigEndian.length_toBytes, he]; omega
    have hsz := toNat_ofNat_of_lt hl32
    have hsize : (UInt32.ofNat e.size).toNat = e.size := toNat_ofNat_of_lt (by omega)
    have hi4 : (i + 4).toNat = pre.length + 4 := by
      rw [toNat_add_of_lt (by simp; omega), hi]; rfl
    have hirs : (i + 4 + UInt32.ofNat e.size).toNat = pre.length + 4 + e.size := by
      rw [toNat_add_of_lt (by omega), hi4, hsize]
    have hloop : i ≤ UInt32.ofNat l.length - 4 := by
      rw [UInt32.le_iff_toNat_le, UInt32.toNat_sub_of_le _ _
        (by rw [UInt32.le_iff_toNat_le, hsz]; simpa using hl4), hsz]
      simp; omega
    have hfits : ¬ UInt32.ofNat l.length < i + 4 + UInt32.ofNat e.size := by
      rw [UInt32.lt_iff_toNat_lt, hsz, hirs]; omega
    obtain ⟨t, ht, htl⟩ := slice_ofList_mid pre (BigEndian.toBytes 4 e.size)
      (e.marshalBinary ++ variableBytes es)
    rw [← hl', BigEndian.length_toBytes, ← hi4, ← hi] at ht
    have hnum : (t.uint32 : Outcome String UInt32) = .ok (UInt32.ofNat e.size) := by
      have htlen : t.len = 4 := by rw [← Slice.length_toList, htl, BigEndian.length_toBytes]
      rw [Slice.uint32, if_pos (by omega), htl, List.take_of_length_le (by simp),
        BigEndian.ofBytes_toBytes_of_lt (by simpa using (show e.size < 2 ^ 32 by omega))]
    obtain ⟨u, hu, hul⟩ := slice_ofList_mid (pre ++ BigEndian.toBytes 4 e.size) e.marshalBinary
      (variableBytes es)
    rw [← hl'', List.length_append, BigEndian.length_toBytes, he, ← hirs, ← hi4] at hu
    have hrest := variableEntries_flatMap l hl32 hl4 es
      (pre ++ BigEndian.toBytes 4 e.size ++ e.marshalBinary) (i + 4 + UInt32.ofNat e.size)
      (by rw [hirs]; simp [he]; omega) (by rw [hl'']) fuel (by simp at hfuel; omega)
    simp only [variableEntries, hloop, if_true, ht, Outcome.bind_ok, hnum, hfits, if_false, hu,
      HistoryEntry.unmarshalBinary_eq hul, hrest, Outcome.pure_eq]

/-! ## Records -/

theorem newHistoryRecordFromBytes_cons (e : BlockchainEntity) (rest : List UInt8) :
    newHistoryRecordFromBytes (Slice.ofList (e.toByte :: rest)) =
      if (properties e).fixedSize then
        if rest.length + 1 < 1 + (properties e).recordSize then
          .error ("entity type " ++ toString e.toByte.toNat ++ ": " ++ errInvalidDataSize)
        else
          fixedEntries (Slice.ofList (e.toByte :: rest)) (properties e).recordSize
            (rest.length + 2) 1 >>= fun entries => pure ⟨e, entries⟩
      else
        variableEntries (Slice.ofList (e.toByte :: rest)) (UInt32.ofNat (rest.length + 1))
          (rest.length + 2) 1 >>= fun entries => pure ⟨e, entries⟩ := by
  simp [newHistoryRecordFromBytes, Slice.index, Slice.ofList, BlockchainEntity.ofByte?_toByte]

theorem length_le_length_flatMap :
    ∀ es : List HistoryEntry, es.length ≤ (es.flatMap HistoryEntry.marshalBinary).length
  | [] => by simp
  | e :: es => by
    have := length_le_length_flatMap es
    simp only [List.flatMap_cons, List.length_append, List.length_cons,
      HistoryEntry.length_marshalBinary, HistoryEntry.size]
    omega

theorem length_le_length_variableBytes :
    ∀ es : List HistoryEntry, es.length ≤ (variableBytes es).length
  | [] => by simp [variableBytes]
  | e :: es => by
    have := length_le_length_variableBytes es
    simp only [variableBytes, List.flatMap_cons, List.length_append, List.length_cons,
      BigEndian.length_toBytes] at this ⊢
    omega

/-- **Records with entries are decoded from their encoding**: those of a fixed-size kind when
every entry has the kind's record size, those of a variable-size kind when the encoding is
shorter than `2^32` bytes. -/
theorem newHistoryRecordFromBytes_marshalBinary (hr : HistoryRecord) (hne : hr.entries ≠ [])
    (hfixed : (properties hr.entityType).fixedSize = true →
      ∀ e ∈ hr.entries, e.size = (properties hr.entityType).recordSize)
    (hvariable : (properties hr.entityType).fixedSize = false →
      hr.marshalBinary.length < 2 ^ 32) :
    newHistoryRecordFromBytes (Slice.ofList hr.marshalBinary) = .ok hr := by
  obtain ⟨e0, es0, hes⟩ := List.exists_cons_of_ne_nil hne
  cases hf : (properties hr.entityType).fixedSize with
  | true =>
    have hsize := hfixed hf
    have hrs := four_le_recordSize hf
    have hbody : HistoryRecord.marshalBinary hr =
        hr.entityType.toByte :: hr.entries.flatMap HistoryEntry.marshalBinary := by
      simp [HistoryRecord.marshalBinary, hf]
    have hlong : 1 + (properties hr.entityType).recordSize ≤
        (hr.entries.flatMap HistoryEntry.marshalBinary).length + 1 := by
      rw [hes, List.flatMap_cons, List.length_append, HistoryEntry.length_marshalBinary,
        hsize e0 (by simp [hes])]
      omega
    have hloop := fixedEntries_flatMap
      (hr.entityType.toByte :: hr.entries.flatMap HistoryEntry.marshalBinary) (by omega)
      hr.entries [hr.entityType.toByte] (by simp) hsize rfl
      ((hr.entries.flatMap HistoryEntry.marshalBinary).length + 2)
      (by have := length_le_length_flatMap hr.entries; omega)
    rw [hbody, newHistoryRecordFromBytes_cons, if_pos hf, if_neg (by omega)]
    simp only [List.length_singleton] at hloop
    rw [hloop]
    rfl
  | false =>
    have hbody : HistoryRecord.marshalBinary hr = hr.entityType.toByte :: variableBytes hr.entries := by
      simp [HistoryRecord.marshalBinary, hf, variableBytes]
    have hl32 := hvariable hf
    rw [hbody] at hl32 ⊢
    have hl4 : 4 ≤ (hr.entityType.toByte :: variableBytes hr.entries).length := by
      rw [hes]; simp [variableBytes]; omega
    have hloop := variableEntries_flatMap _ hl32 hl4 hr.entries [hr.entityType.toByte] 1 rfl rfl
      ((variableBytes hr.entries).length + 2)
      (by have := length_le_length_variableBytes hr.entries; omega)
    rw [newHistoryRecordFromBytes_cons, if_neg (by simp [hf])]
    simp only [List.length_cons] at hloop
    rw [hloop]
    rfl

theorem newHistoryRecordFromBytes_marshalBinary_dataEntry :
    let hr : HistoryRecord := ⟨.dataEntry, [⟨[1, 2], 7⟩, ⟨[], 9⟩]⟩
    hr.entries ≠ [] ∧
    ((properties hr.entityType).fixedSize = true →
      ∀ e ∈ hr.entries, e.size = (properties hr.entityType).recordSize) ∧
    ((properties hr.entityType).fixedSize = false → hr.marshalBinary.length < 2 ^ 32) ∧
    newHistoryRecordFromBytes (Slice.ofList hr.marshalBinary) = .ok hr :=
  have hfixed : (properties .dataEntry).fixedSize = true → ∀ e ∈ [⟨[1, 2], 7⟩, ⟨[], 9⟩],
      HistoryEntry.size e = (properties .dataEntry).recordSize := fun h => absurd h (by decide)
  ⟨by simp, hfixed, fun _ => by decide,
    newHistoryRecordFromBytes_marshalBinary _ (by simp) hfixed (fun _ => by decide)⟩

/-! ## Where the decoder panics -/

theorem variableEntries_typeOnly (b : UInt8) :
    variableEntries (Slice.ofList [b]) (UInt32.ofNat 1) 2 1 = .panic (Slice.sliceCapPanic 5 1) :=
  rfl

theorem variableEntries_wrap (b : UInt8) (tail : List UInt8) (hlen : tail.length + 5 < 2 ^ 32) :
    variableEntries (Slice.ofList ([b] ++ [255, 255, 255, 255] ++ tail))
      (UInt32.ofNat (tail.length + 5)) (tail.length + 6) 1 = .panic (Slice.sliceOrderPanic 5 4) := by
  have hsz : (UInt32.ofNat (tail.length + 5)).toNat = tail.length + 5 := toNat_ofNat_of_lt hlen
  have hloop : (1 : UInt32) ≤ UInt32.ofNat (tail.length + 5) - 4 := by
    rw [UInt32.le_iff_toNat_le, UInt32.toNat_sub_of_le _ _
      (by rw [UInt32.le_iff_toNat_le, hsz]; simp), hsz]
    simp
  have h4 : (1 + 4 + 4294967295 : UInt32).toNat = 4 := rfl
  have hwrap : ¬ UInt32.ofNat (tail.length + 5) < 1 + 4 + 4294967295 := by
    rw [UInt32.lt_iff_toNat_lt, hsz, h4]; omega
  obtain ⟨t, ht, htl⟩ := slice_ofList_mid [b] [255, 255, 255, 255] tail
  have hnum : (t.uint32 : Outcome String UInt32) = .ok 4294967295 := by
    have htlen : t.len = 4 := by rw [← Slice.length_toList, htl]; rfl
    rw [Slice.uint32, if_pos (by omega), htl]
    rfl
  have hpanic : ((Slice.ofList ([b] ++ [255, 255, 255, 255] ++ tail)).slice 5 4 :
      Outcome String (Slice UInt8)) = .panic (Slice.sliceOrderPanic 5 4) :=
    Slice.slice_order_panic _ (by simp) (by omega)
  have ht' : ((Slice.ofList ([b] ++ [255, 255, 255, 255] ++ tail)).slice 1 5 :
      Outcome String (Slice UInt8)) = .ok t := ht
  have h1 : (1 : UInt32).toNat = 1 := rfl
  have h5 : (1 + 4 : UInt32).toNat = 5 := rfl
  rw [variableEntries, if_pos hloop, h1, h5, ht', Outcome.bind_ok, hnum, Outcome.bind_ok,
    if_neg hwrap, h4, h5, hpanic]
  rfl

/-- **Byte strings on which the decoder fails**: the encoding of the empty record, which the
decoder refuses for a fixed-size kind and panics on for a variable-size kind; and, for a
variable-size kind, every byte string whose first size is `2^32 - 1`. -/
theorem newHistoryRecordFromBytes_malformed :
    (∀ e : BlockchainEntity,
      newHistoryRecordFromBytes (Slice.ofList (HistoryRecord.marshalBinary ⟨e, []⟩)) =
        if (properties e).fixedSize then
          .error ("entity type " ++ toString e.toByte.toNat ++ ": " ++ errInvalidDataSize)
        else .panic (Slice.sliceCapPanic 5 1)) ∧
    (∀ e : BlockchainEntity, (properties e).fixedSize = false →
      ∀ tail : List UInt8, tail.length + 5 < 2 ^ 32 →
        newHistoryRecordFromBytes (Slice.ofList ([e.toByte, 255, 255, 255, 255] ++ tail)) =
          .panic (Slice.sliceOrderPanic 5 4)) := by
  constructor
  · intro e
    rw [show HistoryRecord.marshalBinary ⟨e, []⟩ = [e.toByte] from rfl,
      newHistoryRecordFromBytes_cons]
    cases hf : (properties e).fixedSize with
    | true =>
      have hrs := four_le_recordSize hf
      simp only [if_true, List.length_nil]
      rw [if_pos (by omega)]
    | false =>
      simp only [Bool.false_eq_true, if_false, List.length_nil]
      rw [variableEntries_typeOnly]
      rfl
  · intro e hv tail hlen
    have h := newHistoryRecordFromBytes_cons e ([255, 255, 255, 255] ++ tail)
    have hlen5 : ([255, 255, 255, 255] ++ tail).length + 1 = tail.length + 5 := by simp
    have hlen6 : ([255, 255, 255, 255] ++ tail).length + 2 = tail.length + 6 := by simp
    rw [if_neg (by simp [hv]), hlen5, hlen6] at h
    have hl : [e.toByte, 255, 255, 255, 255] ++ tail = e.toByte :: ([255, 255, 255, 255] ++ tail) :=
      rfl
    have hl' : e.toByte :: ([255, 255, 255, 255] ++ tail) =
        [e.toByte] ++ [255, 255, 255, 255] ++ tail := rfl
    rw [hl, h, hl', variableEntries_wrap e.toByte tail hlen]
    rfl

theorem newHistoryRecordFromBytes_malformed_dataEntry :
    (properties .dataEntry).fixedSize = false ∧ ([] : List UInt8).length + 5 < 2 ^ 32 ∧
      newHistoryRecordFromBytes (Slice.ofList ([BlockchainEntity.dataEntry.toByte, 255, 255, 255, 255] ++ [])) =
        .panic (Slice.sliceOrderPanic 5 4) :=
  ⟨rfl, by decide, newHistoryRecordFromBytes_malformed.2 .dataEntry rfl [] (by decide)⟩

end Gowaves.State
