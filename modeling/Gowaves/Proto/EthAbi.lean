import Gowaves.GoLib.Slice
import Gowaves.GoLib.GoMap

/-!
# Ethereum call data (`pkg/proto/ethabi`)

`MethodsMap.ParseCallDataRide` decodes the call data of an Ethereum invoke: a four-byte
selector names the method, the arguments follow in 32-byte slots (a dynamic argument holds the
offset of its data), and, for a DApp method, the list of payments follows the arguments as one
more dynamic argument.  Offsets and lengths are 256-bit words from the transaction, checked by
`lengthPrefixPointsTo`, which itself reads its offset word as `output[index:index+32]` and
relies on its caller for that slot being there.  `toDataType` checks it; `unpackPayments`,
called with the index just past the arguments, only checks that the arguments are not empty.

## Model

The types are those `AbiTypeFromRideTypeMeta` builds for a DApp method (`Int` as `int64`,
`ByteVector`, `Boolean`, `String`, lists of them) and those of the ERC-20 map (`address`,
`uint256`), with the fixed bytes and integer sizes of the payments.  Union tuples, which
neither map builds, are left out.  The call data is a Go slice (`GoLib.Slice`), so that a
reslice past the length reads into the capacity and one past the capacity panics.

## Results

* `parseCallDataRide_missingPayments` — for every methods map that parses payments and every
  method of it whose arguments are integers, the call data made of the method's selector and
  one slot per argument, with no payments slot, makes `ParseCallDataRide` panic in
  `lengthPrefixPointsTo`, with or without the sanity checks, instead of returning an error.
-/

set_option autoImplicit false

namespace Gowaves.Proto.EthAbi

open GoLib

def abiSlotSize : Nat := 32

def selectorSize : Nat := 4

def ethereumAddressSize : Nat := 20

/-- `ethabi.Type`, by its `T` and what each kind of type reads of it. -/
inductive AbiType where
  | int (size : Nat)
  | uint (size : Nat)
  | bytes
  | bool
  | string
  | slice (elem : AbiType)
  | address
  | fixedBytes (size : Nat)
  deriving DecidableEq, Repr

/-- `ethabi.DataType`. -/
inductive DataType where
  | int (v : Int64)
  | bigInt (v : Int)
  | bool (v : Bool)
  | bytes (v : List UInt8)
  | string (v : List UInt8)
  | list (v : List DataType)
  deriving Repr

/-- The two's complement reading of an unsigned `bits`-bit value. -/
def signExtend (bits v : Nat) : Int := if v < 2 ^ (bits - 1) then v else (v : Int) - 2 ^ bits

/-- `readInteger` (`big.Int.SetBytes` and `binary.BigEndian.UintN` read big-endian): the low bytes of the slot for the sizes up to 64, the whole slot else. -/
def readInteger (typ : AbiType) (b : List UInt8) : DataType :=
  let low (n : Nat) := BigEndian.ofBytes (b.drop (b.length - n))
  match typ with
  | .uint 8 => .int (Int64.ofNat (low 1))
  | .uint 16 => .int (Int64.ofNat (low 2))
  | .uint 32 => .int (Int64.ofNat (low 4))
  | .uint 64 => .int (Int64.ofNat (low 8))
  | .uint _ => .bigInt (BigEndian.ofBytes b)
  | .int 8 => .int (Int64.ofInt (signExtend 8 (low 1)))
  | .int 16 => .int (Int64.ofInt (signExtend 16 (low 2)))
  | .int 32 => .int (Int64.ofInt (signExtend 32 (low 4)))
  | .int 64 => .int (Int64.ofInt (signExtend 64 (low 8)))
  | _ => .bigInt (signExtend 256 (BigEndian.ofBytes b))

def readBool (word : List UInt8) : Except String Bool :=
  if (word.take (abiSlotSize - 1)).any (· ≠ 0) then .error "abi: improperly encoded boolean value"
  else match word.getD (abiSlotSize - 1) 0 with
    | 0 => .ok false
    | 1 => .ok true
    | _ => .error "abi: improperly encoded boolean value"

/-- `readFixedBytes`, for a fixed bytes type of `size`. -/
def readFixedBytes (size : Nat) (word : Slice UInt8) : Outcome String (List UInt8) :=
  if size < 1 ∨ size > abiSlotSize then
    .error ("abi: invalid type size in call to make fixed byte array, want 0 < size <= 32, " ++
      "actual size=" ++ toString size)
  else do
    let array ← word.slice 0 size
    pure array.toList

/-- `lengthPrefixPointsTo`: the offset word at `index` and the length word it points to, with
the start of the data and its length.  The offset word is read as `output[index:index+32]`,
unchecked. -/
def lengthPrefixPointsTo (index : Nat) (output : Slice UInt8) : Outcome String (Nat × Nat × Nat) := do
  let bigOffsetBytes ← output.slice index (index + abiSlotSize)
  let bigOffsetEnd := BigEndian.ofBytes bigOffsetBytes.toList + 32
  let outputLength := output.len
  if bigOffsetEnd > outputLength then
    .error ("abi: cannot marshal in to go slice: offset " ++ toString bigOffsetEnd ++
      " would go over slice boundary (len=" ++ toString outputLength ++ ")")
  else if 2 ^ 63 ≤ bigOffsetEnd then
    .error ("abi offset larger than int64: " ++ toString bigOffsetEnd)
  else do
    let bigLengthBytes ← output.slice (bigOffsetEnd - abiSlotSize) bigOffsetEnd
    let lengthBig := BigEndian.ofBytes bigLengthBytes.toList
    let totalSize := bigOffsetEnd + lengthBig
    if 2 ^ 63 ≤ totalSize then .error ("abi: length larger than int64: " ++ toString totalSize)
    else if totalSize > outputLength then
      .error ("abi: cannot marshal in to go type: length insufficient " ++ toString outputLength ++
        " require " ++ toString totalSize)
    else pure (bigOffsetEnd, lengthBig, 2)

def slotsSizeForBytes (b : List UInt8) : Nat :=
  b.length / abiSlotSize + if b.length % abiSlotSize ≠ 0 then 1 else 0

/-- `forEachUnpackRideList`, for a list whose elements are decoded by `decodeElem`; its check
prints the two numbers in the order the source gives them. -/
def forEachUnpackRideList (decodeElem : Nat → Slice UInt8 → Outcome String (DataType × Nat))
    (output : Slice UInt8) (start size : Nat) : Outcome String (List DataType × Nat) :=
  if start + abiSlotSize * size > output.len then
    .error ("abi: cannot marshal in to go array: offset " ++ toString output.len ++
      " would go over slice boundary (len=" ++ toString (start + abiSlotSize * size) ++ ")")
  else do
    -- every element of a list of the supported types takes one slot
    let results ← (List.range size).mapM fun j => decodeElem (start + abiSlotSize * j) output
    pure (results.map (·.1), (results.map (·.2)).sum)

/-- `toDataType`: the value of type `t` whose slot is at `index`, with the number of slots
read. -/
def toDataType (index : Nat) (t : AbiType) (output : Slice UInt8) :
    Outcome String (DataType × Nat) :=
  if index + abiSlotSize > output.len then
    .error ("abi: cannot marshal in to go type: length insufficient " ++ toString output.len ++
      " require " ++ toString (index + abiSlotSize))
  else
    match t with
    | .slice elem => do
      let (begin, length, slotsRead) ← lengthPrefixPointsTo index output
      let out ← output.sliceFrom begin
      let (list, slotsRead') ← forEachUnpackRideList (fun i o => toDataType i elem o) out 0 length
      pure (.list list, slotsRead + slotsRead')
    | .string => do
      let (begin, length, slotsRead) ← lengthPrefixPointsTo index output
      let s ← output.slice begin (begin + length)
      pure (.string s.toList, slotsRead + slotsSizeForBytes s.toList)
    | .bytes => do
      let (begin, length, slotsRead) ← lengthPrefixPointsTo index output
      let s ← output.slice begin (begin + length)
      pure (.bytes s.toList, slotsRead + slotsSizeForBytes s.toList)
    | .int size => do
      let slot ← output.slice index (index + abiSlotSize)
      pure (readInteger (.int size) slot.toList, 1)
    | .uint size => do
      let slot ← output.slice index (index + abiSlotSize)
      pure (readInteger (.uint size) slot.toList, 1)
    | .bool => do
      let slot ← output.slice index (index + abiSlotSize)
      let boolean ← Outcome.ofExcept (readBool slot.toList)
      pure (.bool boolean, 1)
    | .address => do
      let slot ← output.slice index (index + abiSlotSize)
      pure (.bytes (slot.toList.drop (slot.len - ethereumAddressSize)), 1)
    | .fixedBytes size => do
      let slot ← output.slice index (index + abiSlotSize)
      let fixedBytes ← readFixedBytes size slot
      pure (.bytes fixedBytes, 1)

/-- `Arguments.UnpackRideValues`: each argument from its own slot, with the index of the slot
after them, where the payments are. -/
def unpackRideValues (arguments : List AbiType) (output : Slice UInt8) :
    Outcome String (List DataType × Nat × Nat) := do
  let results ← arguments.zipIdx.mapM fun (arg, index) =>
    toDataType (index * abiSlotSize) arg output
  pure (results.map (·.1), arguments.length * abiSlotSize, (results.map (·.2)).sum)

/-! ## Payments -/

/-- `ethabi.Payment`. -/
structure Payment where
  presentAssetID : Bool
  assetID : List UInt8
  amount : Int64

def tryAsInt64 : DataType → Except String Int64
  | .int i => .ok i
  | .bigInt i =>
    if -2 ^ 63 ≤ i ∧ i < 2 ^ 63 then .ok (Int64.ofInt i)
    else .error "abi: failed to convert BigInt as int64, value too big"
  | _ => .error "abi: failed to convert RideType as int64, type is not number"

/-- `unpackPayment`: a 32-byte asset ID, then an `int64` amount. -/
def unpackPayment (output : Slice UInt8) : Outcome String (Payment × Nat) := do
  let (assetRideValue, slotsRead) ← (toDataType 0 (.fixedBytes 32) output).mapError
    ("failed to decode payment, failed to parse fullAssetID: " ++ ·)
  let fullAssetID ← match assetRideValue with
    | .bytes b => pure b
    | _ => .panic "BUG, CREATE REPORT: failed to parse payment, assetRideValue type must be RideBytes type"
  let (amountRideValue, slotsRead') ← (toDataType 32 (.int 64) output).mapError
    ("failed to decode payment, failed to parse amount: " ++ ·)
  let amount ← (Outcome.ofExcept (tryAsInt64 amountRideValue)).mapError
    ("failed to parse payment, amountRideValue type MUST be representable as int64: " ++ ·)
  if amount < 0 then .error "negative payment amount"
  else pure (⟨fullAssetID.any (· ≠ 0), fullAssetID, amount⟩, slotsRead + slotsRead')

/-- The loop of `unpackPayments`: payment `i` from `output[i*64:]`. -/
def unpackPaymentsLoop (output : Slice UInt8) : Nat → Nat → Outcome String (List Payment × Nat)
  | _, 0 => pure ([], 0)
  | i, n + 1 => do
    let rest ← output.sliceFrom (i * 64)
    let (payment, slotsRead) ← (unpackPayment rest).mapError ("failed to unpack payment: " ++ ·)
    let (payments, slotsRead') ← unpackPaymentsLoop output (i + 1) n
    pure (payment :: payments, slotsRead + slotsRead')

/-- `unpackPayments`: the payments list, whose offset word is at `paymentsSliceIndex`. -/
def unpackPayments (paymentsSliceIndex : Nat) (output : Slice UInt8) :
    Outcome String (List Payment × Nat) :=
  if output.len = 0 then .error "empty payments bytes"
  else do
    let (begin, size, slotsRead) ← (lengthPrefixPointsTo paymentsSliceIndex output).mapError
      ("failed to read offset and length: " ++ ·)
    let output ← output.sliceFrom begin
    if abiSlotSize * size > output.len then
      .error ("abi: cannot marshal in to go array: offset " ++ toString output.len ++
        " would go over slice boundary (len=" ++ toString (abiSlotSize * size) ++ ")")
    else do
      let (payments, slotsRead') ← unpackPaymentsLoop output 0 size
      pure (payments, slotsRead + slotsRead')

/-! ## Methods -/

abbrev Selector := Vector UInt8 4

/-- A hexadecimal digit, lower case. -/
def hexDigit (n : Nat) : Char := if n < 10 then Char.ofNat (48 + n) else Char.ofNat (87 + n)

/-- `Selector.String`: `0x` and the hexadecimal bytes. -/
def Selector.hex (s : Selector) : String :=
  "0x" ++ String.ofList (s.toList.flatMap fun b => [hexDigit (b.toNat / 16), hexDigit (b.toNat % 16)])

/-- `ethabi.Method`, by what decoding reads of it. -/
structure Method where
  rawName : String
  inputs : List AbiType
  sig : String

/-- `ethabi.MethodsMap`. -/
structure MethodsMap where
  methods : GoMap Selector Method
  parsePayments : Bool

/-- `ethabi.DecodedCallData`, each input with its type. -/
structure DecodedCallData where
  signature : String
  name : String
  inputs : List (AbiType × DataType)
  payments : List Payment

/-- `MethodsMap.MethodBySelector`. -/
def MethodsMap.methodBySelector (mm : MethodsMap) (id : Selector) : Except String Method :=
  match mm.methods.get id with
  | some method => .ok method
  | none => .error ("signature \"" ++ id.hex ++ "\" not found")

def parseArgDataToRideTypes (method : Method) (argData : Slice UInt8) (parsePayments : Bool) :
    Outcome String (DecodedCallData × Nat) := do
  let (values, paymentsIndex, slotsReadTotal) ← (unpackRideValues method.inputs argData).mapError
    ("failed to unpack Inputs arguments ABI data: " ++ ·)
  let (payments, slotsReadTotal) ← if parsePayments then do
      let (payments, paymentsSlotsRead) ← (unpackPayments paymentsIndex argData).mapError
        ("failed to unpack payments: " ++ ·)
      pure (payments, slotsReadTotal + paymentsSlotsRead)
    else pure ([], slotsReadTotal)
  pure (⟨method.sig, method.rawName, method.inputs.zip values, payments⟩, slotsReadTotal)

/-- `MethodsMap.ParseCallDataRide`. -/
def MethodsMap.parseCallDataRide (mm : MethodsMap) (data : Slice UInt8) (sanityChecksEnabled : Bool) :
    Outcome String DecodedCallData :=
  if data.len = 0 then .error "transaction doesn't contain data"
  else if data.len < selectorSize then
    .error "transaction data is not valid ABI: missing the 4 byte call prefix"
  else if sanityChecksEnabled ∧ (data.len - selectorSize) % abiSlotSize ≠ 0 then
    .error ("transaction data is not valid ABI (length should be a multiple of 32 (was " ++
      toString (data.len - selectorSize) ++ "))")
  else do
    let selectorBytes ← data.sliceTo selectorSize
    let selector : Selector := Vector.ofFn fun i => selectorBytes.toList.getD i 0
    let method ← match mm.methodBySelector selector with
      | .ok method => pure method
      | .error e =>
        .error ("transaction contains data, but the ABI signature could not be found: " ++ e)
    let argsData ← data.sliceFrom selectorSize
    let (info, slotsReadTotal) ← (parseArgDataToRideTypes method argsData mm.parsePayments).mapError
      ("transaction contains data, but provided ABI signature could not be verified: " ++ ·)
    if sanityChecksEnabled ∧ slotsReadTotal * abiSlotSize ≠ argsData.len then
      .error ("transaction abi contains garbage data: read " ++ toString (slotsReadTotal * abiSlotSize) ++
        ", len " ++ toString argsData.len)
    else pure info

/-! ## Arguments of integer types -/

/-- The integer types, which read one slot and cannot fail once it is there. -/
def AbiType.IsInteger : AbiType → Prop
  | .int _ | .uint _ => True
  | _ => False

theorem toDataType_integer {index : Nat} {t : AbiType} (ht : t.IsInteger) {output : Slice UInt8}
    (h : index + abiSlotSize ≤ output.len) :
    ∃ v, toDataType index t output = .ok (v, 1) := by
  have hcap : index + abiSlotSize ≤ output.cap := h.trans output.len_le
  obtain ⟨slot, hslot, -⟩ := Slice.slice_ok (ε := String) output (Nat.le_add_right index abiSlotSize)
    hcap
  unfold toDataType
  rw [if_neg (by omega)]
  cases t with
  | int size => exact ⟨readInteger (.int size) slot.toList, by simp [hslot]⟩
  | uint size => exact ⟨readInteger (.uint size) slot.toList, by simp [hslot]⟩
  | _ => exact absurd ht id

theorem sum_map_snd_of_forall₂ {α : Type} :
    ∀ {l : List α} {rs : List (DataType × Nat)}, List.Forall₂ (fun _ r => r.2 = 1) l rs →
      (rs.map (·.2)).sum = l.length
  | [], [], .nil => rfl
  | _ :: _, _ :: _, .cons h hs => by
    simp [h, sum_map_snd_of_forall₂ hs, Nat.add_comm]

theorem unpackRideValues_integers {arguments : List AbiType} (hint : ∀ t ∈ arguments, t.IsInteger)
    {output : Slice UInt8} (h : arguments.length * abiSlotSize ≤ output.len) :
    ∃ values, unpackRideValues arguments output =
      .ok (values, arguments.length * abiSlotSize, arguments.length) := by
  obtain ⟨rs, hrs, hall⟩ := Outcome.mapM_ok (P := fun _ r => r.2 = 1)
    (f := fun (p : AbiType × Nat) => toDataType (p.2 * abiSlotSize) p.1 output)
    (l := arguments.zipIdx) fun p hp => by
      have hi := List.snd_lt_of_mem_zipIdx hp
      have hslot : (p.2 + 1) * abiSlotSize ≤ arguments.length * abiSlotSize :=
        Nat.mul_le_mul_right _ (by omega)
      obtain ⟨v, hv⟩ := @toDataType_integer (p.2 * abiSlotSize) p.1
        (hint p.1 (List.fst_mem_of_mem_zipIdx hp)) output
        (by rw [Nat.add_mul, Nat.one_mul] at hslot; omega)
      exact ⟨(v, 1), hv, rfl⟩
  refine ⟨rs.map (·.1), ?_⟩
  have hsum := sum_map_snd_of_forall₂ hall
  rw [List.length_zipIdx] at hsum
  simp only [unpackRideValues, hrs, Outcome.bind_ok, hsum]
  rfl

theorem unpackPayments_pastCapacity {index : Nat} {output : Slice UInt8} (hne : output.len ≠ 0)
    (h : output.cap < index + abiSlotSize) :
    unpackPayments index output = .panic (Slice.sliceCapPanic (index + abiSlotSize) output.cap) := by
  simp [unpackPayments, hne, lengthPrefixPointsTo, Slice.slice_cap_panic output h]

theorem ofFn_getD_append (s : Selector) (rest : List UInt8) :
    (Vector.ofFn fun i : Fin 4 => ((s.toList ++ rest).take selectorSize).getD i 0 : Selector) =
      s := by
  apply Vector.ext
  intro i _
  simp [List.getD_eq_getElem?_getD, selectorSize]

/-- **Call data without its payments slot panics.**  For every methods map that parses
payments, every method of it whose arguments are integers (at least one), and both values of
the sanity flag, the call data made of the method's selector and one slot per argument makes
`ParseCallDataRide` panic: the arguments decode, and `unpackPayments` reads the payments
offset from the slot after them, which is past the end of the data. -/
theorem parseCallDataRide_missingPayments (mm : MethodsMap) (hpp : mm.parsePayments = true)
    (selector : Selector) (method : Method) (hm : mm.methods.get selector = some method)
    (hint : ∀ t ∈ method.inputs, t.IsInteger) (hne : method.inputs ≠ [])
    (args : List UInt8) (hargs : args.length = method.inputs.length * abiSlotSize)
    (sanityChecksEnabled : Bool) :
    mm.parseCallDataRide (Slice.ofList (selector.toList ++ args)) sanityChecksEnabled =
      .panic (Slice.sliceCapPanic (args.length + abiSlotSize) args.length) := by
  have hpos : 0 < method.inputs.length := List.length_pos_iff.2 hne
  have hto := @Slice.sliceTo_ok UInt8 String (Slice.ofList (selector.toList ++ args))
    selectorSize (by simp [selectorSize])
  have hsel : mm.methodBySelector selector = .ok method := by
    simp [MethodsMap.methodBySelector, hm]
  have hfrom := @Slice.sliceFrom_ofList UInt8 String (selector.toList ++ args) selectorSize
    (by simp [selectorSize])
  have hdrop : (selector.toList ++ args).drop selectorSize = args :=
    List.drop_left' (by simp [selectorSize])
  rw [hdrop] at hfrom
  obtain ⟨values, hvalues⟩ := @unpackRideValues_integers method.inputs hint (Slice.ofList args)
    (by simp [hargs])
  have hpay := @unpackPayments_pastCapacity (method.inputs.length * abiSlotSize)
    (Slice.ofList args) (by simp [hargs, abiSlotSize]; omega)
    (by simp [hargs, abiSlotSize])
  have hsanity : ¬(sanityChecksEnabled = true ∧
      ((Slice.ofList (selector.toList ++ args)).len - selectorSize) % abiSlotSize ≠ 0) := by
    simp [hargs, abiSlotSize, selectorSize]
  unfold MethodsMap.parseCallDataRide
  rw [if_neg (by simp), if_neg (by simp [selectorSize]), if_neg hsanity, hto,
    Outcome.bind_ok]
  simp only [Slice.toList, Slice.window_ofList, ofFn_getD_append, hsel, Outcome.pure_eq,
    Outcome.bind_ok, hfrom,
    parseArgDataToRideTypes, hvalues, Outcome.mapError_ok, hpp, if_true, hpay,
    Outcome.mapError_panic, Outcome.bind_panic]
  simp [hargs]

/-- A DApp whose callable `foo(x: Int)` has the selector `01 02 03 04`: its call data with the
one slot of `x` and no payments slot panics with "slice bounds out of range [:64] with capacity
32". -/
theorem parseCallDataRide_missingPayments_foo :
    let foo : Method := ⟨"foo", [.int 64], "foo(int64)"⟩
    let mm : MethodsMap := ⟨[(⟨#[1, 2, 3, 4], rfl⟩, foo)], true⟩
    mm.parseCallDataRide (Slice.ofList ([1, 2, 3, 4] ++ List.replicate 32 0)) true =
      .panic (Slice.sliceCapPanic 64 32) :=
  parseCallDataRide_missingPayments _ rfl ⟨#[1, 2, 3, 4], rfl⟩ _ rfl
    (by simp [AbiType.IsInteger]) (by simp) (List.replicate 32 0) rfl true

end Gowaves.Proto.EthAbi
