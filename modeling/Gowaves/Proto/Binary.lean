import Gowaves.Proto.Messages

/-!
# Binary fields of transactions (`pkg/proto/common.go`, `types.go`, `addresses.go`)

The binary form of a transaction is a sequence of fields, each read from the front of a byte
slice that the decoder then reslices past it:

* `bool` and `bytesWithUInt16Len` — a flag byte, and bytes after their `uint16` length, both
  checked against the length of the slice first;
* `OptionalAsset` — a flag, then a 32-byte asset ID when it is set;
* `Recipient` — a 26-byte address, whose checksum is the first 4 bytes of `SecureHash` of the
  other 22, or an alias: version 2, the scheme, the name after its `uint16` length;
* `ProofsV1` — version 1, a `uint16` count of at most 8, then each proof of at most 64 bytes
  after its `uint16` length.

`Recipient.unmarshalBinary` reads the version byte of an empty slice, and the loop of
`ProofsV1.unmarshalBinary` reads lengths and proofs without checking that they are there: both
are `Outcome`s that panic where the Go runtime does.  `SecureHash` is a parameter.
-/

set_option autoImplicit false

namespace Gowaves.Proto

open GoLib GoLib.Reader

/-- `crypto.PublicKeySize`. -/
def publicKeySize : Nat := 32

/-- `math.MaxInt16`, the longest field `PutBytesWithUInt16Len` writes. -/
def maxInt16 : Nat := 32767

/-! ## Flags and sized bytes -/

/-- `Bool`: one byte, `0` or `1`. -/
def bool (buf : Slice UInt8) : Except String Bool :=
  match buf.toList with
  | [] => .error "failed to unmarshal Bool, empty buffer received"
  | b :: _ =>
    if b = 0 then .ok false
    else if b = 1 then .ok true
    else .error ("invalid bool value " ++ toString b.toNat)

/-- `BytesWithUInt16Len`: the `uint16` length, then that many bytes. -/
def bytesWithUInt16Len (buf : Slice UInt8) : Except String Bytes :=
  let l := buf.toList
  if l.length < 2 then
    .error ("not enough data, expected not less than 2, received " ++ toString l.length)
  else
    let s := BigEndian.ofBytes (l.take 2)
    if (l.drop 2).length < s then
      .error ("not enough data to read array of bytes of length " ++ toString s ++
        ", received only " ++ toString (l.drop 2).length ++ " bytes")
    else .ok ((l.drop 2).take s)

/-- `PutBytesWithUInt16Len` into a buffer of the exact size: the length as a `uint16`, then the
bytes; longer than `MaxInt16` is an error. -/
def putBytesWithUInt16Len (data : Bytes) : Except String Bytes :=
  if maxInt16 < data.length then .error ("invalid data length " ++ toString data.length)
  else .ok (BigEndian.toBytes 2 data.length ++ data)

/-! ## Assets -/

/-- `OptionalAsset`: an asset ID, or WAVES when it is not `Present`. -/
structure OptionalAsset where
  present : Bool
  id : Digest
  deriving DecidableEq, Repr

/-- `OptionalAsset.BinarySize`. -/
def OptionalAsset.binarySize (a : OptionalAsset) : Nat := if a.present then 33 else 1

/-- `OptionalAsset.UnmarshalBinary` into a zero value. -/
def OptionalAsset.unmarshalBinary (data : Slice UInt8) : Except String OptionalAsset :=
  match bool data with
  | .error e => .error ("failed to unmarshal OptionalAsset: " ++ e)
  | .ok false => .ok ⟨false, Vector.replicate 32 0⟩
  | .ok true =>
    let rest := data.toList.drop 1
    if rest.length < digestSize then
      .error ("not enough data for OptionalAsset value, expected 32, received " ++
        toString rest.length)
    else .ok ⟨true, arrayOf 32 rest⟩

/-- `OptionalAsset.MarshalBinary`. -/
def OptionalAsset.marshalBinary (a : OptionalAsset) : Bytes :=
  if a.present then 1 :: a.id.toList else [0]

/-! ## Recipients -/

def wavesAddressVersion : UInt8 := 1

def aliasVersion : UInt8 := 2

/-- `WavesAddressSize`: version and scheme, a 20-byte hash, a 4-byte checksum. -/
def wavesAddressSize : Nat := 26

/-- `proto.WavesAddress`. -/
abbrev WavesAddress := Vector UInt8 26

/-- `WavesAddress.validVersionAndChecksum`: the version, and the checksum over the first 22
bytes. -/
def validVersionAndChecksum (secureHash : Bytes → Digest) (a : WavesAddress) :
    Except String Unit :=
  if a.toList.getD 0 0 ≠ wavesAddressVersion then
    .error ("unsupported address version " ++ toString (a.toList.getD 0 0).toNat)
  else if (secureHash (a.toList.take 22)).toList.take 4 ≠ a.toList.drop 22 then
    .error "invalid WavesAddress checksum"
  else .ok ()

/-- `NewAddressFromBytes`: the first 26 bytes, validated. -/
def newAddressFromBytes (secureHash : Bytes → Digest) (b : Bytes) : Except String WavesAddress :=
  if b.length < wavesAddressSize then
    .error ("insufficient array length " ++ toString b.length ++ ", expected at least 26")
  else
    let a := arrayOf 26 b
    match validVersionAndChecksum secureHash a with
    | .error e => .error ("invalid address: " ++ e)
    | .ok () => .ok a

/-- `proto.Alias`; `name` is its field `Alias`, the bytes of the Go string. -/
structure Alias where
  version : UInt8
  scheme : UInt8
  name : Bytes
  deriving DecidableEq, Repr

def aliasFixedSize : Nat := 4

def aliasMinLength : Nat := 4

/-- `Alias.BinarySize`. -/
def Alias.binarySize (a : Alias) : Nat := aliasFixedSize + a.name.length

/-- `Alias.Bytes`: `PutStringWithUInt16Len` writes the length as a `uint16`. -/
def Alias.bytes (a : Alias) : Bytes :=
  [a.version, a.scheme] ++ BigEndian.toBytes 2 a.name.length ++ a.name

/-- `Alias.UnmarshalBinary`, which does not validate the name. -/
def Alias.unmarshalBinary (data : Slice UInt8) : Except String Alias :=
  let d := data.toList
  if d.length < aliasFixedSize + aliasMinLength then
    .error ("incorrect alias length " ++ toString d.length ++ ", should be at least 8 bytes")
  else if d.getD 0 0 ≠ aliasVersion then
    .error ("unsupported alias version " ++ toString (d.getD 0 0).toNat ++ ", expected 2")
  else
    let al := BigEndian.ofBytes ((d.drop 2).take 2)
    if (d.drop 4).length < al then
      .error ("incorrect alias length: encoded length " ++ toString al ++ ", actual " ++
        toString (d.drop 4).length)
    else .ok ⟨aliasVersion, d.getD 1 0, (d.drop 4).take al⟩

/-- `proto.Recipient`: an address (`NewRecipientFromAddress`) or an alias
(`NewRecipientFromAlias`). -/
inductive Recipient where
  | ofAddress (a : WavesAddress)
  | ofAlias (a : Alias)
  deriving DecidableEq, Repr

/-- `Recipient.BinarySize`. -/
def Recipient.binarySize : Recipient → Nat
  | .ofAddress _ => wavesAddressSize
  | .ofAlias a => a.binarySize

/-- `Recipient.MarshalBinary`. -/
def Recipient.marshalBinary : Recipient → Bytes
  | .ofAddress a => a.toList
  | .ofAlias a => a.bytes

/-- `Recipient.UnmarshalBinary`: the version byte chooses the decoder; it is read before any
length check. -/
def Recipient.unmarshalBinary (secureHash : Bytes → Digest) (data : Slice UInt8) :
    Outcome String Recipient := do
  let v ← data.index 0
  if v = wavesAddressVersion then
    match newAddressFromBytes secureHash data.toList with
    | .error e => .error ("failed to unmarshal Recipient from bytes: " ++ e)
    | .ok a => .ok (.ofAddress a)
  else if v = aliasVersion then
    match Alias.unmarshalBinary data with
    | .error e => .error ("failed to unmarshal Recipient from bytes: " ++ e)
    | .ok a => .ok (.ofAlias a)
  else .error ("unsupported Recipient version " ++ toString v.toNat)

/-! ## Proofs -/

/-- `proto.ProofsV1`. -/
structure ProofsV1 where
  version : UInt8
  proofs : List Bytes
  deriving DecidableEq, Repr

def proofsVersion : UInt8 := 1

/-- `proofsMinLen`: the version and the count. -/
def proofsMinLen : Nat := 1 + 2

def proofsMaxCount : Nat := 8

def proofMaxSize : Nat := 64

/-- One turn of the loop of `ProofsV1.UnmarshalBinary`: the length, `copy` of `data[0:el]` into
a fresh proof, then `data = data[el:]`.  The first slice may reach into the capacity; the
second may not pass the length. -/
def unmarshalProof (data : Slice UInt8) : Outcome String (Bytes × Slice UInt8) := do
  let el ← data.uint16
  if proofMaxSize < el.toNat then
    .error ("proof size " ++ toString el.toNat ++ " bytes exceeds maximum allowed 64")
  else do
    let data ← data.sliceFrom 2
    let src ← data.slice 0 el.toNat
    let data ← data.sliceFrom el.toNat
    pure (src.toList, data)

/-- The loop of `ProofsV1.UnmarshalBinary` over `n` proofs. -/
def unmarshalProofs : Nat → Slice UInt8 → Outcome String (List Bytes)
  | 0, _ => .ok []
  | n + 1, data => do
    let (pr, data) ← unmarshalProof data
    let prs ← unmarshalProofs n data
    pure (pr :: prs)

/-- `ProofsV1.UnmarshalBinary`: the version, the count, then the proofs; the bytes after the
last proof are ignored. -/
def ProofsV1.unmarshalBinary (data : Slice UInt8) : Outcome String ProofsV1 :=
  if data.len < proofsMinLen then
    .error ("not enough data for ProofsV1 value, expected 3, received " ++ toString data.len)
  else
    let version := data.toList.getD 0 0
    if version ≠ proofsVersion then
      .error ("unexpected ProofsV1 version " ++ toString version.toNat ++ ", expected 1")
    else do
      let data ← data.sliceFrom 1
      let n ← data.uint16
      if proofsMaxCount < n.toNat then
        .error ("too many proofs in ProofsV1, expected no more than 8, received " ++
          toString n.toNat)
      else do
        let data ← data.sliceFrom 2
        let proofs ← unmarshalProofs n.toNat data
        pure ⟨version, proofs⟩

/-- `ProofsV1.Valid`: the version, at most 8 proofs, each of at most 64 bytes. -/
def ProofsV1.valid (p : ProofsV1) : Except String Unit :=
  if p.version ≠ proofsVersion then .error ("invalid proofs version " ++ toString p.version.toNat)
  else if proofsMaxCount < p.proofs.length then
    .error ("invalid proofs count " ++ toString p.proofs.length)
  else
    match (p.proofs.zipIdx.find? fun (e, _) => proofMaxSize < e.length) with
    | some (e, i) => .error ("proof #" ++ toString i ++ " has invalid size " ++ toString e.length)
    | none => .ok ()

/-- `ProofsV1.MarshalBinary`: the count and each length as a `uint16`, wrapping around. -/
def ProofsV1.marshalBinary (p : ProofsV1) : Bytes :=
  proofsVersion :: BigEndian.toBytes 2 p.proofs.length ++
    p.proofs.flatMap fun e => BigEndian.toBytes 2 e.length ++ e

end Gowaves.Proto
