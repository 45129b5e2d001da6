import Gowaves.Proto.Binary

/-!
# Transfer transactions and the binary transaction decoder (`pkg/proto/transactions.go`,
`transactions_with_proofs.go`)

* `Transfer.unmarshalBinary` reads the body shared by both transfer versions: the sender's
  public key, the two optional assets, the timestamp, the amount and the fee, the recipient and
  the attachment.  It checks the 60 bytes of the shortest body first, and then reslices field by
  field, so that a body whose assets take the room of what follows panics on a `uint64` read.
* `TransferWithProofs.unmarshalBinary` reads `0`, the type and the version, the body, then the
  proofs after the body's length, and makes the ID: `FastHash` of the body, or of the protobuf
  body from version 3 on (`MarshalTxBody`), which is a parameter here.
* `bytesToTransaction` dispatches on the first two bytes to the decoders registered for a type;
  the two registries are parameters, so that what is said holds whatever the decoders of the
  other types do.  `bytesToTransactions` reads a count of transactions, each after its `uint32`
  length.
-/

set_option autoImplicit false

namespace Gowaves.Proto

open GoLib GoLib.Reader

/-! ## Transaction types -/

/-- `proto.TransactionType`. -/
abbrev TransactionType := UInt8

def transferTransaction : TransactionType := 4

/-! ## The transfer body -/

/-- `transferLen`: key, two asset flags, timestamp, amount, fee, attachment length. -/
def transferLen : Nat := publicKeySize + 1 + 1 + 8 + 8 + 8 + 2

/-- `proto.Transfer`. -/
structure Transfer where
  senderPK : Digest
  amountAsset : OptionalAsset
  feeAsset : OptionalAsset
  timestamp : UInt64
  amount : UInt64
  fee : UInt64
  recipient : Recipient
  attachment : Bytes
  deriving DecidableEq, Repr

/-- `Transfer.UnmarshalBinary`. -/
def Transfer.unmarshalBinary (secureHash : Bytes → Digest) (data : Slice UInt8) :
    Outcome String Transfer :=
  if data.len < transferLen then
    .error (toString data.len ++ " bytes is not enough for Transfer body, expected not less than " ++
      "60 bytes")
  else do
    let wrap := fun (e : String) => "failed to unmarshal Transfer body from bytes: " ++ e
    let senderPK := arrayOf 32 (data.toList.take publicKeySize)
    let data ← data.sliceFrom publicKeySize
    let amountAsset ← (Outcome.ofExcept (OptionalAsset.unmarshalBinary data)).mapError wrap
    let data ← data.sliceFrom 1
    let data ← if amountAsset.present then data.sliceFrom digestSize else pure data
    let feeAsset ← (Outcome.ofExcept (OptionalAsset.unmarshalBinary data)).mapError wrap
    let data ← data.sliceFrom 1
    let data ← if feeAsset.present then data.sliceFrom digestSize else pure data
    let timestamp ← data.uint64
    let data ← data.sliceFrom 8
    let amount ← data.uint64
    let data ← data.sliceFrom 8
    let fee ← data.uint64
    let data ← data.sliceFrom 8
    let recipient ← (Recipient.unmarshalBinary secureHash data).mapError wrap
    let data ← data.sliceFrom recipient.binarySize
    let attachment ← (Outcome.ofExcept (bytesWithUInt16Len data)).mapError wrap
    pure ⟨senderPK, amountAsset, feeAsset, timestamp, amount, fee, recipient, attachment⟩

/-- `Transfer.marshalBinary`: the fields in order, the attachment after its length. -/
def Transfer.marshalBinary (tr : Transfer) : Except String Bytes := do
  let att ← (putBytesWithUInt16Len tr.attachment).mapError
    ("failed to marshal Transfer body: " ++ ·)
  pure (tr.senderPK.toList ++ tr.amountAsset.marshalBinary ++ tr.feeAsset.marshalBinary ++
    BigEndian.toBytes 8 tr.timestamp.toNat ++ BigEndian.toBytes 8 tr.amount.toNat ++
    BigEndian.toBytes 8 tr.fee.toNat ++ tr.recipient.marshalBinary ++ att)

/-! ## Transfers with proofs -/

/-- `transferWithProofsFixedBodyLen`: type, version and the shortest body. -/
def transferWithProofsFixedBodyLen : Nat := 1 + 1 + transferLen

def transferWithProofsMinLen : Nat := 1 + transferWithProofsFixedBodyLen + proofsMinLen

/-- `proto.TransferWithProofs`. -/
structure TransferWithProofs where
  type : TransactionType
  version : UInt8
  id : Option Digest
  proofs : Option ProofsV1
  transfer : Transfer
  deriving DecidableEq, Repr

/-- `TransferWithProofs.BodyMarshalBinary`: type, version, body. -/
def TransferWithProofs.bodyMarshalBinary (tx : TransferWithProofs) : Except String Bytes := do
  let b ← tx.transfer.marshalBinary.mapError ("failed to marshal TransferWithProofs body: " ++ ·)
  pure (tx.type :: tx.version :: b)

/-- `TransferWithProofs.BodyUnmarshalBinary`: the type, the version and the body. -/
def TransferWithProofs.bodyUnmarshalBinary (secureHash : Bytes → Digest) (data : Slice UInt8) :
    Outcome String (TransactionType × UInt8 × Transfer) :=
  if data.len < transferWithProofsFixedBodyLen then
    .error (toString data.len ++ " bytes is not enough for TransferWithProofs transaction, " ++
      "expected not less than 62 bytes")
  else
    let type := data.toList.getD 0 0
    let version := data.toList.getD 1 0
    if type ≠ transferTransaction then
      .error ("unexpected transaction type " ++ toString type.toNat ++
        " for TransferWithProofs transaction")
    else if version < 2 then
      .error ("unexpected version " ++ toString version.toNat ++
        " for TransferWithProofs transaction")
    else do
      let rest ← data.sliceFrom 2
      let t ← (Transfer.unmarshalBinary secureHash rest).mapError
        ("failed to unmarshal TransferWithProofs body from bytes: " ++ ·)
      pure (type, version, t)

/-- `MarshalTxBody` of a transfer: its protobuf body from version 3 on (`IsProtobufTx`),
`BodyMarshalBinary` before. -/
def TransferWithProofs.marshalTxBody (marshalToProtobuf : TransferWithProofs → Except String Bytes)
    (tx : TransferWithProofs) : Except String Bytes :=
  if 3 ≤ tx.version then marshalToProtobuf tx else tx.bodyMarshalBinary

/-- `TransferWithProofs.GenerateID`: `FastHash` of the body, when there is no ID yet. -/
def TransferWithProofs.generateID (fastHash : Bytes → Digest)
    (marshalToProtobuf : TransferWithProofs → Except String Bytes) (tx : TransferWithProofs) :
    Except String TransferWithProofs :=
  match tx.id with
  | some _ => .ok tx
  | none => do
    let body ← tx.marshalTxBody marshalToProtobuf
    pure { tx with id := some (fastHash body) }

/-- `TransferWithProofs.UnmarshalBinary`: `0`, the body, the proofs after the body's length,
then the ID. -/
def TransferWithProofs.unmarshalBinary (secureHash fastHash : Bytes → Digest)
    (marshalToProtobuf : TransferWithProofs → Except String Bytes) (data : Slice UInt8) :
    Outcome String TransferWithProofs :=
  if data.len < transferWithProofsMinLen then
    .error ("not enough data for TransferWithProofs transaction, expected not less than 66, " ++
      "received " ++ toString data.len)
  else if data.toList.getD 0 0 ≠ 0 then
    .error ("unexpected first byte value " ++ toString (data.toList.getD 0 0).toNat ++
      ", expected 0")
  else do
    let wrap := fun (e : String) => "failed to unmarshal TransferWithProofs transaction from bytes: " ++ e
    let data ← data.sliceFrom 1
    let (type, version, t) ← (TransferWithProofs.bodyUnmarshalBinary secureHash data).mapError wrap
    let bl := transferWithProofsFixedBodyLen + (if t.amountAsset.present then digestSize else 0) +
      (if t.feeAsset.present then digestSize else 0) + t.attachment.length + t.recipient.binarySize
    let data ← data.sliceFrom bl
    let p ← (ProofsV1.unmarshalBinary data).mapError wrap
    Outcome.ofExcept
      (TransferWithProofs.generateID fastHash marshalToProtobuf ⟨type, version, none, some p, t⟩)

/-! ## Any transaction -/

/-- `BytesToTransaction`: a leading `0` selects the registry of versions 2 and later by the type
in the second byte, anything else the registry of version 1 by the type in the first. -/
def bytesToTransaction {T : Type} (v1 v2 : TransactionType → Option (Slice UInt8 → Outcome String T))
    (tx : Slice UInt8) : Outcome String T :=
  if tx.len < 2 then .error "invalid size of transaction's bytes slice"
  else
    let b0 := tx.toList.getD 0 0
    let b1 := tx.toList.getD 1 0
    let (registry, type) := if b0 = 0 then (v2, b1) else (v1, b0)
    match registry type with
    | none => .error ("invalid transaction type " ++ toString type.toNat)
    | some unmarshalBinary =>
      (unmarshalBinary tx).mapError ("failed to unmarshal transaction: " ++ ·)

/-- `BytesToTransactions`: `count` transactions, each after its `uint32` length, read from
`txs[0:4]`, a slice that may reach into the capacity. -/
def bytesToTransactions {T : Type} (v1 v2 : TransactionType → Option (Slice UInt8 → Outcome String T)) :
    Nat → Slice UInt8 → Outcome String (List T)
  | 0, _ => .ok []
  | count + 1, txs => do
    let lenBytes ← txs.slice 0 4
    let n ← lenBytes.uint32
    if txs.len < n.toNat + 4 then .error "invalid tx size: exceeds bytes slice bounds"
    else do
      let txBytes ← txs.slice 4 (n.toNat + 4)
      let tx ← bytesToTransaction v1 v2 txBytes
      let txs ← txs.sliceFrom (4 + n.toNat)
      let rest ← bytesToTransactions v1 v2 count txs
      pure (tx :: rest)

end Gowaves.Proto
