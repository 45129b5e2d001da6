import Gowaves.Proto.Header

/-!
# Block ID and snapshot messages (`pkg/proto/proto.go`, `payloads.go`, `block.go`)

Six messages of the peer protocol carry block IDs or snapshot bytes:

* `GetBlockIDs` and `BlockIDs`: a count, then each ID with its length (64 for a signature, 32
  for a digest) — the body of `MarshalBinary` and of `BlockIDsPayload.WriteTo`;
* `GetBlockSnapshot` and `MicroBlockSnapshotRequest`: one block ID, decoded by `ParseMessage`;
* `BlockSnapshot` and `MicroBlockSnapshot`: the snapshot bytes as they are.

Each pair is one definition with the pair's parameters (`unmarshalBlockIDsMessage`,
`unmarshalBlockIDMessage`, `unmarshalSnapshotMessage`), applied under the source's names.  The
two `UnmarshalBinary` of the first pair differ in one constant, the shortest frame they accept:
13 bytes for `GetBlockIDs`, 17 for `BlockIDs`; both then cut the frame at byte 17.

`createMessage` and `createStreamKind` give, for the content IDs of these six messages, what
`CreateMessageByContentID` and `CreatePayloadByContentID` make; the other messages of the
protocol are not modelled.
-/

set_option autoImplicit false

namespace Gowaves.Proto

open GoLib GoLib.Reader

/-! ## Block IDs -/

/-- `BlockIDType`: an uninitialized ID, `SignatureID` or `DigestID`. -/
inductive BlockIDType where
  | undefined
  | signatureID
  | digestID
  deriving DecidableEq, Repr

/-- `proto.BlockID`: a signature, a digest, and which of the two is the ID. -/
structure BlockID where
  sig : Vector UInt8 64
  dig : Vector UInt8 32
  idType : BlockIDType
  deriving DecidableEq, Repr

/-- `crypto.SignatureSize`. -/
def signatureSize : Nat := 64

/-- `crypto.DigestSize`. -/
def digestSize : Nat := 32

def errInvalidBlockIDDataSize : String := "invalid data size for BlockID"

/-- The zero `BlockID{}`. -/
def BlockID.zero : BlockID := ⟨Vector.replicate 64 0, Vector.replicate 32 0, .undefined⟩

def newBlockIDFromSignature (sig : Vector UInt8 64) : BlockID :=
  { BlockID.zero with sig := sig, idType := .signatureID }

def newBlockIDFromDigest (dig : Vector UInt8 32) : BlockID :=
  { BlockID.zero with dig := dig, idType := .digestID }

/-- `NewBlockIDFromBytes`: a signature from 64 bytes, a digest from 32. -/
def newBlockIDFromBytes (data : Bytes) : Except String BlockID :=
  if data.length = signatureSize then .ok (newBlockIDFromSignature (arrayOf 64 data))
  else if data.length = digestSize then .ok (newBlockIDFromDigest (arrayOf 32 data))
  else .error errInvalidBlockIDDataSize

/-- `BlockID.Bytes`: `nil` for an uninitialized ID. -/
def BlockID.bytes (id : BlockID) : Bytes :=
  match id.idType with
  | .signatureID => id.sig.toList
  | .digestID => id.dig.toList
  | .undefined => []

/-! ## The payload of `GetBlockIDs` and `BlockIDs` -/

/-- One ID in the body of `MarshalBinary`: its length as a byte, then its bytes. -/
def idBytes (bl : BlockID) : Bytes := UInt8.ofNat bl.bytes.length :: bl.bytes

/-- The body `MarshalBinary` writes: the count as a `uint32`, then each ID. -/
def blockIDsBody (blocks : List BlockID) : Bytes :=
  putUint32 (UInt32.ofNat blocks.length) ++ blocks.flatMap idBytes

/-- The loop of `unmarshalBlockIDs` over the bytes after the count: `dl` is their number, for
the error texts. -/
def unmarshalBlockIDsLoop (dl : Nat) : Nat → Bytes → Except String (List BlockID)
  | 0, _ => .ok []
  | _ + 1, [] => .error ("message too short " ++ toString dl)
  | n + 1, l :: rest =>
    if rest.length < l.toNat then .error ("message too short " ++ toString dl)
    else
      match newBlockIDFromBytes (rest.take l.toNat) with
      | .error e => .error ("bad block ID bytes: " ++ e)
      | .ok id => (id :: ·) <$> unmarshalBlockIDsLoop dl n (rest.drop l.toNat)

/-- `unmarshalBlockIDs`: the count, then that many IDs; the bytes after them are ignored. -/
def unmarshalBlockIDs (data : Bytes) : Except String (List BlockID) :=
  if data.length < 4 then .error ("message too short " ++ toString data.length)
  else unmarshalBlockIDsLoop (data.length - 4) (beUint32 (data.take 4)).toNat (data.drop 4)

/-- The body of the loop of `BlockIDsPayload.WriteTo`: the size of an ID, then the ID. -/
def writeSizedBlockID (id : BlockID) : Except String Bytes :=
  match id.idType with
  | .signatureID => .ok (UInt8.ofNat signatureSize :: id.sig.toList)
  | .digestID => .ok (UInt8.ofNat digestSize :: id.dig.toList)
  | .undefined => .error "unsupported block ID type '0'"

/-- `BlockIDsPayload.WriteTo`: the body of `MarshalBinary`, except that an uninitialized ID is
an error. -/
def blockIDsPayloadWriteTo (blocks : List BlockID) : Except String Bytes :=
  if 2 ^ 32 ≤ blocks.length then .error (conversionError blocks.length)
  else do
    let ids ← blocks.mapM writeSizedBlockID
    pure (putUint32 (UInt32.ofNat blocks.length) ++ ids.flatten)

/-- `readSignatureFrom` / `readDigestFrom`: `n` bytes, and on a short read the size error
joined to the read's. -/
def readIDBytes (n : Nat) (r : Bytes) : Except String (Bytes × Bytes) :=
  (readFull n r).mapError (errInvalidBlockIDDataSize ++ "\n" ++ ·)

/-- The loop of `BlockIDsPayload.ReadFrom`: each ID after its size byte. -/
def blockIDsReadLoop : Nat → Bytes → Except String (List BlockID × Bytes)
  | 0, r => .ok ([], r)
  | n + 1, r => do
    let (idSize, r) ← readFull 1 r
    let size := idSize.getD 0 0
    let (id, r) ← if size.toNat = signatureSize then do
        let (sig, r) ← readIDBytes signatureSize r
        pure (newBlockIDFromSignature (arrayOf 64 sig), r)
      else if size.toNat = digestSize then do
        let (dig, r) ← readIDBytes digestSize r
        pure (newBlockIDFromDigest (arrayOf 32 dig), r)
      else .error ("unsupported block ID size '" ++ toString size.toNat ++ "'")
    let (ids, r) ← blockIDsReadLoop n r
    pure (id :: ids, r)

/-- `BlockIDsPayload.ReadFrom`. -/
def blockIDsPayloadReadFrom (r : Bytes) : Except String (List BlockID × Bytes) := do
  let (l, r) ← readFull 4 r
  blockIDsReadLoop (beUint32 l).toNat r

/-! ## Messages -/

/-- The six messages, with what they carry. -/
inductive Message where
  | getBlockIDs (blocks : List BlockID)
  | blockIDs (blocks : List BlockID)
  | getBlockSnapshot (blockID : BlockID)
  | microBlockSnapshotRequest (blockID : BlockID)
  | blockSnapshot (bytes : Bytes)
  | microBlockSnapshot (bytes : Bytes)
  deriving DecidableEq, Repr

/-- The `MarshalBinary` of every one of the six: the header of the body, then the body. -/
def marshalWithHeader (fastHash : Bytes → Digest) (contentID : PeerMessageID) (body : Bytes) :
    Except String Bytes := do
  let h ← newHeader fastHash contentID body
  pure (h.marshalBinary ++ body)

/-- The `UnmarshalBinary` of `GetBlockIDs` and `BlockIDs`: a frame of at least `minSize`
bytes, a valid header, and the IDs after byte 17. -/
def unmarshalBlockIDsMessage (name : String) (contentID : PeerMessageID) (minSize : Nat)
    (data : Slice UInt8) : Outcome String (List BlockID) :=
  if 2 ^ 32 ≤ data.len then .error (name ++ " UnmarshalBinary: " ++ conversionError data.len)
  else if data.len < minSize then .error (name ++ " UnmarshalBinary: invalid data size")
  else
    match Header.unmarshalBinary data.toList with
    | .error e => .error e
    | .ok h =>
      match h.validate contentID with
      | .error e => .error (name ++ " UnmarshalBinary: " ++ e)
      | .ok () => do
        let rest ← data.sliceFrom headerSizeWithPayload.toNat
        match unmarshalBlockIDs rest.toList with
        | .ok ids => .ok ids
        | .error e => .error (name ++ " UnmarshalBinary: " ++ e)

/-- `GetBlockIDsMessage.UnmarshalBinary`: it checks for 13 bytes. -/
def GetBlockIDsMessage.unmarshalBinary (data : Slice UInt8) : Outcome String (List BlockID) :=
  unmarshalBlockIDsMessage "GetBlockIDsMessage" contentIDGetBlockIDs
    headerSizeWithoutPayload.toNat data

/-- `BlockIDsMessage.UnmarshalBinary`: it checks for 17 bytes. -/
def BlockIDsMessage.unmarshalBinary (data : Slice UInt8) : Outcome String (List BlockID) :=
  unmarshalBlockIDsMessage "BlockIDsMessage" contentIDBlockIDs headerSizeWithPayload.toNat data

/-- The `UnmarshalBinary` of `GetBlockSnapshot` and `MicroBlockSnapshotRequest`: `ParseMessage`
of a block ID, the zero ID when there is no payload; `wrap` is what the second puts before an
error of `NewBlockIDFromBytes`. -/
def unmarshalBlockIDMessage (name : String) (contentID : PeerMessageID) (wrap : String)
    (data : Slice UInt8) : Outcome String BlockID := do
  let id ← parseMessage data contentID name fun payload =>
    match newBlockIDFromBytes payload.toList with
    | .ok id => .ok id
    | .error e => .error (wrap ++ e)
  pure (id.getD BlockID.zero)

/-- `GetBlockSnapshotMessage.UnmarshalBinary`. -/
def GetBlockSnapshotMessage.unmarshalBinary (data : Slice UInt8) : Outcome String BlockID :=
  unmarshalBlockIDMessage "GetBlockSnapshotMessage" contentIDGetBlockSnapshot "" data

/-- `MicroBlockSnapshotRequestMessage.UnmarshalBinary`. -/
def MicroBlockSnapshotRequestMessage.unmarshalBinary (data : Slice UInt8) :
    Outcome String BlockID :=
  unmarshalBlockIDMessage "MicroBlockSnapshotRequestMessage" contentIDMicroBlockSnapshotRequest
    "failed to unmarshal MicroBlockSnapshotRequestMessage: " data

/-- The `UnmarshalBinary` of `BlockSnapshot` and `MicroBlockSnapshot`: a frame of at least 17
bytes, the magic and the content ID (`MSG_LEN` and the checksum are not checked), then
`PAYLOAD_LEN` bytes from byte 17, whose end is computed in `uint32` and may lie in the
capacity beyond the length. -/
def unmarshalSnapshotMessage (name : String) (contentID : PeerMessageID) (data : Slice UInt8) :
    Outcome String Bytes :=
  if 2 ^ 32 ≤ data.len then .error (name ++ " UnmarshalBinary: " ++ conversionError data.len)
  else if data.len < maxHeaderLength.toNat then .error (name ++ " UnmarshalBinary: invalid data size")
  else
    match Header.unmarshalBinary data.toList with
    | .error e => .error e
    | .ok h =>
      if h.magic ≠ headerMagic then .error ("wrong magic in Header: " ++ hex h.magic.toNat)
      else if h.contentID ≠ contentID then
        .error ("wrong ContentID in Header: " ++ hex h.contentID.toNat)
      else do
        -- `copy(make([]byte, PAYLOAD_LEN), data[17:17+PAYLOAD_LEN])`
        let src ← data.slice maxHeaderLength.toNat (maxHeaderLength + h.payloadLength).toNat
        .ok (src.toList ++ List.replicate (h.payloadLength.toNat - src.len) 0)

/-- `BlockSnapshotMessage.UnmarshalBinary`. -/
def BlockSnapshotMessage.unmarshalBinary (data : Slice UInt8) : Outcome String Bytes :=
  unmarshalSnapshotMessage "BlockSnapshotMessage" contentIDBlockSnapshot data

/-- `MicroBlockSnapshotMessage.UnmarshalBinary`. -/
def MicroBlockSnapshotMessage.unmarshalBinary (data : Slice UInt8) : Outcome String Bytes :=
  unmarshalSnapshotMessage "MicroBlockSnapshotMessage" contentIDMicroBlockSnapshot data

/-- `Message.MarshalBinary`. -/
def Message.marshalBinary (fastHash : Bytes → Digest) : Message → Except String Bytes
  | .getBlockIDs blocks => marshalWithHeader fastHash contentIDGetBlockIDs (blockIDsBody blocks)
  | .blockIDs blocks => marshalWithHeader fastHash contentIDBlockIDs (blockIDsBody blocks)
  | .getBlockSnapshot id => marshalWithHeader fastHash contentIDGetBlockSnapshot id.bytes
  | .microBlockSnapshotRequest id =>
    marshalWithHeader fastHash contentIDMicroBlockSnapshotRequest id.bytes
  | .blockSnapshot bytes => marshalWithHeader fastHash contentIDBlockSnapshot bytes
  | .microBlockSnapshot bytes => marshalWithHeader fastHash contentIDMicroBlockSnapshot bytes

/-- `BlockID.WriteTo`: the bytes of the ID; an uninitialized ID is an error. -/
def BlockID.writeTo (id : BlockID) : Except String Bytes :=
  match id.idType with
  | .signatureID => .ok id.sig.toList
  | .digestID => .ok id.dig.toList
  | .undefined => .error "undefined BlockID type"

/-- `Message.WriteTo`: `WriteMessage` of the payload, whose `WriteTo` is the one of
`BlockIDsPayload`, of `BlockID` or of `BytesPayload` (the bytes as they are). -/
def Message.writeTo (fastHash : Bytes → Digest) : Message → Except String Bytes
  | .getBlockIDs blocks =>
    writeMessage fastHash contentIDGetBlockIDs "GetBlockIDsMessage" (blockIDsPayloadWriteTo blocks)
  | .blockIDs blocks =>
    writeMessage fastHash contentIDBlockIDs "BlockIDsMessage" (blockIDsPayloadWriteTo blocks)
  | .getBlockSnapshot id =>
    writeMessage fastHash contentIDGetBlockSnapshot "GetBlockSnapshotMessage" id.writeTo
  | .microBlockSnapshotRequest id =>
    writeMessage fastHash contentIDMicroBlockSnapshotRequest "MicroBlockSnapshotRequestMessage"
      id.writeTo
  | .blockSnapshot bytes =>
    writeMessage fastHash contentIDBlockSnapshot "BlockSnapshotMessage" (.ok bytes)
  | .microBlockSnapshot bytes =>
    writeMessage fastHash contentIDMicroBlockSnapshot "MicroBlockSnapshotMessage" (.ok bytes)

/-- What `CreateMessageByContentID` makes for the six content IDs, as its `UnmarshalBinary`. -/
def createMessage (contentID : PeerMessageID) : Except String (Slice UInt8 → Outcome String Message) :=
  if contentID = contentIDGetBlockIDs then
    .ok fun b => Message.getBlockIDs <$> GetBlockIDsMessage.unmarshalBinary b
  else if contentID = contentIDBlockIDs then
    .ok fun b => Message.blockIDs <$> BlockIDsMessage.unmarshalBinary b
  else if contentID = contentIDGetBlockSnapshot then
    .ok fun b => Message.getBlockSnapshot <$> GetBlockSnapshotMessage.unmarshalBinary b
  else if contentID = contentIDMicroBlockSnapshotRequest then
    .ok fun b => Message.microBlockSnapshotRequest <$>
      MicroBlockSnapshotRequestMessage.unmarshalBinary b
  else if contentID = contentIDBlockSnapshot then
    .ok fun b => Message.blockSnapshot <$> BlockSnapshotMessage.unmarshalBinary b
  else if contentID = contentIDMicroBlockSnapshot then
    .ok fun b => Message.microBlockSnapshot <$> MicroBlockSnapshotMessage.unmarshalBinary b
  else .error ("unexpected content ID " ++ toString contentID.toNat)

/-- `BlockID.readUndefinedFrom`, the `ReadFrom` of the zero `BlockID{}` a payload starts as:
through a reader limited to 64 bytes, 32 bytes of a digest, then 32 more for the second half of a
signature.  When the second read comes short the ID is the digest, and the bytes that read did
get stay in the signature array, from position 32. -/
def blockIDReadUndefinedFrom (r : Bytes) : Except String (BlockID × Bytes) :=
  let lr := r.take signatureSize
  match readIDBytes digestSize lr with
  | .error e => .error e
  | .ok (dig, _) =>
    let second := lr.drop digestSize
    if second.length < digestSize then
      .ok (⟨arrayOf 64 (List.replicate digestSize 0 ++ second), arrayOf 32 dig, .digestID⟩,
        r.drop (digestSize + second.length))
    else .ok (newBlockIDFromSignature (arrayOf 64 (dig ++ second)), r.drop signatureSize)

/-- `BytesPayload.ReadFrom`: everything the reader has. -/
def bytesPayloadReadFrom (r : Bytes) : Except String (Bytes × Bytes) := .ok (r, [])

/-- The `StreamKind` of a message made by `mk` from a payload that `readFrom` reads, and that is
`empty` when the frame has none. -/
def streamKind {P : Type} (mk : P → Message) (empty : P) (readFrom : Bytes → Except String (P × Bytes)) :
    StreamKind Message :=
  ⟨mk empty, fun r => (fun (p, rest) => (mk p, rest)) <$> readFrom r⟩

/-- What `ReadMessageFromWith` makes of the six content IDs with `CreateMessageByContentID` and
`CreatePayloadByContentID`: the empty message, and the payload read by `BlockIDsPayload.ReadFrom`,
`BlockID.ReadFrom` or `BytesPayload.ReadFrom`. -/
def createStreamKind (contentID : PeerMessageID) : Except String (StreamKind Message) :=
  if contentID = contentIDGetBlockIDs then
    .ok (streamKind Message.getBlockIDs [] blockIDsPayloadReadFrom)
  else if contentID = contentIDBlockIDs then
    .ok (streamKind Message.blockIDs [] blockIDsPayloadReadFrom)
  else if contentID = contentIDGetBlockSnapshot then
    .ok (streamKind Message.getBlockSnapshot BlockID.zero blockIDReadUndefinedFrom)
  else if contentID = contentIDMicroBlockSnapshotRequest then
    .ok (streamKind Message.microBlockSnapshotRequest BlockID.zero blockIDReadUndefinedFrom)
  else if contentID = contentIDBlockSnapshot then
    .ok (streamKind Message.blockSnapshot [] bytesPayloadReadFrom)
  else if contentID = contentIDMicroBlockSnapshot then
    .ok (streamKind Message.microBlockSnapshot [] bytesPayloadReadFrom)
  else .error ("unexpected content ID " ++ toString contentID.toNat)

/-- `UnmarshalMessage` over the six messages. -/
def unmarshalMessage (b : Slice UInt8) : Outcome String Message :=
  unmarshalMessageWith createMessage b

/-- `ReadMessageFrom` over the six messages. -/
def readMessageFrom (fastHash : Bytes → Digest) (r : Bytes) : Except String (Message × Bytes) :=
  readMessageFromWith fastHash createStreamKind r

end Gowaves.Proto
