import Gowaves.GoLib.Slice
import Gowaves.GoLib.Reader

/-!
# Peer message frames (`pkg/proto/proto.go`)

Every message between peers is a frame

  `MSG_LEN (4) | MAGIC (4) | CONTENT_ID (1) | PAYLOAD_LEN (4) | PAYLOAD_CHECKSUM (4) | PAYLOAD`

with big-endian integers; the checksum (the first four bytes of the `FastHash` of the payload)
and the payload are left out when `PAYLOAD_LEN` is zero, and `MSG_LEN` counts the bytes after
itself.  This module models the `Header` of a frame and what every message shares:

* `Header.unmarshalBinary` reads a header from the bytes of a frame, `Header.readFrom` from a
  stream, `Header.marshalBinary` writes one and `newHeader` makes the header of a payload;
* `Header.validate` checks the magic, the content ID and `MSG_LEN`, in `uint32` arithmetic, so
  that a `PAYLOAD_LEN` near `2^32` wraps the expected length around;
* `parseMessage` is the `UnmarshalBinary` of the messages whose payload is one value,
  `writeMessage` the `WriteTo` of every message, and `unmarshalMessageWith` and
  `readMessageFromWith` the two decoders of a frame, over the bytes and over a stream.

`FastHash` (BLAKE2b-256) is a parameter.  A `safecast` conversion of a length to `uint32` fails
only for `2^32` bytes or more, with the library's error text, which is kept abstract.
-/

set_option autoImplicit false

namespace Gowaves.Proto

open GoLib GoLib.Reader

/-- `crypto.Digest`. -/
abbrev Digest := Vector UInt8 32

/-! ## Sizes and identifiers -/

def msgLenSize : UInt32 := 4
def msgMagicSize : UInt32 := 4
def msgTypeSize : UInt32 := 1
def payloadLenSize : UInt32 := 4
def payloadChecksumSize : UInt32 := 4

/-- `headerSizeWithPayload`, 17. -/
def headerSizeWithPayload : UInt32 :=
  msgLenSize + msgMagicSize + msgTypeSize + payloadLenSize + payloadChecksumSize

/-- `headerSizeWithoutPayload`, 13. -/
def headerSizeWithoutPayload : UInt32 := msgLenSize + msgMagicSize + msgTypeSize + payloadLenSize

def maxHeaderLength : UInt32 := headerSizeWithPayload

def headerMagic : UInt32 := 0x12345678

def headerContentIDPosition : Nat := 8

abbrev PeerMessageID := UInt8

def contentIDGetBlockIDs : PeerMessageID := 32
def contentIDBlockIDs : PeerMessageID := 33
def contentIDGetBlockSnapshot : PeerMessageID := 34
def contentIDMicroBlockSnapshotRequest : PeerMessageID := 35
def contentIDBlockSnapshot : PeerMessageID := 36
def contentIDMicroBlockSnapshot : PeerMessageID := 37

/-! ## Formatting -/

/-- `%x` of an unsigned integer. -/
def hex (n : Nat) : String := String.ofList (Nat.toDigits 16 n)

/-- The error of `safecast.Convert[uint32]` on a length of `2^32` or more. -/
def conversionError (n : Nat) : String :=
  "conversion issue: " ++ toString n ++ " (int) is greater than the maximum value for uint32"

/-- `binary.BigEndian.Uint32` of four bytes. -/
def beUint32 (b : Bytes) : UInt32 := UInt32.ofNat (BigEndian.ofBytes b)

/-- `binary.BigEndian.PutUint32`. -/
def putUint32 (v : UInt32) : Bytes := BigEndian.toBytes 4 v.toNat

/-- A `[n]byte` array filled by `copy` from the front of `b`, zero after it. -/
def arrayOf (n : Nat) (b : Bytes) : Vector UInt8 n := Vector.ofFn fun i => b.getD i 0

/-! ## Headers -/

/-- `proto.Header`. -/
structure Header where
  length : UInt32
  magic : UInt32
  contentID : PeerMessageID
  payloadLength : UInt32
  payloadChecksum : Vector UInt8 4
  deriving DecidableEq, Repr

/-- `Header.HeaderLength`. -/
def Header.headerLength (h : Header) : UInt32 :=
  if h.payloadLength > 0 then headerSizeWithPayload else headerSizeWithoutPayload

/-- `Header.Validate`: the magic, the content ID, and `MSG_LEN` against the length the header
and the payload take after it, summed in `uint32`. -/
def Header.validate (h : Header) (contentID : PeerMessageID) : Except String Unit :=
  if h.magic ≠ headerMagic then
    .error ("invalid header: wrong magic: want " ++ hex headerMagic.toNat ++ ", have " ++
      hex h.magic.toNat)
  else if h.contentID ≠ contentID then
    .error ("invalid header: wrong ContentID: want " ++ hex contentID.toNat ++ ", have " ++
      hex h.contentID.toNat)
  else
    let exp := h.headerLength + h.payloadLength - msgLenSize
    if h.length ≠ exp then
      .error ("invalid header: incorrect message length in header (" ++ toString h.length.toNat ++
        "), expected  " ++ toString exp.toNat)
    else .ok ()

/-- `Header.UnmarshalBinary` of the bytes of a slice; every index is below the length it
checks first, so it never panics. -/
def Header.unmarshalBinary (data : Bytes) : Except String Header :=
  if 2 ^ 32 ≤ data.length then .error ("failed to unmarshal Header: " ++ conversionError data.length)
  else if data.length < headerSizeWithoutPayload.toNat then
    .error ("data is too short to unmarshal Header: len=" ++ toString data.length)
  else
    let magic := beUint32 ((data.drop 4).take 4)
    if magic ≠ headerMagic then
      .error ("received wrong magic: want " ++ hex headerMagic.toNat ++ ", have " ++
        hex magic.toNat)
    else
      let h : Header := ⟨beUint32 (data.take 4), magic, data.getD headerContentIDPosition 0,
        beUint32 ((data.drop 9).take 4), Vector.replicate 4 0⟩
      if h.payloadLength > 0 then
        if data.length < headerSizeWithPayload.toNat then
          .error "Header UnmarshalBinary: invalid data size"
        else .ok { h with payloadChecksum := arrayOf 4 ((data.drop 13).take 4) }
      else .ok h

/-- `Header.MarshalBinary` (and `Header.WriteTo`): `Header.Copy` into a buffer of
`HeaderLength` bytes, which always succeeds. -/
def Header.marshalBinary (h : Header) : Bytes :=
  putUint32 h.length ++ putUint32 h.magic ++ [h.contentID] ++ putUint32 h.payloadLength ++
    (if h.payloadLength > 0 then h.payloadChecksum.toList else [])

/-- `Header.ReadFrom`: the fields in order from a stream, without a check. -/
def Header.readFrom (r : Bytes) : Except String (Header × Bytes) := do
  let (msgLen, r) ← (readFull 4 r).mapError ("failed to read message length: " ++ ·)
  let (magic, r) ← (readFull 4 r).mapError ("failed to read message magic: " ++ ·)
  let (msgType, r) ← (readFull 1 r).mapError ("failed to read message type: " ++ ·)
  let (payloadLen, r) ← (readFull 4 r).mapError ("failed to read payload length: " ++ ·)
  let h : Header :=
    ⟨beUint32 msgLen, beUint32 magic, msgType.getD 0 0, beUint32 payloadLen, Vector.replicate 4 0⟩
  if h.payloadLength = 0 then pure (h, r)
  else do
    let (cs, r) ← (readFull 4 r).mapError ("failed to read payload checksum: " ++ ·)
    pure ({ h with payloadChecksum := arrayOf 4 cs }, r)

/-- `NewHeader`: the header of the payload `body`. -/
def newHeader (fastHash : Bytes → Digest) (contentID : PeerMessageID) (body : Bytes) :
    Except String Header :=
  if 2 ^ 32 ≤ body.length then .error ("failed to create header: " ++ conversionError body.length)
  else
    let bl := UInt32.ofNat body.length
    if bl > 0 then
      .ok ⟨msgMagicSize + msgTypeSize + payloadLenSize + payloadChecksumSize + bl, headerMagic,
        contentID, bl, arrayOf 4 ((fastHash body).toList.take 4)⟩
    else .ok ⟨msgMagicSize + msgTypeSize + payloadLenSize, headerMagic, contentID, 0,
      Vector.replicate 4 0⟩

/-! ## Messages -/

/-- `ParseMessage`: the header, validated, then `f` on the payload if there is one; `none`
when `f` is not called.  The end of the payload is computed in `uint32`. -/
def parseMessage {α : Type} (data : Slice UInt8) (contentID : PeerMessageID) (name : String)
    (f : Slice UInt8 → Outcome String α) : Outcome String (Option α) :=
  if 2 ^ 32 ≤ data.len then .error (name ++ ": " ++ conversionError data.len)
  else if data.len < headerSizeWithoutPayload.toNat then
    .error (name ++ ": invalid data size " ++ toString data.len ++ ", expected at least " ++
      toString headerSizeWithoutPayload.toNat)
  else
    match Header.unmarshalBinary data.toList with
    | .error e => .error (name ++ ": " ++ e)
    | .ok h =>
      match h.validate contentID with
      | .error e => .error (name ++ ": " ++ e)
      | .ok () =>
        -- `int(h.Length + msgLenSize)`: the sum is a `uint32`
        let exp := (h.length + msgLenSize).toNat
        if data.len < exp then
          .error (name ++ ": expected data at least " ++ toString exp ++ ", found " ++
            toString data.len)
        else if h.payloadLength > 0 then do
          let payload ← data.slice headerSizeWithPayload.toNat
            (headerSizeWithPayload + h.payloadLength).toNat
          match f payload with
          | .ok a => .ok (some a)
          | .error e => .error (name ++ ": payload error: " ++ e)
          | .panic r => .panic r
          | .exhausted => .exhausted
        else .ok none

/-- `WriteMessage`: what the payload's `WriteTo` writes, then its header before it. -/
def writeMessage (fastHash : Bytes → Digest) (contentID : PeerMessageID) (name : String)
    (payload : Except String Bytes) : Except String Bytes := do
  let body ← payload.mapError (name ++ ": failed to write payload: " ++ ·)
  let h ← (newHeader fastHash contentID body).mapError (name ++ ": failed to create header: " ++ ·)
  pure (h.marshalBinary ++ body)

/-- `UnmarshalMessageWith`: `mp` gives, for a content ID, the `UnmarshalBinary` of the message
it makes. -/
def unmarshalMessageWith {M : Type} (mp : PeerMessageID → Except String (Slice UInt8 → Outcome String M))
    (b : Slice UInt8) : Outcome String M :=
  if 2 ^ 32 ≤ b.len then .error ("failed to unmarshal message: " ++ conversionError b.len)
  else if b.len < headerSizeWithoutPayload.toNat then .error "message is too short"
  else
    match mp (b.toList.getD headerContentIDPosition 0) with
    | .error e => .error ("failed to unmarshal message: " ++ e)
    | .ok unmarshalBinary => unmarshalBinary b

/-- What `ReadMessageFromWith` does with a content ID: the message `mp` makes, and the payload
`pp` makes, read by its `ReadFrom` and set into the message by `SetPayload`. -/
structure StreamKind (M : Type) where
  message : M
  readPayload : Bytes → Except String (M × Bytes)

/-- `ReadMessageFromWith`: the header from the stream, validated against its own content ID,
then, if there is a payload, the payload through a reader limited to `PAYLOAD_LEN` bytes whose
checksum covers the bytes read. -/
def readMessageFromWith {M : Type} (fastHash : Bytes → Digest)
    (kinds : PeerMessageID → Except String (StreamKind M)) (r : Bytes) :
    Except String (M × Bytes) := do
  let (h, r) ← (Header.readFrom r).mapError ("failed to read header: " ++ ·)
  (h.validate h.contentID).mapError ("message header is not valid: " ++ ·)
  let k ← (kinds h.contentID).mapError ("failed to create message: " ++ ·)
  if h.payloadLength = 0 then pure (k.message, r)
  else do
    let limited := r.take h.payloadLength.toNat
    let (m, rest) ← (k.readPayload limited).mapError ("failed to read payload: " ++ ·)
    let read := limited.take (limited.length - rest.length)
    if arrayOf 4 ((fastHash read).toList.take 4) ≠ h.payloadChecksum then
      .error "payload checksum mismatch"
    else pure (m, rest ++ r.drop h.payloadLength.toNat)

end Gowaves.Proto
