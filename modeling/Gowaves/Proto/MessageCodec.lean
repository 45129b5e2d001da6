import Gowaves.Proto.Messages

/-!
# Decoding peer messages

What the two decoders of a frame do with the frames the two encoders write, and with the frames
a peer may send instead.  A frame is a header followed by its payload; `Header.Describes` says
that a header is the one `NewHeader` makes for the payload, and every result below is assembled
from what the decoders do on such a frame (`parseMessage_frame`, `unmarshalBlockIDsMessage_frame`,
`unmarshalBlockIDMessage_frame`, `unmarshalSnapshotMessage_frame`, `readMessageFromWith_frame`).

* `unmarshalMessage_marshalBinary` — `UnmarshalMessage` gives back every `Valid` message from
  the bytes of its `MarshalBinary`;
* `readMessageFrom_writeTo` — `ReadMessageFrom` reads back every `Streamed` message from the
  bytes of its `WriteTo`, and leaves the rest of the stream;
* `writeTo_eq_marshalBinary` — whatever `WriteTo` writes, `MarshalBinary` writes too; the
  converse fails on uninitialized IDs, which `MarshalBinary` writes as no bytes;
* `getBlockIDs_unmarshalBinary_short` — on a frame of 13 to 16 bytes with a valid header, the
  decoder of `GetBlockIDs`, which checks for 13 bytes only, cuts the frame past its end and
  panics;
* `parseMessage_wrapped` — a `PAYLOAD_LEN` that makes `17 + PAYLOAD_LEN` wrap around in
  `uint32` passes `Validate`, and `ParseMessage` then panics on the reversed slice bounds;
* `unmarshalMessage_shortFrames` and `unmarshalMessage_emptyBlockSnapshot` — these at fixed
  frames: a 13-byte `GetBlockIDs` that `ReadMessageFrom` accepts and `UnmarshalMessage` panics
  on, and the frame of an empty snapshot that only `ReadMessageFrom` reads back.

A message is `Valid` when its IDs are signatures or digests as `NewBlockIDFromBytes` makes
them, its frame is shorter than `2^32` bytes, and a snapshot is not empty: the frame of an empty
snapshot has no payload, and its `UnmarshalBinary` wants at least 17 bytes.
-/

set_option autoImplicit false

namespace Gowaves.Proto

open GoLib GoLib.Reader

/-! ## Fields by position -/

theorem length_putUint32 (v : UInt32) : (putUint32 v).length = 4 := BigEndian.length_toBytes 4 _

theorem beUint32_putUint32 (v : UInt32) : beUint32 (putUint32 v) = v := by
  rw [beUint32, putUint32, BigEndian.ofBytes_toBytes_of_lt (by simpa using v.toNat_lt)]
  simp

theorem putUint32_four (v : UInt32) : ∃ a b c d, putUint32 v = [a, b, c, d] := by
  simp only [putUint32, BigEndian.toBytes, List.nil_append, List.cons_append]
  exact ⟨_, _, _, _, rfl⟩

theorem readFull_putUint32 (v : UInt32) (l : Bytes) :
    readFull 4 (putUint32 v ++ l) = .ok (putUint32 v, l) := by
  have := readFull_append (putUint32 v) l
  rwa [length_putUint32] at this

@[simp] theorem arrayOf_toList {n : Nat} (v : Vector UInt8 n) : arrayOf n v.toList = v := by
  apply Vector.ext
  intro i hi
  simp [arrayOf, List.getD_eq_getElem?_getD]

theorem headerFields (a b p : UInt32) (c : UInt8) (t : Bytes) :
    let data := putUint32 a ++ (putUint32 b ++ (c :: (putUint32 p ++ t)))
    beUint32 (data.take 4) = a ∧ beUint32 ((data.drop 4).take 4) = b ∧
      data.getD headerContentIDPosition 0 = c ∧ beUint32 ((data.drop 9).take 4) = p ∧
      data.drop 13 = t ∧ data.length = 13 + t.length := by
  obtain ⟨a₀, a₁, a₂, a₃, ha⟩ := putUint32_four a
  obtain ⟨b₀, b₁, b₂, b₃, hb⟩ := putUint32_four b
  obtain ⟨p₀, p₁, p₂, p₃, hp⟩ := putUint32_four p
  have hva := beUint32_putUint32 a
  have hvb := beUint32_putUint32 b
  have hvp := beUint32_putUint32 p
  rw [ha] at hva
  rw [hb] at hvb
  rw [hp] at hvp
  simp only [ha, hb, hp]
  refine ⟨hva, hvb, rfl, hvp, rfl, ?_⟩
  simp
  omega

/-! ## Headers -/

theorem marshalBinary_append (h : Header) (rest : Bytes) :
    h.marshalBinary ++ rest = putUint32 h.length ++ (putUint32 h.magic ++ (h.contentID ::
      (putUint32 h.payloadLength ++
        ((if h.payloadLength > 0 then h.payloadChecksum.toList else []) ++ rest)))) := by
  simp [Header.marshalBinary]

theorem length_marshalBinary (h : Header) :
    h.marshalBinary.length = if h.payloadLength > 0 then 17 else 13 := by
  unfold Header.marshalBinary
  split <;> simp [length_putUint32]

/-- A header that `UnmarshalBinary` and `ReadFrom` read back: it has the magic, and a zero
checksum when there is no payload. -/
structure Header.Wire (h : Header) : Prop where
  magic : h.magic = headerMagic
  checksum : h.payloadLength = 0 → h.payloadChecksum = Vector.replicate 4 0

theorem unmarshalBinary_marshalBinary {h : Header} (hw : h.Wire) {rest : Bytes}
    (hl : (h.marshalBinary ++ rest).length < 2 ^ 32) :
    Header.unmarshalBinary (h.marshalBinary ++ rest) = .ok h := by
  rw [marshalBinary_append] at hl ⊢
  obtain ⟨hlen, hmag, hcid, hpl, hdrop, hlen'⟩ := headerFields h.length h.magic h.payloadLength
    h.contentID ((if h.payloadLength > 0 then h.payloadChecksum.toList else []) ++ rest)
  have h13 : headerSizeWithoutPayload.toNat = 13 := rfl
  have h17 : headerSizeWithPayload.toNat = 17 := rfl
  unfold Header.unmarshalBinary
  rw [if_neg (by omega), if_neg (by rw [hlen', h13]; omega), hmag, if_neg (by simp [hw.magic])]
  simp only [hlen, hcid, hpl, hdrop]
  by_cases hp : h.payloadLength > 0
  · rw [if_pos hp, if_neg (by simp [length_putUint32, h17, hp]; omega)]
    simp [hp]
  · have hz : h.payloadLength = 0 := by simpa using hp
    rw [if_neg hp, ← hw.checksum hz]

theorem readFrom_marshalBinary {h : Header} (hw : h.Wire) (rest : Bytes) :
    Header.readFrom (h.marshalBinary ++ rest) = .ok (h, rest) := by
  have hc : ∀ t : Bytes, readFull 1 (h.contentID :: t) = .ok ([h.contentID], t) := fun t => by
    simp [readFull]
  rw [marshalBinary_append]
  simp only [Header.readFrom, readFull_putUint32, hc, Except.mapError, except_ok_bind,
    beUint32_putUint32, List.getD_cons_zero]
  by_cases hp : h.payloadLength > 0
  · have h4 : readFull 4 (h.payloadChecksum.toList ++ rest) =
        .ok (h.payloadChecksum.toList, rest) := by
      have := readFull_append h.payloadChecksum.toList rest
      rwa [Vector.length_toList] at this
    have hnz : h.payloadLength ≠ 0 := by
      intro hz
      rw [hz] at hp
      exact absurd hp (by decide)
    rw [if_neg hnz, if_pos hp]
    simp [h4]
  · have hz : h.payloadLength = 0 := by simpa using hp
    rw [if_pos hz, if_neg hp, ← hw.checksum hz]
    rfl

/-- What a header says of the payload `body` that follows it: the decoders read it back
(`Wire`), `Validate` accepts it for `contentID`, its `PAYLOAD_LEN` is the payload's length and
its checksum the payload's. -/
structure Header.Describes (fastHash : Bytes → Digest) (h : Header) (contentID : PeerMessageID)
    (body : Bytes) : Prop where
  wire : h.Wire
  valid : h.validate contentID = .ok ()
  payloadLength : h.payloadLength.toNat = body.length
  checksum : body ≠ [] → h.payloadChecksum = arrayOf 4 ((fastHash body).toList.take 4)

theorem validate_eq_ok {h : Header} {contentID : PeerMessageID} :
    h.validate contentID = .ok () ↔ h.magic = headerMagic ∧ h.contentID = contentID ∧
      h.length = h.headerLength + h.payloadLength - msgLenSize := by
  unfold Header.validate
  split_ifs <;> simp_all

theorem Header.Describes.contentID {fastHash : Bytes → Digest} {h : Header}
    {contentID : PeerMessageID} {body : Bytes} (hd : h.Describes fastHash contentID body) :
    h.contentID = contentID :=
  (validate_eq_ok.mp hd.valid).2.1

theorem headerLength_toNat (h : Header) :
    h.headerLength.toNat = if h.payloadLength > 0 then 17 else 13 := by
  unfold Header.headerLength
  split <;> rfl

theorem validate_length {h : Header} {contentID : PeerMessageID}
    (hv : h.validate contentID = .ok ()) :
    (h.length + msgLenSize).toNat = (h.headerLength.toNat + h.payloadLength.toNat) % 2 ^ 32 := by
  rw [(validate_eq_ok.mp hv).2.2, UInt32.sub_add_cancel, UInt32.toNat_add]

theorem Header.Describes.length_add {fastHash : Bytes → Digest} {h : Header}
    {contentID : PeerMessageID} {body : Bytes} (hd : h.Describes fastHash contentID body)
    (hl : 17 + body.length < 2 ^ 32) :
    (h.length + msgLenSize).toNat = h.marshalBinary.length + body.length := by
  rw [validate_length hd.valid, headerLength_toNat, length_marshalBinary, hd.payloadLength]
  split <;> omega

theorem Header.Describes.payloadLength_pos {fastHash : Bytes → Digest} {h : Header}
    {contentID : PeerMessageID} {body : Bytes} (hd : h.Describes fastHash contentID body) :
    h.payloadLength > 0 ↔ body ≠ [] := by
  rw [gt_iff_lt, UInt32.lt_iff_toNat_lt, hd.payloadLength, ne_eq, ← List.length_eq_zero_iff]
  simp only [UInt32.toNat_zero]
  omega

theorem newHeader_ok (fastHash : Bytes → Digest) (contentID : PeerMessageID) {body : Bytes}
    (hb : body.length < 2 ^ 32) :
    ∃ h, newHeader fastHash contentID body = .ok h ∧ h.Describes fastHash contentID body := by
  have hbl : (UInt32.ofNat body.length).toNat = body.length := by simp; omega
  by_cases h0 : body = []
  · subst h0
    exact ⟨_, rfl, ⟨⟨rfl, fun _ => rfl⟩, by simp [Header.validate, Header.headerLength]; rfl, rfl,
      fun h => absurd rfl h⟩⟩
  · have hpos : UInt32.ofNat body.length > 0 := by
      rw [gt_iff_lt, UInt32.lt_iff_toNat_lt, hbl]
      exact List.length_pos_of_ne_nil h0
    refine ⟨_, by rw [newHeader, if_neg (by omega), if_pos hpos], ⟨⟨rfl, fun hz => ?_⟩, ?_, hbl,
      fun _ => rfl⟩⟩
    · have hz' : UInt32.ofNat body.length = 0 := hz
      rw [hz'] at hpos
      exact absurd hpos (by decide)
    · simp only [Header.validate, Header.headerLength, if_pos hpos]
      simp only [ne_eq, not_true_eq_false, if_false, ite_eq_right_iff]
      intro h
      simp only [headerSizeWithPayload, msgLenSize, msgMagicSize, msgTypeSize, payloadLenSize,
        payloadChecksumSize] at h
      exact (h (by grind)).elim

/-! ## Block IDs -/

/-- An ID as `NewBlockIDFromBytes` makes it: a signature or a digest, with the other array
zero. -/
def BlockID.Canonical (id : BlockID) : Prop :=
  id = newBlockIDFromSignature id.sig ∨ id = newBlockIDFromDigest id.dig

theorem newBlockIDFromBytes_bytes {id : BlockID} (h : id.Canonical) :
    newBlockIDFromBytes id.bytes = .ok id := by
  rcases h with h | h <;> rw [h]
  · simp [newBlockIDFromBytes, BlockID.bytes, newBlockIDFromSignature, signatureSize]
  · simp [newBlockIDFromBytes, BlockID.bytes, newBlockIDFromDigest, signatureSize, digestSize]

theorem toNat_ofNat_length_bytes {id : BlockID} (h : id.Canonical) :
    (UInt8.ofNat id.bytes.length).toNat = id.bytes.length := by
  rcases h with h | h <;> rw [h] <;>
    simp [BlockID.bytes, newBlockIDFromSignature, newBlockIDFromDigest]

theorem unmarshalBlockIDsLoop_flatMap (dl : Nat) : ∀ (blocks : List BlockID) (rest : Bytes),
    (∀ id ∈ blocks, id.Canonical) →
    unmarshalBlockIDsLoop dl blocks.length (blocks.flatMap idBytes ++ rest) = .ok blocks
  | [], _, _ => rfl
  | id :: blocks, rest, hc => by
    have hid := hc id (by simp)
    have ih := unmarshalBlockIDsLoop_flatMap dl blocks rest fun b hb => hc b (by simp [hb])
    simp only [List.flatMap_cons, List.length_cons, idBytes, List.cons_append, List.append_assoc]
    rw [unmarshalBlockIDsLoop, toNat_ofNat_length_bytes hid, if_neg (by simp), List.take_left,
      newBlockIDFromBytes_bytes hid, List.drop_left, ih]
    rfl

theorem take_putUint32 (v : UInt32) (l : Bytes) : (putUint32 v ++ l).take 4 = putUint32 v :=
  List.take_left' (length_putUint32 v)

theorem drop_putUint32 (v : UInt32) (l : Bytes) : (putUint32 v ++ l).drop 4 = l :=
  List.drop_left' (length_putUint32 v)

theorem toNat_count {blocks : List BlockID} (hl : blocks.length < 2 ^ 32) :
    (beUint32 (putUint32 (UInt32.ofNat blocks.length))).toNat = blocks.length := by
  rw [beUint32_putUint32]
  simp
  omega

theorem unmarshalBlockIDs_blockIDsBody {blocks : List BlockID} (hc : ∀ id ∈ blocks, id.Canonical)
    (hl : blocks.length < 2 ^ 32) (rest : Bytes) :
    unmarshalBlockIDs (blockIDsBody blocks ++ rest) = .ok blocks := by
  unfold unmarshalBlockIDs blockIDsBody
  rw [List.append_assoc, if_neg (by simp [length_putUint32]), take_putUint32, drop_putUint32,
    toNat_count hl]
  exact unmarshalBlockIDsLoop_flatMap _ blocks rest hc

theorem blockIDsReadLoop_flatMap : ∀ (blocks : List BlockID) (rest : Bytes),
    (∀ id ∈ blocks, id.Canonical) →
    blockIDsReadLoop blocks.length (blocks.flatMap idBytes ++ rest) = .ok (blocks, rest)
  | [], _, _ => rfl
  | id :: blocks, rest, hc => by
    have hid := hc id (by simp)
    have ih := blockIDsReadLoop_flatMap blocks rest fun b hb => hc b (by simp [hb])
    have hone : ∀ t : Bytes, readFull 1 (UInt8.ofNat id.bytes.length :: t) =
        .ok ([UInt8.ofNat id.bytes.length], t) := fun t => by simp [readFull]
    have hread : ∀ t : Bytes, readIDBytes id.bytes.length (id.bytes ++ t) = .ok (id.bytes, t) :=
      fun t => by simp [readIDBytes, readFull_append, Except.mapError]
    simp only [List.flatMap_cons, List.length_cons, idBytes, List.cons_append, List.append_assoc]
    rw [blockIDsReadLoop]
    simp only [hone, except_ok_bind, List.getD_cons_zero, toNat_ofNat_length_bytes hid]
    rcases hid with h | h
    · rw [h] at hread ⊢
      simp [BlockID.bytes, newBlockIDFromSignature, signatureSize] at hread ⊢
      simp [hread, ih]
    · rw [h] at hread ⊢
      simp [BlockID.bytes, newBlockIDFromDigest, signatureSize, digestSize] at hread ⊢
      simp [hread, ih]

theorem blockIDsPayloadReadFrom_blockIDsBody {blocks : List BlockID}
    (hc : ∀ id ∈ blocks, id.Canonical) (hl : blocks.length < 2 ^ 32) (rest : Bytes) :
    blockIDsPayloadReadFrom (blockIDsBody blocks ++ rest) = .ok (blocks, rest) := by
  unfold blockIDsPayloadReadFrom blockIDsBody
  rw [List.append_assoc, readFull_putUint32]
  simp only [except_ok_bind]
  rw [toNat_count hl]
  exact blockIDsReadLoop_flatMap blocks rest hc

theorem blockIDsPayloadWriteTo_eq {blocks : List BlockID} (hc : ∀ id ∈ blocks, id.Canonical)
    (hl : blocks.length < 2 ^ 32) :
    blockIDsPayloadWriteTo blocks = .ok (blockIDsBody blocks) := by
  have hmap : blocks.mapM writeSizedBlockID = .ok (blocks.map idBytes) :=
    mapM_eq_ok_map blocks fun id hid => by
      rcases hc id hid with h | h <;> rw [h] <;>
        simp [writeSizedBlockID, idBytes, BlockID.bytes, newBlockIDFromSignature,
          newBlockIDFromDigest, signatureSize, digestSize]
  unfold blockIDsPayloadWriteTo
  rw [if_neg (by omega)]
  simp only [hmap, except_ok_bind, blockIDsBody, List.flatMap]
  rfl

theorem length_blockIDsBody (blocks : List BlockID) :
    blocks.length + 4 ≤ (blockIDsBody blocks).length := by
  have hids : blocks.length ≤ (blocks.flatMap idBytes).length := by
    induction blocks with
    | nil => simp
    | cons id blocks ih => simp only [List.flatMap_cons, List.length_append, idBytes,
        List.length_cons]; omega
  rw [blockIDsBody, List.length_append, length_putUint32]
  omega

theorem blockIDsBody_ne_nil (blocks : List BlockID) : blockIDsBody blocks ≠ [] :=
  List.ne_nil_of_length_pos (by have := length_blockIDsBody blocks; omega)

theorem blocks_length_lt {blocks : List BlockID} (hl : 17 + (blockIDsBody blocks).length < 2 ^ 32) :
    blocks.length < 2 ^ 32 := by
  have := length_blockIDsBody blocks
  omega

/-! ## Frames

A frame is `h.marshalBinary ++ body` for a header `h` that describes `body`. -/

section Frames

variable {fastHash : Bytes → Digest} {h : Header} {contentID : PeerMessageID} {body : Bytes}

theorem getD_contentID_frame (h : Header) (body : Bytes) :
    (h.marshalBinary ++ body).getD headerContentIDPosition 0 = h.contentID := by
  rw [marshalBinary_append]
  exact (headerFields _ _ _ _ _).2.2.1

theorem length_frame (hd : h.Describes fastHash contentID body) :
    (h.marshalBinary ++ body).length = (if body = [] then 13 else 17) + body.length := by
  rw [List.length_append, length_marshalBinary]
  by_cases hb : body = []
  · rw [if_neg (mt hd.payloadLength_pos.mp (not_not.mpr hb)), if_pos hb]
  · rw [if_pos (hd.payloadLength_pos.mpr hb), if_neg hb]

theorem unmarshalBinary_frame (hd : h.Describes fastHash contentID body)
    (hl : 17 + body.length < 2 ^ 32) :
    Header.unmarshalBinary (h.marshalBinary ++ body) = .ok h :=
  unmarshalBinary_marshalBinary hd.wire (by rw [length_frame hd]; split <;> omega)

theorem drop_frame (hd : h.Describes fastHash contentID body) (hb : body ≠ []) :
    (h.marshalBinary ++ body).drop headerSizeWithPayload.toNat = body :=
  List.drop_left' (by rw [length_marshalBinary, if_pos (hd.payloadLength_pos.mpr hb)]; rfl)

theorem slice_payload {ε : Type} (hd : h.Describes fastHash contentID body) (hb : body ≠ [])
    (hl : 17 + body.length < 2 ^ 32) :
    ∃ t : Slice UInt8, ((Slice.ofList (h.marshalBinary ++ body)).slice
        headerSizeWithPayload.toNat (headerSizeWithPayload + h.payloadLength).toNat :
          Outcome ε (Slice UInt8)) = .ok t ∧ t.toList = body ∧ t.len = body.length := by
  have h17 : headerSizeWithPayload.toNat = 17 := rfl
  have hend : (headerSizeWithPayload + h.payloadLength).toNat = 17 + body.length := by
    rw [UInt32.toNat_add, h17, hd.payloadLength]
    omega
  have hlen := length_frame hd
  rw [if_neg hb] at hlen
  obtain ⟨t, ht, htl, htlen, -⟩ := @Slice.slice_ok UInt8 ε (Slice.ofList (h.marshalBinary ++ body))
    headerSizeWithPayload.toNat (headerSizeWithPayload + h.payloadLength).toNat
    (by omega) (by simp only [Slice.cap_ofList]; omega)
  refine ⟨t, ht, ?_, by omega⟩
  rw [htl, Slice.toList_slice_of_le_len _ (by rw [Slice.len_ofList]; omega), Slice.toList_ofList,
    hend, List.take_of_length_le (by omega), drop_frame hd hb]

/-- `ParseMessage` of a frame with a payload gives what `f` makes of the payload. -/
theorem parseMessage_frame {α : Type} (hd : h.Describes fastHash contentID body) (hb : body ≠ [])
    (hl : 17 + body.length < 2 ^ 32) (name : String) {f : Slice UInt8 → Outcome String α} (a : α)
    (hf : ∀ s : Slice UInt8, s.toList = body → f s = .ok a) :
    parseMessage (Slice.ofList (h.marshalBinary ++ body)) contentID name f = .ok (some a) := by
  have hlen := length_frame hd
  rw [if_neg hb] at hlen
  obtain ⟨t, ht, htl, -⟩ := @slice_payload fastHash h contentID body String hd hb hl
  have h13 : headerSizeWithoutPayload.toNat = 13 := rfl
  have hexp : (h.length + msgLenSize).toNat = (h.marshalBinary ++ body).length := by
    rw [hd.length_add hl, List.length_append]
  unfold parseMessage
  simp only [Slice.len_ofList, Slice.toList_ofList, unmarshalBinary_frame hd hl, hd.valid, hexp,
    show ¬ 2 ^ 32 ≤ (h.marshalBinary ++ body).length by omega,
    show ¬ (h.marshalBinary ++ body).length < headerSizeWithoutPayload.toNat by omega,
    Nat.lt_irrefl, hd.payloadLength_pos.mpr hb, ↓reduceIte, ht, Outcome.bind_ok, hf t htl]

theorem parseMessage_frame_nil {α : Type} (hd : h.Describes fastHash contentID [])
    (name : String) (f : Slice UInt8 → Outcome String α) :
    parseMessage (Slice.ofList h.marshalBinary) contentID name f = .ok none := by
  have hp : ¬ h.payloadLength > 0 := mt hd.payloadLength_pos.mp (not_not.mpr rfl)
  have hlen : h.marshalBinary.length = 13 := by rw [length_marshalBinary, if_neg hp]
  have hexp : (h.length + msgLenSize).toNat = h.marshalBinary.length := by
    simpa using hd.length_add (by simp)
  have hu : Header.unmarshalBinary h.marshalBinary = .ok h := by
    simpa using unmarshalBinary_frame hd (by simp)
  have h13 : headerSizeWithoutPayload.toNat = 13 := rfl
  unfold parseMessage
  simp only [Slice.len_ofList, Slice.toList_ofList, hu, hd.valid, hexp, hp,
    show ¬ 2 ^ 32 ≤ h.marshalBinary.length by omega,
    show ¬ h.marshalBinary.length < headerSizeWithoutPayload.toNat by omega,
    Nat.lt_irrefl, ↓reduceIte]

/-! ## The decoders of the six messages on their frames -/

/-- The decoders of `GetBlockIDs` and `BlockIDs` read the IDs back from their frame, whichever
shortest frame up to 17 bytes they accept. -/
theorem unmarshalBlockIDsMessage_frame {name : String} {minSize : Nat} (hmin : minSize ≤ 17)
    {blocks : List BlockID} (hd : h.Describes fastHash contentID (blockIDsBody blocks))
    (hc : ∀ id ∈ blocks, id.Canonical) (hl : 17 + (blockIDsBody blocks).length < 2 ^ 32) :
    unmarshalBlockIDsMessage name contentID minSize
      (Slice.ofList (h.marshalBinary ++ blockIDsBody blocks)) = .ok blocks := by
  have hb := blockIDsBody_ne_nil blocks
  have hlen := length_frame hd
  rw [if_neg hb] at hlen
  have hu := unmarshalBlockIDs_blockIDsBody hc (blocks_length_lt hl) []
  rw [List.append_nil] at hu
  unfold unmarshalBlockIDsMessage
  simp only [Slice.len_ofList, Slice.toList_ofList, unmarshalBinary_frame hd hl, hd.valid,
    show ¬ 2 ^ 32 ≤ (h.marshalBinary ++ blockIDsBody blocks).length by omega,
    show ¬ (h.marshalBinary ++ blockIDsBody blocks).length < minSize by omega, ↓reduceIte,
    Slice.sliceFrom_ofList _
      (show headerSizeWithPayload.toNat ≤ (h.marshalBinary ++ blockIDsBody blocks).length by
        rw [hlen]; exact Nat.le_add_right 17 _),
    Outcome.bind_ok, drop_frame hd hb, hu]

theorem BlockID.Canonical.length_bytes {id : BlockID} (hid : id.Canonical) :
    id.bytes.length = signatureSize ∨ id.bytes.length = digestSize := by
  rcases hid with h | h <;> rw [h]
  · exact .inl (by simp [BlockID.bytes, newBlockIDFromSignature, signatureSize])
  · exact .inr (by simp [BlockID.bytes, newBlockIDFromDigest, digestSize])

theorem BlockID.Canonical.bytes_ne_nil {id : BlockID} (hid : id.Canonical) : id.bytes ≠ [] := by
  apply List.ne_nil_of_length_pos
  rcases hid.length_bytes with h | h <;> rw [h] <;> decide

theorem BlockID.Canonical.frame_lt {id : BlockID} (hid : id.Canonical ∨ id = BlockID.zero) :
    17 + id.bytes.length < 2 ^ 32 := by
  rcases hid with hid | rfl
  · rcases hid.length_bytes with h | h <;> rw [h] <;> decide
  · decide

/-- The decoders of `GetBlockSnapshot` and `MicroBlockSnapshotRequest` read the ID back from its
frame, and the zero ID from the frame without payload. -/
theorem unmarshalBlockIDMessage_frame {name wrap : String} {id : BlockID}
    (hd : h.Describes fastHash contentID id.bytes) (hid : id.Canonical ∨ id = BlockID.zero) :
    unmarshalBlockIDMessage name contentID wrap (Slice.ofList (h.marshalBinary ++ id.bytes)) =
      .ok id := by
  unfold unmarshalBlockIDMessage
  rcases hid with hid | rfl
  · rw [parseMessage_frame hd hid.bytes_ne_nil (BlockID.Canonical.frame_lt (.inl hid)) name id
      fun s hs => by
      rw [hs, newBlockIDFromBytes_bytes hid]]
    rfl
  · rw [show BlockID.zero.bytes = [] from rfl, List.append_nil]
    rw [show BlockID.zero.bytes = [] from rfl] at hd
    rw [parseMessage_frame_nil hd]
    rfl

/-- The decoders of `BlockSnapshot` and `MicroBlockSnapshot` read a non-empty snapshot back from
its frame. -/
theorem unmarshalSnapshotMessage_frame {name : String} (hd : h.Describes fastHash contentID body)
    (hb : body ≠ []) (hl : 17 + body.length < 2 ^ 32) :
    unmarshalSnapshotMessage name contentID (Slice.ofList (h.marshalBinary ++ body)) = .ok body := by
  obtain ⟨t, ht, htl, htlen⟩ := @slice_payload fastHash h contentID body String hd hb hl
  have hlen := length_frame hd
  rw [if_neg hb] at hlen
  have h17 : maxHeaderLength.toNat = 17 := rfl
  unfold unmarshalSnapshotMessage
  simp only [Slice.len_ofList, Slice.toList_ofList, unmarshalBinary_frame hd hl, hd.wire.magic,
    hd.contentID, show ¬ 2 ^ 32 ≤ (h.marshalBinary ++ body).length by omega,
    show ¬ (h.marshalBinary ++ body).length < maxHeaderLength.toNat by omega, ne_eq,
    not_true_eq_false, ↓reduceIte]
  rw [show maxHeaderLength = headerSizeWithPayload from rfl, ht, Outcome.bind_ok, htl, htlen,
    hd.payloadLength, Nat.sub_self, List.replicate_zero, List.append_nil]

theorem unmarshalMessageWith_frame {M : Type}
    {mp : PeerMessageID → Except String (Slice UInt8 → Outcome String M)}
    {u : Slice UInt8 → Outcome String M} (hd : h.Describes fastHash contentID body)
    (hl : 17 + body.length < 2 ^ 32) (hmp : mp contentID = .ok u) :
    unmarshalMessageWith mp (Slice.ofList (h.marshalBinary ++ body)) =
      u (Slice.ofList (h.marshalBinary ++ body)) := by
  have hlen := length_frame hd
  have h13 : headerSizeWithoutPayload.toNat = 13 := rfl
  unfold unmarshalMessageWith
  simp only [Slice.len_ofList, Slice.toList_ofList, getD_contentID_frame, hd.contentID, hmp,
    show ¬ 2 ^ 32 ≤ (h.marshalBinary ++ body).length by split at hlen <;> omega,
    show ¬ (h.marshalBinary ++ body).length < headerSizeWithoutPayload.toNat by
      split at hlen <;> omega, ↓reduceIte]

theorem readMessageFromWith_frame_nil {M : Type}
    {kinds : PeerMessageID → Except String (StreamKind M)} {k : StreamKind M}
    (hd : h.Describes fastHash contentID []) (hk : kinds contentID = .ok k) (rest : Bytes) :
    readMessageFromWith fastHash kinds (h.marshalBinary ++ rest) = .ok (k.message, rest) := by
  have hz : h.payloadLength = 0 := by
    have := mt hd.payloadLength_pos.mp (not_not.mpr rfl)
    simpa using this
  unfold readMessageFromWith
  simp only [readFrom_marshalBinary hd.wire, hd.contentID, hd.valid, hk, hz, Except.mapError,
    except_ok_bind, ↓reduceIte]
  rfl

/-- `ReadMessageFromWith` of a frame with a payload that the payload's reader reads to its end:
the checksum matches, and the rest of the stream is left. -/
theorem readMessageFromWith_frame {M : Type}
    {kinds : PeerMessageID → Except String (StreamKind M)} {k : StreamKind M}
    (hd : h.Describes fastHash contentID body) (hb : body ≠ []) (hk : kinds contentID = .ok k)
    {m : M} (hm : k.readPayload body = .ok (m, [])) (rest : Bytes) :
    readMessageFromWith fastHash kinds (h.marshalBinary ++ body ++ rest) = .ok (m, rest) := by
  have hnz : h.payloadLength ≠ 0 := by
    have hp := hd.payloadLength_pos.mpr hb
    intro hz
    rw [hz] at hp
    exact absurd hp (by decide)
  have htake : (body ++ rest).take h.payloadLength.toNat = body := by
    rw [hd.payloadLength]
    exact List.take_left
  have hdrop : (body ++ rest).drop h.payloadLength.toNat = rest := by
    rw [hd.payloadLength]
    exact List.drop_left
  rw [List.append_assoc]
  unfold readMessageFromWith
  simp only [readFrom_marshalBinary hd.wire, hd.contentID, hd.valid, hk, hnz, Except.mapError,
    except_ok_bind, ↓reduceIte, htake, hm, List.length_nil, Nat.sub_zero, List.take_length,
    ← hd.checksum hb, ne_eq, not_true_eq_false, List.nil_append, hdrop]
  rfl

end Frames

/-! ## Messages and their frames -/

/-- The content ID in the frame of a message. -/
def Message.contentID : Message → PeerMessageID
  | .getBlockIDs _ => contentIDGetBlockIDs
  | .blockIDs _ => contentIDBlockIDs
  | .getBlockSnapshot _ => contentIDGetBlockSnapshot
  | .microBlockSnapshotRequest _ => contentIDMicroBlockSnapshotRequest
  | .blockSnapshot _ => contentIDBlockSnapshot
  | .microBlockSnapshot _ => contentIDMicroBlockSnapshot

/-- The payload `MarshalBinary` puts after the header. -/
def Message.body : Message → Bytes
  | .getBlockIDs blocks | .blockIDs blocks => blockIDsBody blocks
  | .getBlockSnapshot id | .microBlockSnapshotRequest id => id.bytes
  | .blockSnapshot b | .microBlockSnapshot b => b

theorem marshalBinary_eq (fastHash : Bytes → Digest) (m : Message) :
    m.marshalBinary fastHash = marshalWithHeader fastHash m.contentID m.body := by
  cases m <;> rfl

instance (id : BlockID) : Decidable id.Canonical := by
  unfold BlockID.Canonical
  infer_instance

/-- The messages that `UnmarshalMessage` reads back from their `MarshalBinary`: IDs as
`NewBlockIDFromBytes` makes them (or, alone in a request, the zero ID), a snapshot that is not
empty, and a frame shorter than `2^32` bytes. -/
def Message.Valid : Message → Prop
  | .getBlockIDs blocks | .blockIDs blocks =>
    (∀ id ∈ blocks, id.Canonical) ∧ 17 + (blockIDsBody blocks).length < 2 ^ 32
  | .getBlockSnapshot id | .microBlockSnapshotRequest id => id.Canonical ∨ id = BlockID.zero
  | .blockSnapshot b | .microBlockSnapshot b => b ≠ [] ∧ 17 + b.length < 2 ^ 32

instance (m : Message) : Decidable m.Valid := by
  cases m <;> unfold Message.Valid <;> infer_instance

theorem Message.Valid.frame_lt {m : Message} (hm : m.Valid) : 17 + m.body.length < 2 ^ 32 := by
  cases m with
  | getBlockIDs _ | blockIDs _ => exact hm.2
  | getBlockSnapshot _ | microBlockSnapshotRequest _ => exact BlockID.Canonical.frame_lt hm
  | blockSnapshot _ | microBlockSnapshot _ => exact hm.2

theorem marshalBinary_ok (fastHash : Bytes → Digest) {m : Message}
    (hl : 17 + m.body.length < 2 ^ 32) :
    ∃ h : Header, m.marshalBinary fastHash = .ok (h.marshalBinary ++ m.body) ∧
      h.Describes fastHash m.contentID m.body := by
  obtain ⟨h, hh, hd⟩ := newHeader_ok fastHash m.contentID (show m.body.length < 2 ^ 32 by omega)
  exact ⟨h, by rw [marshalBinary_eq, marshalWithHeader, hh]; rfl, hd⟩

/-- `UnmarshalMessage` gives back every valid message from the bytes of its `MarshalBinary`. -/
theorem unmarshalMessage_marshalBinary (fastHash : Bytes → Digest) {m : Message} (hm : m.Valid) :
    ∃ frame, m.marshalBinary fastHash = .ok frame ∧ unmarshalMessage (Slice.ofList frame) = .ok m := by
  obtain ⟨h, hh, hd⟩ := marshalBinary_ok fastHash hm.frame_lt
  refine ⟨_, hh, ?_⟩
  unfold unmarshalMessage
  cases m <;> rw [unmarshalMessageWith_frame hd hm.frame_lt rfl] <;>
    simp only [Message.contentID, Message.body] at hd ⊢
  case getBlockIDs blocks =>
    show Message.getBlockIDs <$> GetBlockIDsMessage.unmarshalBinary _ = _
    rw [GetBlockIDsMessage.unmarshalBinary, unmarshalBlockIDsMessage_frame (by decide) hd hm.1 hm.2]
    rfl
  case blockIDs blocks =>
    show Message.blockIDs <$> BlockIDsMessage.unmarshalBinary _ = _
    rw [BlockIDsMessage.unmarshalBinary, unmarshalBlockIDsMessage_frame (by decide) hd hm.1 hm.2]
    rfl
  case getBlockSnapshot id =>
    show Message.getBlockSnapshot <$> GetBlockSnapshotMessage.unmarshalBinary _ = _
    rw [GetBlockSnapshotMessage.unmarshalBinary, unmarshalBlockIDMessage_frame hd hm]
    rfl
  case microBlockSnapshotRequest id =>
    show Message.microBlockSnapshotRequest <$> MicroBlockSnapshotRequestMessage.unmarshalBinary _ = _
    rw [MicroBlockSnapshotRequestMessage.unmarshalBinary, unmarshalBlockIDMessage_frame hd hm]
    rfl
  case blockSnapshot b =>
    show Message.blockSnapshot <$> BlockSnapshotMessage.unmarshalBinary _ = _
    rw [BlockSnapshotMessage.unmarshalBinary, unmarshalSnapshotMessage_frame hd hm.1 hm.2]
    rfl
  case microBlockSnapshot b =>
    show Message.microBlockSnapshot <$> MicroBlockSnapshotMessage.unmarshalBinary _ = _
    rw [MicroBlockSnapshotMessage.unmarshalBinary, unmarshalSnapshotMessage_frame hd hm.1 hm.2]
    rfl

theorem unmarshalMessage_marshalBinary_getBlockSnapshot :
    (Message.getBlockSnapshot (newBlockIDFromSignature (Vector.replicate 64 2))).Valid ∧
      ∃ frame, (Message.getBlockSnapshot (newBlockIDFromSignature (Vector.replicate 64 2))).marshalBinary
          (fun _ => Vector.replicate 32 0) = .ok frame ∧
        unmarshalMessage (Slice.ofList frame) =
          .ok (.getBlockSnapshot (newBlockIDFromSignature (Vector.replicate 64 2))) :=
  ⟨by decide, unmarshalMessage_marshalBinary _ (by decide)⟩

/-! ## The stream encoder and decoder -/

/-- The name each message's `WriteTo` gives `WriteMessage`. -/
def Message.name : Message → String
  | .getBlockIDs _ => "GetBlockIDsMessage"
  | .blockIDs _ => "BlockIDsMessage"
  | .getBlockSnapshot _ => "GetBlockSnapshotMessage"
  | .microBlockSnapshotRequest _ => "MicroBlockSnapshotRequestMessage"
  | .blockSnapshot _ => "BlockSnapshotMessage"
  | .microBlockSnapshot _ => "MicroBlockSnapshotMessage"

/-- What the `WriteTo` of each message's payload writes. -/
def Message.payloadWriteTo : Message → Except String Bytes
  | .getBlockIDs blocks | .blockIDs blocks => blockIDsPayloadWriteTo blocks
  | .getBlockSnapshot id | .microBlockSnapshotRequest id => id.writeTo
  | .blockSnapshot b | .microBlockSnapshot b => .ok b

theorem writeTo_eq (fastHash : Bytes → Digest) (m : Message) :
    m.writeTo fastHash = writeMessage fastHash m.contentID m.name m.payloadWriteTo := by
  cases m <;> rfl

theorem writeMessage_eq_ok {fastHash : Bytes → Digest} {contentID : PeerMessageID} {name : String}
    {payload : Except String Bytes} {frame : Bytes} :
    writeMessage fastHash contentID name payload = .ok frame ↔
      ∃ body, payload = .ok body ∧ marshalWithHeader fastHash contentID body = .ok frame := by
  unfold writeMessage marshalWithHeader
  cases payload with
  | error e => simp [Except.mapError]
  | ok body =>
    cases hh : newHeader fastHash contentID body <;>
      simp [Except.mapError, hh]

theorem blockIDsPayloadWriteTo_ok {blocks : List BlockID} {body : Bytes}
    (h : blockIDsPayloadWriteTo blocks = .ok body) : body = blockIDsBody blocks := by
  have hone : ∀ id b, writeSizedBlockID id = .ok b → b = idBytes id := by
    intro id b hb
    unfold writeSizedBlockID at hb
    split at hb <;> rename_i ht <;> cases hb <;>
      simp [idBytes, BlockID.bytes, ht, signatureSize, digestSize]
  unfold blockIDsPayloadWriteTo at h
  split at h
  · cases h
  · obtain ⟨ids, hids, rfl⟩ : ∃ ids, blocks.mapM writeSizedBlockID = .ok ids ∧
        body = putUint32 (UInt32.ofNat blocks.length) ++ ids.flatten := by
      cases hm : blocks.mapM writeSizedBlockID <;> simp_all
    rw [mapM_eq_ok_imp hone blocks hids, blockIDsBody, List.flatMap_def]

theorem BlockID.writeTo_ok {id : BlockID} {body : Bytes} (h : id.writeTo = .ok body) :
    body = id.bytes := by
  unfold BlockID.writeTo at h
  split at h <;> rename_i ht <;> cases h <;> simp [BlockID.bytes, ht]

theorem payloadWriteTo_ok {m : Message} {body : Bytes} (h : m.payloadWriteTo = .ok body) :
    body = m.body := by
  cases m with
  | getBlockIDs _ => exact blockIDsPayloadWriteTo_ok h
  | blockIDs _ => exact blockIDsPayloadWriteTo_ok h
  | getBlockSnapshot _ => exact BlockID.writeTo_ok h
  | microBlockSnapshotRequest _ => exact BlockID.writeTo_ok h
  | blockSnapshot _ => exact (Except.ok.inj h).symm
  | microBlockSnapshot _ => exact (Except.ok.inj h).symm

/-- What `WriteTo` writes, `MarshalBinary` writes too. -/
theorem writeTo_eq_marshalBinary (fastHash : Bytes → Digest) {m : Message} {frame : Bytes}
    (h : m.writeTo fastHash = .ok frame) : m.marshalBinary fastHash = .ok frame := by
  rw [writeTo_eq] at h
  obtain ⟨body, hp, hf⟩ := writeMessage_eq_ok.mp h
  rw [payloadWriteTo_ok hp] at hf
  rw [marshalBinary_eq]
  exact hf

theorem writeTo_eq_marshalBinary_blockIDs :
    ∃ frame, (Message.blockIDs [newBlockIDFromDigest (Vector.replicate 32 1)]).writeTo
        (fun _ => Vector.replicate 32 0) = .ok frame ∧
      (Message.blockIDs [newBlockIDFromDigest (Vector.replicate 32 1)]).marshalBinary
        (fun _ => Vector.replicate 32 0) = .ok frame :=
  ⟨_, rfl, writeTo_eq_marshalBinary _ rfl⟩

/-- The messages whose `WriteTo` succeeds and that `ReadMessageFrom` reads back: initialized
IDs as `NewBlockIDFromBytes` makes them, and a frame shorter than `2^32` bytes. -/
def Message.Streamed : Message → Prop
  | .getBlockIDs blocks | .blockIDs blocks =>
    (∀ id ∈ blocks, id.Canonical) ∧ 17 + (blockIDsBody blocks).length < 2 ^ 32
  | .getBlockSnapshot id | .microBlockSnapshotRequest id => id.Canonical
  | .blockSnapshot b | .microBlockSnapshot b => 17 + b.length < 2 ^ 32

instance (m : Message) : Decidable m.Streamed := by
  cases m <;> unfold Message.Streamed <;> infer_instance

theorem Message.Streamed.frame_lt {m : Message} (hm : m.Streamed) : 17 + m.body.length < 2 ^ 32 := by
  cases m with
  | getBlockIDs _ | blockIDs _ => exact hm.2
  | getBlockSnapshot _ | microBlockSnapshotRequest _ => exact BlockID.Canonical.frame_lt (.inl hm)
  | blockSnapshot _ | microBlockSnapshot _ => exact hm

theorem writeTo_blockID {id : BlockID} (hid : id.Canonical) : id.writeTo = .ok id.bytes := by
  rcases hid with h | h <;> rw [h] <;> rfl

theorem Message.Streamed.payloadWriteTo {m : Message} (hm : m.Streamed) :
    m.payloadWriteTo = .ok m.body := by
  cases m with
  | getBlockIDs blocks | blockIDs blocks =>
    have hlen := length_blockIDsBody blocks
    have hl := hm.2
    exact blockIDsPayloadWriteTo_eq hm.1 (by omega)
  | getBlockSnapshot _ | microBlockSnapshotRequest _ => exact writeTo_blockID hm
  | blockSnapshot _ | microBlockSnapshot _ => rfl

@[simp] theorem arrayOf_replicate_zero (n k : Nat) :
    arrayOf n (List.replicate k 0) = Vector.replicate n 0 := by
  apply Vector.ext
  intro i hi
  simp [arrayOf, List.getD_eq_getElem?_getD, List.getElem?_replicate]
  split <;> rfl

theorem readPayload_streamKind {P : Type} {mk : P → Message} {empty : P}
    {readFrom : Bytes → Except String (P × Bytes)} {r rest : Bytes} {p : P}
    (h : readFrom r = .ok (p, rest)) :
    (streamKind mk empty readFrom).readPayload r = .ok (mk p, rest) := by
  simp only [streamKind, h]
  rfl

theorem blockIDReadUndefinedFrom_bytes {id : BlockID} (hid : id.Canonical) :
    blockIDReadUndefinedFrom id.bytes = .ok (id, []) := by
  unfold blockIDReadUndefinedFrom
  dsimp only
  rcases hid with h | h <;> rw [h]
  · have hb : (newBlockIDFromSignature id.sig).bytes = id.sig.toList := rfl
    have hl : id.sig.toList.length = 64 := by simp
    rw [hb, List.take_of_length_le (by rw [hl]; rfl), readIDBytes,
      readFull_of_le (by decide) (by rw [hl]; decide)]
    simp only [Except.mapError, signatureSize, digestSize, List.length_drop, hl,
      List.take_append_drop, arrayOf_toList, List.drop_of_length_le (le_of_eq hl)]
    rfl
  · have hb : (newBlockIDFromDigest id.dig).bytes = id.dig.toList := rfl
    have hl : id.dig.toList.length = 32 := by simp
    rw [hb, List.take_of_length_le (by rw [hl]; decide), readIDBytes,
      readFull_of_le (by decide) (by rw [hl]; rfl)]
    simp only [Except.mapError, digestSize, List.take_of_length_le (le_of_eq hl),
      List.drop_of_length_le (le_of_eq hl), List.length_nil, List.append_nil, arrayOf_replicate_zero,
      arrayOf_toList]
    rfl

/-- `ReadMessageFrom` reads back every streamed message from the bytes of its `WriteTo`, and
leaves the rest of the stream. -/
theorem readMessageFrom_writeTo (fastHash : Bytes → Digest) {m : Message} (hm : m.Streamed) :
    ∃ frame, m.writeTo fastHash = .ok frame ∧
      ∀ rest, readMessageFrom fastHash (frame ++ rest) = .ok (m, rest) := by
  obtain ⟨h, hh, hd⟩ := marshalBinary_ok fastHash hm.frame_lt
  refine ⟨_, by rw [writeTo_eq]; exact writeMessage_eq_ok.mpr ⟨_, hm.payloadWriteTo,
    by rw [← marshalBinary_eq]; exact hh⟩, fun rest => ?_⟩
  unfold readMessageFrom
  cases m <;> simp only [Message.contentID, Message.body, Message.Streamed] at hd hm ⊢
  case getBlockIDs blocks =>
    have hr := blockIDsPayloadReadFrom_blockIDsBody hm.1 (blocks_length_lt hm.2) []
    rw [List.append_nil] at hr
    exact readMessageFromWith_frame hd (blockIDsBody_ne_nil blocks) rfl
      (readPayload_streamKind hr) rest
  case blockIDs blocks =>
    have hr := blockIDsPayloadReadFrom_blockIDsBody hm.1 (blocks_length_lt hm.2) []
    rw [List.append_nil] at hr
    exact readMessageFromWith_frame hd (blockIDsBody_ne_nil blocks) rfl
      (readPayload_streamKind hr) rest
  case getBlockSnapshot id =>
    exact readMessageFromWith_frame hd hm.bytes_ne_nil rfl
      (readPayload_streamKind (blockIDReadUndefinedFrom_bytes hm)) rest
  case microBlockSnapshotRequest id =>
    exact readMessageFromWith_frame hd hm.bytes_ne_nil rfl
      (readPayload_streamKind (blockIDReadUndefinedFrom_bytes hm)) rest
  case blockSnapshot b =>
    by_cases hb : b = []
    · subst hb
      rw [List.append_nil]
      have hk : createStreamKind contentIDBlockSnapshot =
          .ok (streamKind Message.blockSnapshot [] bytesPayloadReadFrom) := rfl
      exact readMessageFromWith_frame_nil hd hk rest
    · exact readMessageFromWith_frame hd hb rfl (readPayload_streamKind rfl) rest
  case microBlockSnapshot b =>
    by_cases hb : b = []
    · subst hb
      rw [List.append_nil]
      have hk : createStreamKind contentIDMicroBlockSnapshot =
          .ok (streamKind Message.microBlockSnapshot [] bytesPayloadReadFrom) := rfl
      exact readMessageFromWith_frame_nil hd hk rest
    · exact readMessageFromWith_frame hd hb rfl (readPayload_streamKind rfl) rest

theorem readMessageFrom_writeTo_getBlockIDs :
    (Message.getBlockIDs [newBlockIDFromDigest (Vector.replicate 32 1)]).Streamed ∧
      ∃ frame, (Message.getBlockIDs [newBlockIDFromDigest (Vector.replicate 32 1)]).writeTo
          (fun _ => Vector.replicate 32 0) = .ok frame ∧
        ∀ rest, readMessageFrom (fun _ => Vector.replicate 32 0) (frame ++ rest) =
          .ok (.getBlockIDs [newBlockIDFromDigest (Vector.replicate 32 1)], rest) :=
  ⟨by decide, readMessageFrom_writeTo _ (by decide)⟩

/-! ## Frames the decoders of the peer do not agree on -/

/-- A `GetBlockIDs` frame without payload: `MSG_LEN` 9, the magic, content ID 32,
`PAYLOAD_LEN` 0. -/
def shortGetBlockIDsFrame : Bytes := [0, 0, 0, 9, 0x12, 0x34, 0x56, 0x78, 32, 0, 0, 0, 0]

/-- A `GetBlockSnapshot` frame with `PAYLOAD_LEN` `2^32 - 13` and `MSG_LEN` 0, which is
`17 + PAYLOAD_LEN - 4` in `uint32`. -/
def wrappedGetBlockSnapshotFrame : Bytes :=
  [0, 0, 0, 0, 0x12, 0x34, 0x56, 0x78, 34, 0xFF, 0xFF, 0xFF, 0xF3, 0, 0, 0, 0]

theorem unmarshalBinary_length {data : Bytes} {h : Header}
    (hh : Header.unmarshalBinary data = .ok h) :
    13 ≤ data.length ∧ data.length < 2 ^ 32 ∧ (h.payloadLength > 0 → 17 ≤ data.length) := by
  have h13 : headerSizeWithoutPayload.toNat = 13 := rfl
  have h17 : headerSizeWithPayload.toNat = 17 := rfl
  unfold Header.unmarshalBinary at hh
  dsimp only at hh
  split_ifs at hh with h₁ h₂ h₃ h₄ h₅
  · cases hh
    exact ⟨by omega, by omega, fun _ => by omega⟩
  · cases hh
    exact ⟨by omega, by omega, fun hp => absurd hp h₄⟩

/-- On a frame of 13 to 16 bytes with a valid header, `GetBlockIDsMessage.UnmarshalBinary`,
which checks for 13 bytes only, panics cutting the frame at byte 17. -/
theorem getBlockIDs_unmarshalBinary_short {data : Slice UInt8} {h : Header}
    (hh : Header.unmarshalBinary data.toList = .ok h) (hv : h.validate contentIDGetBlockIDs = .ok ())
    (h17 : data.len < 17) :
    GetBlockIDsMessage.unmarshalBinary data = .panic (Slice.sliceOrderPanic 17 data.len) := by
  obtain ⟨h13, hlt, -⟩ := unmarshalBinary_length hh
  rw [Slice.length_toList] at h13 hlt
  have hmin : headerSizeWithoutPayload.toNat = 13 := rfl
  unfold GetBlockIDsMessage.unmarshalBinary unmarshalBlockIDsMessage
  simp only [hh, hv, show ¬ 2 ^ 32 ≤ data.len by omega,
    show ¬ data.len < headerSizeWithoutPayload.toNat by omega, ↓reduceIte]
  rw [Slice.sliceFrom_panic data (show data.len < headerSizeWithPayload.toNat from h17),
    Outcome.bind_panic]
  rfl

theorem getBlockIDs_unmarshalBinary_shortFrame :
    GetBlockIDsMessage.unmarshalBinary (Slice.ofList shortGetBlockIDsFrame) =
      .panic (Slice.sliceOrderPanic 17 13) :=
  @getBlockIDs_unmarshalBinary_short (Slice.ofList shortGetBlockIDsFrame)
    ⟨9, headerMagic, contentIDGetBlockIDs, 0, Vector.replicate 4 0⟩ rfl rfl (by decide)

/-- A `PAYLOAD_LEN` for which `17 + PAYLOAD_LEN` wraps around in `uint32` passes `Validate` with a
`MSG_LEN` that wraps the same way, and `ParseMessage` then cuts the frame at reversed bounds. -/
theorem parseMessage_wrapped {α : Type} {data : Slice UInt8} {contentID : PeerMessageID}
    {name : String} {f : Slice UInt8 → Outcome String α} {h : Header}
    (hh : Header.unmarshalBinary data.toList = .ok h) (hv : h.validate contentID = .ok ())
    (hwrap : 2 ^ 32 ≤ 17 + h.payloadLength.toNat) :
    parseMessage data contentID name f =
      .panic (Slice.sliceOrderPanic 17 (17 + h.payloadLength.toNat - 2 ^ 32)) := by
  have hpl := h.payloadLength.toNat_lt
  have hp : h.payloadLength > 0 := by
    rw [gt_iff_lt, UInt32.lt_iff_toNat_lt, UInt32.toNat_zero]
    omega
  obtain ⟨-, hlt, h17⟩ := unmarshalBinary_length hh
  rw [Slice.length_toList] at hlt h17
  have h17 := h17 hp
  -- both the frame length and the end of the payload wrap below 17
  have hexp : (h.length + msgLenSize).toNat = 17 + h.payloadLength.toNat - 2 ^ 32 := by
    rw [validate_length hv, headerLength_toNat, if_pos hp, Nat.mod_eq_sub_mod hwrap,
      Nat.mod_eq_of_lt (by omega)]
  have hend : (headerSizeWithPayload + h.payloadLength).toNat =
      17 + h.payloadLength.toNat - 2 ^ 32 := by
    rw [UInt32.toNat_add, show headerSizeWithPayload.toNat = 17 from rfl,
      Nat.mod_eq_sub_mod hwrap, Nat.mod_eq_of_lt (by omega)]
  have hcap := data.len_le
  have h13 : headerSizeWithoutPayload.toNat = 13 := rfl
  unfold parseMessage
  simp only [hh, hv, hexp, hp, show ¬ 2 ^ 32 ≤ data.len by omega,
    show ¬ data.len < headerSizeWithoutPayload.toNat by omega,
    show ¬ data.len < 17 + h.payloadLength.toNat - 2 ^ 32 by omega, ↓reduceIte]
  rw [hend, Slice.slice_order_panic data (by unfold Slice.cap; omega)
    (show 17 + h.payloadLength.toNat - 2 ^ 32 < headerSizeWithPayload.toNat by
      rw [show headerSizeWithPayload.toNat = 17 from rfl]; omega), Outcome.bind_panic]
  rfl

theorem parseMessage_wrappedFrame :
    parseMessage (Slice.ofList wrappedGetBlockSnapshotFrame) contentIDGetBlockSnapshot
        "GetBlockSnapshotMessage" (fun _ => (.ok () : Outcome String Unit)) =
      .panic (Slice.sliceOrderPanic 17 4) :=
  @parseMessage_wrapped Unit (Slice.ofList wrappedGetBlockSnapshotFrame) contentIDGetBlockSnapshot
    "GetBlockSnapshotMessage" (fun _ => .ok ())
    ⟨0, headerMagic, contentIDGetBlockSnapshot, 0xFFFFFFF3, Vector.replicate 4 0⟩ (by decide) rfl
    (by decide)

theorem unmarshalMessage_shortFrames (fastHash : Bytes → Digest) :
    unmarshalMessage (Slice.ofList shortGetBlockIDsFrame) =
        .panic "runtime error: slice bounds out of range [17:13]" ∧
      readMessageFrom fastHash shortGetBlockIDsFrame = .ok (.getBlockIDs [], []) ∧
      unmarshalMessage (Slice.ofList wrappedGetBlockSnapshotFrame) =
        .panic "runtime error: slice bounds out of range [17:4]" :=
  ⟨rfl, rfl, rfl⟩

/-- The frame of an empty snapshot: a header without payload. -/
def emptyBlockSnapshotFrame : Bytes := [0, 0, 0, 9, 0x12, 0x34, 0x56, 0x78, 36, 0, 0, 0, 0]

theorem unmarshalMessage_emptyBlockSnapshot (fastHash : Bytes → Digest) :
    Message.marshalBinary fastHash (.blockSnapshot []) = .ok emptyBlockSnapshotFrame ∧
      Message.writeTo fastHash (.blockSnapshot []) = .ok emptyBlockSnapshotFrame ∧
      unmarshalMessage (Slice.ofList emptyBlockSnapshotFrame) =
        .error "BlockSnapshotMessage UnmarshalBinary: invalid data size" ∧
      readMessageFrom fastHash emptyBlockSnapshotFrame = .ok (.blockSnapshot [], []) :=
  ⟨rfl, rfl, rfl, rfl⟩

end Gowaves.Proto
