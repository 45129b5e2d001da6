import Gowaves.Ride.ScriptRoundTrip

/-!
# `Parse` on lengths it cannot honour

`readBytes` passes the `int32` it reads straight to `make`, and then to `(*bytes.Reader).Read`
without looking at how much was read; `Parse` has no `recover`.  A correct checksum does not
guard either path, since anyone can compute it.  For every hash function, every library
version `1` … `8` and every length:

* `parse_negativeLength` — a string whose length reads as a negative `int32` (in format V1 four
  bytes from `80 00 00 00` on, in format V2 a varint whose `int64` image lies in
  `[MinInt32, 0)`) makes `Parse` panic in `make`;
* `parse_padsShortBytes` — a byte vector whose length runs past the end of the script is read
  from the checksum and filled up with zeros: the tree holds `k - 4` bytes that the script
  does not contain.

A run that panics is followed with `Panics`, the counterpart of `Reads`.
-/

set_option autoImplicit false

namespace Gowaves.Ride.Serialization

open GoLib GoLib.Reader Gowaves.Ride.Serialization.Parser

/-! ## Panicking after a read -/

/-- `p` panics with `r` after reading the front `bs` of its input. -/
def Panics {α : Type} (p : Parser α) (r : String) (bs : Bytes) : Prop :=
  ∀ rest s, ∃ s', p ⟨bs ++ rest, s⟩ = (.panic r, ⟨rest, s'⟩)

namespace Panics

variable {α β : Type}

theorem lift (r : String) : Panics (StOutcome.lift (.panic r) : Parser α) r [] :=
  fun _ s => ⟨s, rfl⟩

theorem bind {p : Parser α} {r : String} {bs : Bytes} (h : Panics p r bs)
    (f : α → Parser β) : Panics (p >>= f) r bs := by
  intro rest s
  obtain ⟨s', e⟩ := h rest s
  exact ⟨s', by rw [StOutcome.bind_run, StOutcome.bind, e]⟩

theorem of_eq {p : Parser α} {r : String} {bs bs' : Bytes} (h : Panics p r bs) (e : bs = bs') :
    Panics p r bs' := e ▸ h

end Panics

theorem Reads.bind_panics {α β : Type} {p : Parser α} {f : α → Parser β} {a : α} {r : String}
    {bs₁ bs₂ : Bytes} (h₁ : Reads p a bs₁) (h₂ : Panics (f a) r bs₂) :
    Panics (p >>= f) r (bs₁ ++ bs₂) := by
  intro rest s
  obtain ⟨s₁, e₁⟩ := h₁ (bs₂ ++ rest) s
  obtain ⟨s₂, e₂⟩ := h₂ rest s₁
  exact ⟨s₂, by rw [List.append_assoc, StOutcome.bind_run_ok e₁, e₂]⟩

/-! ## Signed lengths -/

/-- The bytes that `readInt` reads as the `int32` `n`: in format V1 its bits as a big-endian
`uint32`, in format V2 the varint of its bits as a `uint64`, whose `int64` image is `n`. -/
def int32Bytes : Mode → Int32 → Bytes
  | .v1, n => BigEndian.toBytes 4 n.toUInt32.toNat
  | .v2, n => putUvarint n.toInt64.toUInt64.toNat

theorem ofNat_toUInt32_toNat (n : Int32) : Int32.ofNat n.toUInt32.toNat = n := by
  apply Int32.toBitVec.inj
  simp

theorem ofNat_toInt64_toUInt64_toNat (n : Int32) : Int32.ofNat n.toInt64.toUInt64.toNat = n := by
  apply Int32.toBitVec.inj
  simp only [Int32.toBitVec_ofNat',
    show n.toInt64.toUInt64.toNat = n.toInt64.toBitVec.toNat from rfl, BitVec.ofNat_toNat]
  ext i hi
  simp [Int32.toBitVec_toInt64, BitVec.getLsbD_signExtend, hi]
  omega

theorem reads_readInt_int32 (m : Mode) (n : Int32) : Reads (readInt m) n (int32Bytes m n) := by
  cases m with
  | v1 =>
    have hlt : n.toUInt32.toNat < 256 ^ 4 := by simpa using n.toUInt32.toNat_lt
    have h : Reads (liftRead (readFull 4)) (BigEndian.toBytes 4 n.toUInt32.toNat)
        (BigEndian.toBytes 4 n.toUInt32.toNat) := reads_liftRead fun rest =>
      BigEndian.length_toBytes 4 n.toUInt32.toNat ▸ readFull_append _ rest
    have := h.map fun b => Int32.ofNat (BigEndian.ofBytes b)
    rw [BigEndian.ofBytes_toBytes_of_lt hlt, ofNat_toUInt32_toNat] at this
    exact this
  | v2 =>
    have h : Reads (liftRead readUvarint) n.toInt64.toUInt64.toNat
        (putUvarint n.toInt64.toUInt64.toNat) :=
      reads_liftRead fun rest => readUvarint_putUvarint _ n.toInt64.toUInt64.toNat_lt rest
    have hrange : ¬ ((Int64.ofNat n.toInt64.toUInt64.toNat).toInt < -2 ^ 31 ∨
        2 ^ 31 - 1 < (Int64.ofNat n.toInt64.toUInt64.toNat).toInt) := by
      rw [ofNat_toUInt64_toNat, Int32.toInt_toInt64]
      have := Int32.le_toInt n
      have := Int32.toInt_lt n
      omega
    refine Reads.bind_nil h ?_
    show Reads (if _ then _ else _) _ []
    rw [if_neg hrange, ofNat_toInt64_toUInt64_toNat]
    exact Reads.pure _

theorem panics_readBytes (m : Mode) {n : Int32} (hn : n < 0) :
    Panics (readBytes m) makesliceLen (int32Bytes m n) := by
  refine ((reads_readInt_int32 m n).bind_panics ?_).of_eq (List.append_nil _)
  show Panics (if _ then _ else _) makesliceLen []
  rw [if_pos hn]
  exact Panics.lift makesliceLen

theorem panics_tokenString (m : Mode) (next : Parser Node) {n : Int32} (hn : n < 0) :
    Panics (parseNextWith m next) makesliceLen (tokenString :: int32Bytes m n) :=
  (reads_readByte tokenString).bind_panics ((panics_readBytes m hn).bind _)

/-! ## Short reads -/

theorem readBytes_short (m : Mode) {k : Nat} (hk : k < 2 ^ 31) {tail : Bytes}
    (hne : tail ≠ []) (hlt : tail.length < k) (s : Bool) :
    ∃ s', readBytes m ⟨writeUint32 m (UInt32.ofNat k) ++ tail, s⟩ =
      (.ok (tail ++ List.replicate (k - tail.length) 0), ⟨[], s'⟩) := by
  obtain ⟨s₁, e₁⟩ := reads_readInt m hk tail s
  refine ⟨s₁, ?_⟩
  have hk0 : Int32.ofNat k ≠ 0 := by
    rw [Ne, ofNat_eq_zero_iff hk]
    omega
  have hread : Reader.read k tail = .ok (tail, []) := by
    obtain ⟨b, bs, rfl⟩ := List.exists_cons_of_ne_nil hne
    simp [Reader.read, List.take_of_length_le hlt.le, List.drop_of_length_le hlt.le]
  have hr : liftRead (Reader.read k) ⟨tail, s₁⟩ = (.ok tail, ⟨[], s₁⟩) := by
    simp [liftRead, hread]
  rw [readBytes, StOutcome.bind_run_ok e₁, if_neg (not_ofNat_lt_zero hk), if_neg hk0,
    Int32.toNatClampNeg_ofNat_of_lt hk]
  show (liftRead (Reader.read k) >>= fun bs => pure _) _ = _
  rw [StOutcome.bind_run_ok hr]
  rfl

/-! ## Scripts -/

/-- The header that `serializeScript` writes for an expression of library version `lv`. -/
def expressionHeader (lv : UInt8) : Bytes :=
  match modeOf lv with
  | .v1 => [lv]
  | .v2 => [lv, contentTypeExpression]

theorem parseHeader_expressionHeader {lv : UInt8} (h1 : 1 ≤ lv) (h8 : lv ≤ 8) (rest : Bytes) :
    parseHeader (expressionHeader lv ++ rest) =
      .ok (⟨contentTypeExpression, lv⟩, modeOf lv, rest) := by
  unfold expressionHeader
  split
  · next hm =>
    rw [hm]
    exact parseHeader_v1Expression h1 (modeOf_eq_v1.mp hm) rest
  · next hm =>
    rw [hm]
    exact parseHeader_v2 (modeOf_eq_v2.mp hm) h8 (.inl rfl) rest

/-- The body with the checksum `SerializeTree` appends to it. -/
def withCheckSum (secureHash : Bytes → Digest) (body : Bytes) : Bytes :=
  body ++ (secureHash body).toList.take 4

/-- An expression script whose verifier starts as a string of length `n`, followed by any
bytes. -/
def negativeLengthBody (lv : UInt8) (n : Int32) (rest : Bytes) : Bytes :=
  expressionHeader lv ++ tokenString :: int32Bytes (modeOf lv) n ++ rest

theorem parseExpression_panics {lv : UInt8} {m : Mode} {r : String}
    {bs : Bytes} (fuel : Nat) (id : Digest) (h : Panics (parseNextWith m (parseNext m fuel)) r bs)
    (rest : Bytes) (s : Bool) :
    (Parser.parse m (fuel + 1) ⟨contentTypeExpression, lv⟩ id ⟨bs ++ rest, s⟩).1 = .panic r := by
  obtain ⟨s', e⟩ := (h.bind fun node => StOutcome.get >>= fun st => pure
    { Tree.new contentTypeExpression lv with
      verifier := some node, hasBlockV2 := st.seenBlockV2, digest := id.toList }) rest s
  rw [Parser.parse, if_pos rfl]
  exact congrArg Prod.fst e

/-- **`Parse` panics on a negative length**: for every hash function, every library version
`1` … `8`, every negative `int32` length of the verifier's string and every bytes after it, the
script with its correct checksum makes `Parse` panic in `make`. -/
theorem parse_negativeLength (secureHash sha256 : Bytes → Digest) {lv : UInt8} (h1 : 1 ≤ lv)
    (h8 : lv ≤ 8) {n : Int32} (hn : n < 0) (rest : Bytes) :
    parse secureHash sha256 (withCheckSum secureHash (negativeLengthBody lv n rest)) =
      .panic makesliceLen := by
  rw [withCheckSum]
  set body := negativeLengthBody lv n rest with hbody
  set cs := (secureHash body).toList.take 4
  have hsum : verifyCheckSum secureHash (body ++ cs) = .ok true :=
    verifyCheckSum_append secureHash (by simp [hbody, negativeLengthBody])
  have hhdr : parseHeader (body ++ cs) = .ok (⟨contentTypeExpression, lv⟩, modeOf lv,
      (tokenString :: int32Bytes (modeOf lv) n) ++ (rest ++ cs)) := by
    rw [hbody, negativeLengthBody, List.append_assoc]
    simpa using parseHeader_expressionHeader h1 h8 _
  obtain ⟨fuel, hfuel⟩ : ∃ fuel, (body ++ cs).length = fuel + 1 :=
    ⟨(body ++ cs).length - 1, by simp [hbody, negativeLengthBody]; omega⟩
  simp only [parse, hsum, hhdr, hfuel]
  exact parseExpression_panics fuel _ (panics_tokenString (modeOf lv) _ hn) _ false

theorem parse_negativeLength_zeroHash :
    (1 : UInt8) ≤ 3 ∧ (3 : UInt8) ≤ 8 ∧ (-1 : Int32) < 0 ∧
      parse zeroHash zeroHash (withCheckSum zeroHash (negativeLengthBody 3 (-1) [])) =
        .panic makesliceLen :=
  ⟨by decide, by decide, by decide,
    parse_negativeLength zeroHash zeroHash (by decide) (by decide) (by decide) []⟩

/-- An expression script whose verifier is a byte vector of length `k`, with none of its
bytes. -/
def shortBytesBody (lv : UInt8) (k : Nat) : Bytes :=
  expressionHeader lv ++ tokenBytes :: writeUint32 (modeOf lv) (UInt32.ofNat k)

theorem parseNext_shortBytes (m : Mode) (fuel : Nat) {k : Nat} (hk : k < 2 ^ 31) {tail : Bytes}
    (hne : tail ≠ []) (hlt : tail.length < k) (s : Bool) :
    ∃ s', parseNext m (fuel + 1) ⟨tokenBytes :: writeUint32 m (UInt32.ofNat k) ++ tail, s⟩ =
      (.ok (.bytesNode (tail ++ List.replicate (k - tail.length) 0)), ⟨[], s'⟩) := by
  obtain ⟨s', e⟩ := readBytes_short m hk hne hlt s
  refine ⟨s', ?_⟩
  have hb : readByte ⟨tokenBytes :: writeUint32 m (UInt32.ofNat k) ++ tail, s⟩ =
      (.ok tokenBytes, ⟨writeUint32 m (UInt32.ofNat k) ++ tail, s⟩) := rfl
  have ht : parseToken m (parseNext m fuel) tokenBytes =
      (readBytes m >>= fun v => pure (Node.bytesNode v)) := rfl
  rw [parseNext, parseNextWith, StOutcome.bind_run_ok hb, ht, StOutcome.bind_run_ok e]
  rfl

/-- **`Parse` fills a short byte vector with zeros**: for every hash function, every library
version `1` … `8` and every length `k` from `5` to `MaxInt32`, the script whose verifier is a
byte vector of length `k` with no bytes after the length parses, and its verifier holds the
four bytes of the checksum followed by `k - 4` zeros that the script does not contain. -/
theorem parse_padsShortBytes (secureHash sha256 : Bytes → Digest) {lv : UInt8} (h1 : 1 ≤ lv)
    (h8 : lv ≤ 8) {k : Nat} (hk4 : 4 < k) (hk : k < 2 ^ 31) :
    ∃ t, parse secureHash sha256 (withCheckSum secureHash (shortBytesBody lv k)) = .ok t ∧
      t.verifier = some (.bytesNode ((secureHash (shortBytesBody lv k)).toList.take 4 ++
        List.replicate (k - 4) 0)) := by
  rw [withCheckSum]
  set body := shortBytesBody lv k with hbody
  set cs := (secureHash body).toList.take 4 with hcs
  have hcs4 : cs.length = 4 := by simp [hcs]
  have hsum : verifyCheckSum secureHash (body ++ cs) = .ok true :=
    verifyCheckSum_append secureHash (by simp [hbody, shortBytesBody])
  have hhdr : parseHeader (body ++ cs) = .ok (⟨contentTypeExpression, lv⟩, modeOf lv,
      (tokenBytes :: writeUint32 (modeOf lv) (UInt32.ofNat k)) ++ cs) := by
    rw [hbody, shortBytesBody, List.append_assoc]
    simpa using parseHeader_expressionHeader h1 h8 _
  obtain ⟨fuel, hfuel⟩ : ∃ fuel, (body ++ cs).length = fuel + 1 :=
    ⟨(body ++ cs).length - 1, by simp [hbody, shortBytesBody]; omega⟩
  obtain ⟨s', e⟩ := parseNext_shortBytes (modeOf lv) fuel hk
    (List.ne_nil_of_length_pos (by omega : 0 < cs.length)) (by omega : cs.length < k) false
  rw [hcs4] at e
  refine ⟨{ Tree.new contentTypeExpression lv with
    verifier := some (.bytesNode (cs ++ List.replicate (k - 4) 0))
    hasBlockV2 := s'
    digest := (sha256 (body ++ cs)).toList }, ?_, rfl⟩
  simp only [parse, hsum, hhdr, hfuel]
  rw [Parser.parse, if_pos rfl, parseExpression, StOutcome.bind_run_ok e]
  rfl

theorem parse_padsShortBytes_zeroHash :
    (1 : UInt8) ≤ 3 ∧ (3 : UInt8) ≤ 8 ∧ 4 < 6 ∧ 6 < 2 ^ 31 ∧
      ∃ t, parse zeroHash zeroHash (withCheckSum zeroHash (shortBytesBody 3 6)) = .ok t ∧
        t.verifier = some (.bytesNode [0, 0, 0, 0, 0, 0]) :=
  ⟨by decide, by decide, by decide, by decide,
    parse_padsShortBytes zeroHash zeroHash (by decide) (by decide) (by decide) (by decide)⟩

end Gowaves.Ride.Serialization
