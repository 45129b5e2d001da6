import Gowaves.GoLib.Reader
import Gowaves.GoLib.Outcome

/-!
# The protobuf wire format, as generated `UnmarshalVT` decoders read it

A protobuf message is a sequence of fields, each a varint tag `number * 8 + wireType` and a
payload: a varint (wire type 0) or a length-prefixed byte string (wire type 2, used for bytes,
strings and sub-messages).  The decoders that `vtprotobuf` generates share one shape, which this
module states once for every message type:

* `readVarint` — the generated varint loop: at most ten bytes, bits beyond the 64th dropped
  (unlike `binary.ReadUvarint`, the tenth byte is not checked);
* `readLengthDelimited` — a length prefix and the bytes it covers, with the generated checks
  on the position `iNdEx` in the buffer;
* `skip` — the generated skipping of an unknown field, groups included;
* `unmarshalStep` / `unmarshalLoop` / `unmarshal` — the field loop of `UnmarshalVT`, given a
  table from field number and wire type to the decoder of a known field.

The encoder side is `WireField.encode`: the generated `MarshalToSizedBufferVTStrict` writes the
same bytes (it fills its buffer from the end, in reverse field order).

Results: `readVarint_putUvarint`, `readLengthDelimited_encode`, the step rules
`unmarshalStep_tag`, `varintField_run`, `lengthDelimitedField_run`, and the run rule
`unmarshalLoop_flatMap`: decoding a concatenation of fields folds their effects in order.
-/

set_option autoImplicit false

namespace GoLib.Protowire

open Reader

def errIntOverflow : String := "proto: integer overflow"

def errInvalidLength : String := "proto: negative length found during unmarshaling"

def errUnexpectedEndOfGroup : String := "proto: unexpected end of group"

/-! ## Varints and length prefixes -/

/-- The generated varint loop at shift `shift`, `x` the value of the bytes read so far: the
shift is tested before the end of the input, and `x |= uint64(b&0x7F) << shift` keeps 64 bits
(the bits of successive bytes are disjoint, so the `or` is a sum). -/
def readVarintFrom (shift x : Nat) : Bytes → Except String (Nat × Bytes)
  | [] => .error (if 64 ≤ shift then errIntOverflow else unexpectedEOF)
  | b :: rest =>
    if 64 ≤ shift then .error errIntOverflow
    else if b.toNat < 128 then .ok ((x + b.toNat % 128 * 2 ^ shift) % 2 ^ 64, rest)
    else readVarintFrom (shift + 7) ((x + b.toNat % 128 * 2 ^ shift) % 2 ^ 64) rest

/-- A varint as the generated decoders read it. -/
def readVarint (bs : Bytes) : Except String (Nat × Bytes) := readVarintFrom 0 0 bs

/-- A length prefix and the bytes it covers.  `bs` follows the tag in a buffer of length `l`,
so `l - bs.length` is the generated `iNdEx`; a length or an end position that does not fit in
an `int` is `ErrInvalidLength`, an end beyond the buffer `io.ErrUnexpectedEOF`. -/
def readLengthDelimited (l : Nat) (bs : Bytes) : Except String (Bytes × Bytes) :=
  match readVarint bs with
  | .error e => .error e
  | .ok (n, rest) =>
    if 2 ^ 63 ≤ n then .error errInvalidLength
    else if 2 ^ 63 ≤ l - rest.length + n then .error errInvalidLength
    else if rest.length < n then .error unexpectedEOF
    else .ok (rest.take n, rest.drop n)

/-- The loop of the generated `skip` over the bytes `d` of an unknown field, at index `i` and
group depth `depth`: the index just past the field.  Fixed-width payloads are stepped over
without a bound test; the caller compares the end with the buffer. -/
def skipLoop (d : Bytes) : Nat → Nat → Nat → Outcome String Nat
  | 0, _, _ => .exhausted
  | fuel + 1, i, depth =>
    if d.length ≤ i then .error unexpectedEOF
    else
      match readVarint (d.drop i) with
      | .error e => .error e
      | .ok (wire, rest) =>
        -- after the payload: an index past `int` is invalid, and depth zero ends the field
        let next (j depth : Nat) : Outcome String Nat :=
          if 2 ^ 63 ≤ j then .error errInvalidLength
          else if depth = 0 then .ok j
          else skipLoop d fuel j depth
        match wire % 8 with
        | 0 =>
          match readVarint rest with
          | .error e => .error e
          | .ok (_, rest') => next (d.length - rest'.length) depth
        | 1 => next (d.length - rest.length + 8) depth
        | 2 =>
          match readVarint rest with
          | .error e => .error e
          | .ok (n, rest') =>
            if 2 ^ 63 ≤ n then .error errInvalidLength
            else next (d.length - rest'.length + n) depth
        | 3 => next (d.length - rest.length) (depth + 1)
        | 4 =>
          if depth = 0 then .error errUnexpectedEndOfGroup
          else next (d.length - rest.length) (depth - 1)
        | 5 => next (d.length - rest.length + 4) depth
        | wireType => .error ("proto: illegal wireType " ++ toString wireType)

/-- `skip`: each pass of its loop reads a tag, so the length of `d` bounds the passes. -/
def skip (d : Bytes) : Outcome String Nat := skipLoop d (d.length + 1) 0 0

/-! ## The field loop -/

/-- The decoder of a known field: from the message so far and the bytes after the tag, the
updated message and the rest. -/
abbrev FieldDecoder (M : Type) := M → Bytes → Outcome String (M × Bytes)

/-- `int32(wire >> 3)`. -/
def fieldNumber (wire : Nat) : Int := (Int32.ofNat (wire / 8)).toInt

section Loop

variable {M : Type} (name : String) (l : Nat) (fields : Int → Nat → Option (FieldDecoder M))

/-- One pass of the loop of a generated `UnmarshalVT` of message `name` over a buffer of length
`l`: read the tag; a known field is decoded by `fields`, an unknown one skipped. -/
def unmarshalStep (m : M) (bs : Bytes) : Outcome String (M × Bytes) :=
  match readVarint bs with
  | .error e => .error e
  | .ok (wire, rest) =>
    if wire % 8 = 4 then .error ("proto: " ++ name ++ ": wiretype end group for non-group")
    else if fieldNumber wire ≤ 0 then
      .error ("proto: " ++ name ++ ": illegal tag " ++ toString (fieldNumber wire) ++
        " (wire type " ++ toString wire ++ ")")
    else
      match fields (fieldNumber wire) (wire % 8) with
      | some decode => decode m rest
      | none =>
        -- an unknown field is skipped from its tag on; the model keeps no unknown fields
        skip bs >>= fun n =>
          if 2 ^ 63 ≤ l - bs.length + n then .error errInvalidLength
          else if l < l - bs.length + n then .error unexpectedEOF
          else .ok (m, bs.drop n)

/-- The loop `for iNdEx < l` of a generated `UnmarshalVT`. -/
def unmarshalLoop : Nat → M → Bytes → Outcome String M
  | 0, _, _ => .exhausted
  | _ + 1, m, [] => .ok m
  | fuel + 1, m, b :: bs =>
    unmarshalStep name l fields m (b :: bs) >>= fun (m', rest) => unmarshalLoop fuel m' rest

end Loop

/-- `UnmarshalVT` of a message with field table `fields` into the message `empty`: every pass
reads a tag, so the length of the buffer bounds the passes. -/
def unmarshal {M : Type} (name : String) (fields : Nat → Int → Nat → Option (FieldDecoder M))
    (empty : M) (d : Bytes) : Outcome String M :=
  unmarshalLoop name d.length (fields d.length) (d.length + 1) empty d

/-- A varint field of wire type 0, stored by `act`. -/
def varintField {M : Type} (fieldName : String) (act : M → Nat → M) (wireType : Nat) :
    FieldDecoder M := fun m bs =>
  if wireType ≠ 0 then
    .error ("proto: wrong wireType = " ++ toString wireType ++ " for field " ++ fieldName)
  else
    match readVarint bs with
    | .error e => .error e
    | .ok (v, rest) => .ok (act m v, rest)

/-- A length-delimited field of wire type 2 in a buffer of length `l`, its bytes stored by
`act` (which decodes a sub-message). -/
def lengthDelimitedField {M : Type} (fieldName : String) (l : Nat)
    (act : M → Bytes → Outcome String M) (wireType : Nat) : FieldDecoder M := fun m bs =>
  if wireType ≠ 2 then
    .error ("proto: wrong wireType = " ++ toString wireType ++ " for field " ++ fieldName)
  else
    match readLengthDelimited l bs with
    | .error e => .error e
    | .ok (data, rest) => act m data >>= fun m' => .ok (m', rest)

/-! ## The encoder -/

/-- A field as the encoder writes it. -/
inductive WireField where
  | varint (num v : Nat)
  | bytes (num : Nat) (data : Bytes)

/-- The bytes of a field: its tag and its payload. -/
def WireField.encode : WireField → Bytes
  | .varint num v => putUvarint (num * 8) ++ putUvarint v
  | .bytes num data => putUvarint (num * 8 + 2) ++ putUvarint data.length ++ data

/-- The bytes of a message: its fields in order. -/
def encodeFields (fs : List WireField) : Bytes := fs.flatMap WireField.encode

theorem WireField.encode_ne_nil (f : WireField) : f.encode ≠ [] := by
  cases f <;> simp [WireField.encode, putUvarint_ne_nil]

/-! ## Step rules -/

theorem readVarintFrom_putUvarint (rest : Bytes) :
    ∀ (y shift x : Nat), shift < 64 → x < 2 ^ shift → y < 2 ^ (64 - shift) →
      readVarintFrom shift x (putUvarint y ++ rest) = .ok (x + y * 2 ^ shift, rest) := by
  intro y
  induction y using Nat.strongRecOn with
  | ind y ih =>
    intro shift x hs hx hy
    -- the value read so far stays below 2^64, so no `% 2^64` ever cuts it
    have hfit : ∀ z, z ≤ y → x + z * 2 ^ shift < 2 ^ 64 := by
      intro z hz
      have e : 2 ^ 64 = 2 ^ (64 - shift) * 2 ^ shift := by
        rw [← Nat.pow_add]; congr 1; omega
      have : z * 2 ^ shift + 2 ^ shift ≤ 2 ^ (64 - shift) * 2 ^ shift := by
        rw [← Nat.succ_mul]; exact Nat.mul_le_mul_right _ (by omega)
      omega
    by_cases hsmall : y < 128
    · have hb : y.toUInt8.toNat = y := by simp; omega
      rw [putUvarint_of_lt hsmall, List.singleton_append, readVarintFrom, if_neg (by omega),
        hb, if_pos hsmall, Nat.mod_eq_of_lt hsmall, Nat.mod_eq_of_lt (hfit y le_rfl)]
    · have hb : (y % 128 + 128).toUInt8.toNat = y % 128 + 128 := by simp; omega
      have hs7 : shift + 7 < 64 := by
        by_contra h
        have : 2 ^ (64 - shift) ≤ 2 ^ 7 := Nat.pow_le_pow_right (by omega) (by omega)
        omega
      have hx' : x + y % 128 * 2 ^ shift < 2 ^ (shift + 7) := by
        rw [Nat.pow_add]
        have : y % 128 * 2 ^ shift + 2 ^ shift ≤ 2 ^ shift * 2 ^ 7 := by
          rw [← Nat.succ_mul, Nat.mul_comm (2 ^ shift)]
          exact Nat.mul_le_mul_right _ (by omega)
        omega
      have hy' : y / 128 < 2 ^ (64 - (shift + 7)) := by
        have e : 2 ^ (64 - shift) = 2 ^ (64 - (shift + 7)) * 128 := by
          rw [show 64 - shift = 64 - (shift + 7) + 7 by omega, Nat.pow_add]
        rw [e] at hy
        exact Nat.div_lt_of_lt_mul (by omega)
      have hmod : (y % 128 + 128) % 128 = y % 128 := by omega
      rw [putUvarint_of_ge hsmall, List.cons_append, readVarintFrom, if_neg (by omega), hb,
        if_neg (by omega), hmod,
        Nat.mod_eq_of_lt (hfit (y % 128) (Nat.mod_le y 128)),
        ih (y / 128) (by omega) (shift + 7) _ hs7 hx' hy']
      congr 2
      have : y = y % 128 + 128 * (y / 128) := (Nat.mod_add_div y 128).symm
      conv_rhs => rw [this]
      rw [Nat.pow_add]
      ring

/-- **Varint round trip**: every 64-bit value is read back, and the bytes after it are left. -/
theorem readVarint_putUvarint {v : Nat} (hv : v < 2 ^ 64) (rest : Bytes) :
    readVarint (putUvarint v ++ rest) = .ok (v, rest) := by
  have := readVarintFrom_putUvarint rest v 0 0 (by omega) (by omega) (by simpa using hv)
  simpa [readVarint] using this

/-- A length prefix is read back with the bytes it covers, in a buffer shorter than `2^63` that
holds them. -/
theorem readLengthDelimited_encode {l : Nat} (hl : l < 2 ^ 63) (data rest : Bytes)
    (hlen : (data ++ rest).length ≤ l) :
    readLengthDelimited l (putUvarint data.length ++ data ++ rest) = .ok (data, rest) := by
  have hd : data.length < 2 ^ 64 := by simp at hlen; omega
  have hpos : l - (data ++ rest).length + data.length < 2 ^ 63 := by simp at hlen ⊢; omega
  rw [readLengthDelimited, List.append_assoc, readVarint_putUvarint hd]
  simp only [List.length_append] at hpos
  simp only [List.length_append, List.take_left', List.drop_left']
  rw [if_neg (by omega), if_neg (by omega), if_neg (by omega)]

theorem fieldNumber_tag {num wt : Nat} (hn : num < 2 ^ 28) (hwt : wt < 8) :
    fieldNumber (num * 8 + wt) = num := by
  have : (num * 8 + wt) / 8 = num := by omega
  rw [fieldNumber, this, Int32.toInt_ofNat_of_lt (by omega)]

section Loop

variable {M : Type} (name : String) (l : Nat) (fields : Int → Nat → Option (FieldDecoder M))

/-- A pass over a field whose number the table knows runs the field's decoder after the tag. -/
theorem unmarshalStep_tag {num wt : Nat} (h0 : 0 < num) (hn : num < 2 ^ 28) (hwt : wt < 8)
    (hwt4 : wt ≠ 4) {decode : FieldDecoder M} (hf : fields num wt = some decode) (m : M)
    (rest : Bytes) :
    unmarshalStep name l fields m (putUvarint (num * 8 + wt) ++ rest) = decode m rest := by
  have htag : num * 8 + wt < 2 ^ 64 := by omega
  have hmod : (num * 8 + wt) % 8 = wt := by omega
  rw [unmarshalStep, readVarint_putUvarint htag]
  simp only [hmod, fieldNumber_tag hn hwt, if_neg hwt4, hf]
  rw [if_neg (by omega)]

/-- **The run rule of the field loop**: on a concatenation of encoded items whose every pass
has the effect `upd`, the loop folds `upd` over the items in order. -/
theorem unmarshalLoop_flatMap {α : Type} (enc : α → Bytes) (upd : M → α → Outcome String M)
    (hne : ∀ a, enc a ≠ []) :
    ∀ (as : List α) (m : M) (fuel : Nat),
      (∀ a ∈ as, ∀ m rest, (enc a ++ rest).length ≤ l →
        unmarshalStep name l fields m (enc a ++ rest) = upd m a >>= fun m' => .ok (m', rest)) →
      (as.flatMap enc).length ≤ l → as.length < fuel →
      unmarshalLoop name l fields fuel m (as.flatMap enc) = as.foldlM upd m
  | [], m, fuel, _, _, hfuel => by
    obtain ⟨fuel, rfl⟩ : ∃ f, fuel = f + 1 := ⟨fuel - 1, by simp at hfuel; omega⟩
    rfl
  | a :: as, m, fuel, hstep, hlen, hfuel => by
    obtain ⟨fuel, rfl⟩ : ∃ f, fuel = f + 1 := ⟨fuel - 1, by simp at hfuel; omega⟩
    obtain ⟨b, bs, hab⟩ := List.exists_cons_of_ne_nil (hne a)
    have hlen' : (enc a ++ as.flatMap enc).length ≤ l := by simpa using hlen
    have hrun := hstep a (by simp) m (as.flatMap enc) hlen'
    rw [List.flatMap_cons, hab, List.cons_append, unmarshalLoop, ← List.cons_append, ← hab, hrun,
      List.foldlM_cons]
    cases hupd : upd m a with
    | ok m' =>
      have hlen'' : (as.flatMap enc).length ≤ l := by rw [List.length_append] at hlen'; omega
      exact unmarshalLoop_flatMap enc upd hne as m' fuel
        (fun a' ha' => hstep a' (by simp [ha'])) hlen'' (by simp at hfuel; omega)
    | error e => rfl
    | panic r => rfl
    | exhausted => rfl

end Loop

/-- A varint field is stored from the encoder's varint. -/
theorem varintField_run {M : Type} (fieldName : String) (act : M → Nat → M) (m : M) {v : Nat}
    (hv : v < 2 ^ 64) (rest : Bytes) :
    varintField fieldName act 0 m (putUvarint v ++ rest) = .ok (act m v, rest) := by
  simp [varintField, readVarint_putUvarint hv]

/-- A length-delimited field hands the encoder's bytes to its action. -/
theorem lengthDelimitedField_run {M : Type} (fieldName : String) {l : Nat} (hl : l < 2 ^ 63)
    (act : M → Bytes → Outcome String M) (m : M) (data rest : Bytes)
    (hlen : (data ++ rest).length ≤ l) :
    lengthDelimitedField fieldName l act 2 m (putUvarint data.length ++ data ++ rest) =
      act m data >>= fun m' => .ok (m', rest) := by
  simp only [lengthDelimitedField, ne_eq, not_true_eq_false, if_false,
    readLengthDelimited_encode hl data rest hlen]

theorem length_encode_le_of_mem {f : WireField} {fs : List WireField} (h : f ∈ fs) :
    f.encode.length ≤ (encodeFields fs).length := by
  induction fs with
  | nil => cases h
  | cons g fs ih =>
    simp only [encodeFields, List.flatMap_cons, List.length_append] at ih ⊢
    rcases List.mem_cons.mp h with rfl | h
    · omega
    · have := ih h
      omega

theorem length_le_length_encodeFields (fs : List WireField) : fs.length ≤ (encodeFields fs).length := by
  induction fs with
  | nil => simp [encodeFields]
  | cons f fs ih =>
    have := WireField.encode_ne_nil f
    have : 0 < f.encode.length := List.length_pos_iff.mpr this
    simp only [encodeFields, List.flatMap_cons, List.length_append, List.length_cons] at ih ⊢
    omega

section Rules

variable {M : Type} (name : String) (l : Nat) (fields : Int → Nat → Option (FieldDecoder M))

theorem unmarshalStep_varint {num : Nat} (h0 : 0 < num) (hn : num < 2 ^ 28) {fieldName : String}
    {act : M → Nat → M} (hf : fields num 0 = some (varintField fieldName act 0)) (m : M) {v : Nat}
    (hv : v < 2 ^ 64) (rest : Bytes) :
    unmarshalStep name l fields m ((WireField.varint num v).encode ++ rest) = .ok (act m v, rest) := by
  have htag := unmarshalStep_tag name l fields h0 hn (by omega) (by omega) hf m (putUvarint v ++ rest)
  rw [Nat.add_zero] at htag
  rw [WireField.encode, List.append_assoc, htag, varintField_run fieldName act m hv]

theorem unmarshalStep_bytes {num : Nat} (h0 : 0 < num) (hn : num < 2 ^ 28) (hl : l < 2 ^ 63)
    {fieldName : String} {act : M → Bytes → Outcome String M}
    (hf : fields num 2 = some (lengthDelimitedField fieldName l act 2)) (m : M) (data rest : Bytes)
    (hlen : ((WireField.bytes num data).encode ++ rest).length ≤ l) :
    unmarshalStep name l fields m ((WireField.bytes num data).encode ++ rest) =
      act m data >>= fun m' => .ok (m', rest) := by
  have hlen' : (data ++ rest).length ≤ l := by
    simp only [WireField.encode, List.length_append] at hlen ⊢
    omega
  have htag := unmarshalStep_tag name l fields h0 hn (by omega) (by omega) hf m
    (putUvarint data.length ++ data ++ rest)
  have e : (WireField.bytes num data).encode ++ rest =
      putUvarint (num * 8 + 2) ++ (putUvarint data.length ++ data ++ rest) := by
    simp [WireField.encode]
  rw [e, htag, lengthDelimitedField_run fieldName hl act m data rest hlen']

end Rules

theorem unmarshal_encodeFields {M : Type} (name : String)
    (fields : Nat → Int → Nat → Option (FieldDecoder M)) (empty : M)
    (upd : M → WireField → Outcome String M) (fs : List WireField)
    (hstep : ∀ f ∈ fs, ∀ m rest, (f.encode ++ rest).length ≤ (encodeFields fs).length →
      unmarshalStep name (encodeFields fs).length (fields (encodeFields fs).length) m
        (f.encode ++ rest) = upd m f >>= fun m' => .ok (m', rest)) :
    unmarshal name fields empty (encodeFields fs) = fs.foldlM upd empty := by
  have hfuel := length_le_length_encodeFields fs
  exact unmarshalLoop_flatMap name _ _ WireField.encode upd WireField.encode_ne_nil fs empty _
    hstep le_rfl (by omega)

end GoLib.Protowire
