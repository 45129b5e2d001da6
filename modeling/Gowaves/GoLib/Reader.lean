import Gowaves.GoLib.BigEndian

/-!
# Sequential readers: `bytes.Reader`, `io.ReadFull` and unsigned varints

A `bytes.Reader` over a byte string is modelled by the bytes it has not read yet: every read
returns what it took and the rest.  Reading never panics, so a read is an `Except` with the
error texts of package `io` (`"EOF"` when nothing was left, `"unexpected EOF"` when only part
of a fixed-size read was).

* `readByte` — `(*bytes.Reader).ReadByte`;
* `read n` — `(*bytes.Reader).Read` into a buffer of `n` bytes: a *short* read returns the
  bytes that are left and no error;
* `readFull n` — `io.ReadFull` of `n` bytes;
* `putUvarint` / `readUvarint` — `binary.PutUvarint` and `binary.ReadUvarint`, the base-128
  little-endian varint with at most ten bytes.

Results: `readFull_append` (a fixed-size read takes exactly the front of the input) and
`readUvarint_putUvarint` (the varint reader decodes every 64-bit value the writer encodes and
leaves the rest untouched).
-/

set_option autoImplicit false

namespace GoLib.Reader

/-- The unread bytes of a reader. -/
abbrev Bytes := List UInt8

/-- `io.EOF.Error()`. -/
def eof : String := "EOF"

/-- `io.ErrUnexpectedEOF.Error()`. -/
def unexpectedEOF : String := "unexpected EOF"

/-- `(*bytes.Reader).ReadByte`. -/
def readByte : Bytes → Except String (UInt8 × Bytes)
  | [] => .error eof
  | b :: rest => .ok (b, rest)

@[simp] theorem except_ok_bind {ε α β : Type} (a : α) (f : α → Except ε β) :
    (Except.ok a >>= f) = f a := rfl

@[simp] theorem except_error_bind {ε α β : Type} (e : ε) (f : α → Except ε β) :
    (Except.error e >>= f) = Except.error e := rfl

theorem mapM_eq_ok_map {ε α β : Type} {f : α → Except ε β} {g : α → β} :
    ∀ (l : List α), (∀ a ∈ l, f a = .ok (g a)) → l.mapM f = .ok (l.map g)
  | [], _ => rfl
  | a :: l, h => by
    rw [List.mapM_cons, h a (by simp), mapM_eq_ok_map l (fun a' ha' => h a' (by simp [ha']))]
    rfl

theorem mapM_eq_ok_imp {ε α β : Type} {f : α → Except ε β} {g : α → β}
    (hf : ∀ a b, f a = .ok b → b = g a) : ∀ (l : List α) {bs : List β}, l.mapM f = .ok bs →
      bs = l.map g
  | [], bs, h => by
    simp only [List.mapM_nil] at h
    cases h
    rfl
  | a :: l, bs, h => by
    rw [List.mapM_cons] at h
    cases ha : f a with
    | error e => rw [ha] at h; cases h
    | ok b =>
      cases hl : l.mapM f with
      | error e => rw [ha, hl] at h; cases h
      | ok bs' =>
        rw [ha, hl] at h
        cases h
        rw [List.map_cons, hf a b ha, mapM_eq_ok_imp hf l hl]

/-- `(*bytes.Reader).Read` into a buffer of length `n > 0`: at the end of the input it fails
with `io.EOF`, otherwise it copies as many bytes as are left, up to `n`. -/
def read (n : Nat) : Bytes → Except String (Bytes × Bytes)
  | [] => .error eof
  | bs => .ok (bs.take n, bs.drop n)

/-- `io.ReadFull` into a buffer of length `n`. -/
def readFull (n : Nat) (bs : Bytes) : Except String (Bytes × Bytes) :=
  if n = 0 then .ok ([], bs)
  else if bs = [] then .error eof
  else if bs.length < n then .error unexpectedEOF
  else .ok (bs.take n, bs.drop n)

@[simp] theorem readByte_cons (b : UInt8) (rest : Bytes) : readByte (b :: rest) = .ok (b, rest) :=
  rfl

/-- A fixed-size read takes exactly the front of the input. -/
theorem readFull_append (xs rest : Bytes) : readFull xs.length (xs ++ rest) = .ok (xs, rest) := by
  unfold readFull
  by_cases h : xs.length = 0
  · simp_all
  · have hne : xs ++ rest ≠ [] := by simp_all
    simp [h, hne]

theorem readFull_of_le {n : Nat} {bs : Bytes} (hn : 0 < n) (h : n ≤ bs.length) :
    readFull n bs = .ok (bs.take n, bs.drop n) := by
  have hne : bs ≠ [] := List.ne_nil_of_length_pos (by omega)
  simp [readFull, show n ≠ 0 by omega, hne, show ¬ bs.length < n by omega]

theorem read_append (xs rest : Bytes) (h : xs ≠ []) : read xs.length (xs ++ rest) = .ok (xs, rest) := by
  obtain ⟨b, bs, rfl⟩ := List.exists_cons_of_ne_nil h
  simp [read]

/-! ## Unsigned varints -/

/-- `binary.PutUvarint`: seven bits a byte, least significant first, the high bit set on every
byte but the last. -/
def putUvarint (x : Nat) : Bytes :=
  if x < 128 then [x.toUInt8] else (x % 128 + 128).toUInt8 :: putUvarint (x / 128)
termination_by x
decreasing_by omega

/-- `binary.ErrOverflow`-like error of `ReadUvarint`. -/
def errOverflow : String := "binary: varint overflows a 64-bit integer"

/-- The loop of `binary.ReadUvarint` from iteration `i`, `x` the value of the bytes read so far
(the bits of the iterations are disjoint, so the source's `x |= uint64(b&0x7f) << s` is a sum).
The tenth byte may only carry one bit. -/
def readUvarintFrom (i x : Nat) : Bytes → Except String (Nat × Bytes)
  | [] => .error (if 0 < i then unexpectedEOF else eof)
  | b :: rest =>
    if b.toNat < 128 then
      if i = 9 ∧ 1 < b.toNat then .error errOverflow
      else .ok (x + b.toNat * 128 ^ i, rest)
    else if i = 9 then .error errOverflow
    else readUvarintFrom (i + 1) (x + (b.toNat % 128) * 128 ^ i) rest

/-- `binary.ReadUvarint`. -/
def readUvarint (bs : Bytes) : Except String (Nat × Bytes) := readUvarintFrom 0 0 bs

theorem putUvarint_of_lt {x : Nat} (h : x < 128) : putUvarint x = [x.toUInt8] := by
  rw [putUvarint, if_pos h]

theorem putUvarint_of_ge {x : Nat} (h : ¬ x < 128) :
    putUvarint x = (x % 128 + 128).toUInt8 :: putUvarint (x / 128) := by
  rw [putUvarint, if_neg h]

theorem putUvarint_ne_nil (x : Nat) : putUvarint x ≠ [] := by
  rw [putUvarint]; split <;> simp

theorem readUvarintFrom_putUvarint (rest : Bytes) :
    ∀ (y i x : Nat), i ≤ 9 → y < 2 ^ (64 - 7 * i) →
      readUvarintFrom i x (putUvarint y ++ rest) = .ok (x + y * 128 ^ i, rest) := by
  intro y
  induction y using Nat.strongRecOn with
  | ind y ih =>
    intro i x hi hy
    by_cases hsmall : y < 128
    · rw [putUvarint_of_lt hsmall]
      have hb : y.toUInt8.toNat = y := by simp; omega
      have hov : ¬ (i = 9 ∧ 1 < y) := by
        rintro ⟨rfl, h1⟩
        norm_num at hy
        omega
      simp [readUvarintFrom, hb, hsmall, hov]
    · rw [putUvarint_of_ge hsmall]
      have hb : (y % 128 + 128).toUInt8.toNat = y % 128 + 128 := by simp; omega
      have hi9 : i ≠ 9 := by
        rintro rfl
        norm_num at hy
        omega
      have hnext : y / 128 < 2 ^ (64 - 7 * (i + 1)) := by
        have e : 2 ^ (64 - 7 * i) = 2 ^ (64 - 7 * (i + 1)) * 128 := by
          rw [show 64 - 7 * i = (64 - 7 * (i + 1)) + 7 by omega, Nat.pow_add]
        rw [e] at hy
        exact Nat.div_lt_of_lt_mul (by omega)
      have hrec := ih (y / 128) (by omega) (i + 1) (x + (y % 128) * 128 ^ i) (by omega) hnext
      have hge : ¬ (y % 128 + 128).toUInt8.toNat < 128 := by rw [hb]; omega
      have hmod : (y % 128 + 128).toUInt8.toNat % 128 = y % 128 := by rw [hb]; omega
      rw [List.cons_append, readUvarintFrom, if_neg hge, if_neg hi9, hmod, hrec]
      congr 2
      have : y = y % 128 + 128 * (y / 128) := (Nat.mod_add_div y 128).symm
      conv_rhs => rw [this]
      rw [Nat.pow_succ]
      ring

/-- **Varint round trip**: every 64-bit value is read back, and the bytes after it are left. -/
theorem readUvarint_putUvarint (x : Nat) (hx : x < 2 ^ 64) (rest : Bytes) :
    readUvarint (putUvarint x ++ rest) = .ok (x, rest) := by
  have := readUvarintFrom_putUvarint rest x 0 0 (by omega) (by simpa using hx)
  simpa [readUvarint] using this

end GoLib.Reader
