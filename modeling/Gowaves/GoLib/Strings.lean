import Gowaves.GoLib.Reader
import Mathlib.Data.List.Infix

/-!
# Go strings: `unicode/utf8` and the searches of package `strings`

A Go `string` is a sequence of bytes, kept here as `Bytes`.  It is UTF-8 only by convention, and
the functions that care decode it rune by rune:

* `decodeRune` — `utf8.DecodeRuneInString`: the rune at the front and its width, with
  `(RuneError, 1)` for a byte that does not start a valid encoding;
* `runes` — the conversion `[]rune(s)`, and `runeCountInString` its length;
* `encode` — the conversion `string(rs)` of a `[]rune`, each rune by `utf8.EncodeRune`, which
  for a Unicode scalar value is `String.utf8EncodeChar`.

`occursFirst` and `occursLast` find the first and the last offset at which a list occurs in
another; on bytes they are `strings.Index` and `strings.LastIndex` (as `index` and `lastIndex`,
with `-1` for none) and the search of `strings.Cut`.  Their offsets are byte offsets.

Results: `decodeRune_encode_append` — decoding the encoding of a rune gives it back with its
width, so `runes_encode`: `[]rune(string(rs)) = rs`; `encode_boundary` — UTF-8 is
self-synchronising: an offset of `string(rs)` whose byte does not continue a rune is the offset
of a rune; `occursFirst_encode` and `occursLast_encode` — hence a search for the encoding of
runes finds exactly the byte offsets of their occurrences among the runes.
-/

set_option autoImplicit false

namespace GoLib

open GoLib.Reader

/-! ## Searching a list -/

section Occurs

variable {α : Type} [BEq α]

/-- The first offset at which `sub` occurs in a list. -/
def occursFirst (sub : List α) : List α → Option Nat
  | [] => if sub.isPrefixOf [] then some 0 else none
  | s@(_ :: t) => if sub.isPrefixOf s then some 0 else (occursFirst sub t).map (· + 1)

/-- The last offset at which `sub` occurs in a list. -/
def occursLast (sub : List α) : List α → Option Nat
  | [] => if sub.isPrefixOf [] then some 0 else none
  | s@(_ :: t) =>
    match occursLast sub t with
    | some i => some (i + 1)
    | none => if sub.isPrefixOf s then some 0 else none

@[simp] theorem occursFirst_nil_left (s : List α) : occursFirst [] s = some 0 := by
  cases s <;> simp [occursFirst]

@[simp] theorem occursLast_nil_left (s : List α) : occursLast [] s = some s.length := by
  induction s with
  | nil => simp [occursLast]
  | cons x t ih => simp [occursLast, ih]

theorem occursFirst_le_length {sub : List α} : ∀ {s : List α} {i : Nat},
    occursFirst sub s = some i → i ≤ s.length
  | [], i, h => by
    simp only [occursFirst] at h
    split at h <;> simp_all
  | x :: t, i, h => by
    simp only [occursFirst] at h
    split at h
    · cases h; simp
    · obtain ⟨j, hj, rfl⟩ := Option.map_eq_some_iff.mp h
      simpa using occursFirst_le_length hj

variable [LawfulBEq α]

theorem occursFirst_append_of_not_head {y : α} {ys : List α} (p : α → Bool) (hy : p y = false) :
    ∀ (xs s : List α), (∀ x ∈ xs, p x = true) →
      occursFirst (y :: ys) (xs ++ s) = (occursFirst (y :: ys) s).map (· + xs.length)
  | [], s, _ => by simp
  | x :: xs, s, hx => by
    have hne : x ≠ y := fun h => by simp [← h, hx x (by simp)] at hy
    have ih := @occursFirst_append_of_not_head y ys p hy xs s fun x' h' => hx x' (by simp [h'])
    have hb : (y == x) = false := by simp [hne.symm]
    simp only [List.cons_append, occursFirst, List.isPrefixOf_cons_cons, hb, Bool.false_and,
      Bool.false_eq_true, ↓reduceIte, ih, Option.map_map]
    rfl

theorem occursLast_append_of_not_head {y : α} {ys : List α} (p : α → Bool) (hy : p y = false) :
    ∀ (xs s : List α), (∀ x ∈ xs, p x = true) →
      occursLast (y :: ys) (xs ++ s) = (occursLast (y :: ys) s).map (· + xs.length)
  | [], s, _ => by simp
  | x :: xs, s, hx => by
    have hne : x ≠ y := fun h => by simp [← h, hx x (by simp)] at hy
    have ih := @occursLast_append_of_not_head y ys p hy xs s fun x' h' => hx x' (by simp [h'])
    simp only [List.cons_append, occursLast, ih]
    cases occursLast (y :: ys) s with
    | some i => simp only [Option.map_some, List.length_cons, Nat.add_assoc]
    | none => simp [hne.symm]

theorem occursFirst_sound {sub : List α} : ∀ {s : List α} {i : Nat},
    occursFirst sub s = some i → sub <+: s.drop i
  | [], i, h => by
    simp only [occursFirst] at h
    split at h
    · rename_i hp
      cases h
      exact List.isPrefixOf_iff_prefix.mp hp
    · cases h
  | x :: t, i, h => by
    simp only [occursFirst] at h
    split at h
    · rename_i hp
      cases h
      exact List.isPrefixOf_iff_prefix.mp hp
    · obtain ⟨j, hj, rfl⟩ := Option.map_eq_some_iff.mp h
      simpa using occursFirst_sound hj

theorem occursFirst_complete {sub : List α} : ∀ {s : List α}, sub <:+: s → (occursFirst sub s).isSome
  | [], h => by
    have : sub = [] := List.eq_nil_of_infix_nil h
    subst this
    simp
  | x :: t, h => by
    simp only [occursFirst]
    split
    · rfl
    · rename_i hp
      rcases List.infix_cons_iff.mp h with h' | h'
      · exact absurd (List.isPrefixOf_iff_prefix.mpr h') hp
      · simpa using occursFirst_complete h'

end Occurs

/-! ## `unicode/utf8` -/

namespace Utf8

/-- `utf8.RuneError`, U+FFFD. -/
def runeError : Char := '�'

/-- `locb`, the least continuation byte. -/
def locb : Nat := 0x80

/-- `hicb`, the greatest continuation byte. -/
def hicb : Nat := 0xBF

/-- An entry of the table `first`, with the entry of `acceptRanges` it names: an ASCII byte, a
byte that starts no encoding, or the leading byte of an encoding of `size` bytes whose second
byte lies in `[lo, hi]`. -/
inductive First where
  | ascii
  | invalid
  | lead (size lo hi : Nat)
  deriving DecidableEq, Repr

/-- The table `first` over the values of a leading byte. -/
def first (b : Nat) : First :=
  if b < 0x80 then .ascii
  else if b < 0xC2 then .invalid
  else if b < 0xE0 then .lead 2 locb hicb
  else if b = 0xE0 then .lead 3 0xA0 hicb
  else if b = 0xED then .lead 3 locb 0x9F
  else if b < 0xF0 then .lead 3 locb hicb
  else if b = 0xF0 then .lead 4 0x90 hicb
  else if b < 0xF4 then .lead 4 locb hicb
  else if b = 0xF4 then .lead 4 locb 0x8F
  else .invalid

/-- The rune of a two-byte encoding: `p0&mask2` and `b1&maskx`. -/
def rune2 (p0 b1 : Nat) : Nat := ((p0 &&& 0x1F) <<< 6) ||| (b1 &&& 0x3F)

/-- The rune of a three-byte encoding. -/
def rune3 (p0 b1 b2 : Nat) : Nat :=
  ((p0 &&& 0x0F) <<< 12) ||| ((b1 &&& 0x3F) <<< 6) ||| (b2 &&& 0x3F)

/-- The rune of a four-byte encoding. -/
def rune4 (p0 b1 b2 b3 : Nat) : Nat :=
  ((p0 &&& 0x07) <<< 18) ||| ((b1 &&& 0x3F) <<< 12) ||| ((b2 &&& 0x3F) <<< 6) ||| (b3 &&& 0x3F)

/-- `utf8.DecodeRuneInString`: the rune at the front of `p` and the number of bytes it takes;
`(RuneError, 0)` for the empty string and `(RuneError, 1)` for an invalid or short encoding. -/
def decodeRune (p : Bytes) : Char × Nat :=
  match p with
  | [] => (runeError, 0)
  | p0 :: _ =>
    match first p0.toNat with
    | .ascii => (Char.ofNat p0.toNat, 1)
    | .invalid => (runeError, 1)
    | .lead sz lo hi =>
      if p.length < sz then (runeError, 1)
      else
        let b1 := (p.getD 1 0).toNat
        if b1 < lo ∨ hi < b1 then (runeError, 1)
        else if sz ≤ 2 then (Char.ofNat (rune2 p0.toNat b1), 2)
        else
          let b2 := (p.getD 2 0).toNat
          if b2 < locb ∨ hicb < b2 then (runeError, 1)
          else if sz ≤ 3 then (Char.ofNat (rune3 p0.toNat b1 b2), 3)
          else
            let b3 := (p.getD 3 0).toNat
            if b3 < locb ∨ hicb < b3 then (runeError, 1)
            else (Char.ofNat (rune4 p0.toNat b1 b2 b3), 4)

/-- The runes of a string, decoding at most `fuel` of them. -/
def runesFrom : Nat → Bytes → List Char
  | 0, _ => []
  | _ + 1, [] => []
  | fuel + 1, p@(_ :: _) => (decodeRune p).1 :: runesFrom fuel (p.drop (decodeRune p).2)

/-- `[]rune(s)`: each decoding takes at least one byte, so the length of `s` is fuel enough. -/
def runes (s : Bytes) : List Char := runesFrom s.length s

/-- `utf8.RuneCountInString`. -/
def runeCountInString (s : Bytes) : Nat := (runes s).length

/-- `string(rs)` of a `[]rune`. -/
def encode (rs : List Char) : Bytes := rs.flatMap String.utf8EncodeChar

/-- A byte that continues an encoding, in `[locb, hicb]`. -/
def isContinuation (b : UInt8) : Bool := locb ≤ b.toNat && b.toNat ≤ hicb

/-! ### The rune arithmetic -/

theorem shiftLeft_or_eq_add {a b k : Nat} (hb : b < 2 ^ k) : a <<< k ||| b = a * 2 ^ k + b := by
  rw [Nat.shiftLeft_eq, mul_comm, ← Nat.two_pow_add_eq_or_of_lt hb]

theorem and_mask (x n : Nat) : x &&& (2 ^ n - 1) = x % 2 ^ n := Nat.and_two_pow_sub_one_eq_mod x n

theorem rune2_eq (p0 b1 : Nat) : rune2 p0 b1 = p0 % 32 * 64 + b1 % 64 := by
  unfold rune2
  rw [show (0x1F : Nat) = 2 ^ 5 - 1 from rfl, show (0x3F : Nat) = 2 ^ 6 - 1 from rfl, and_mask,
    and_mask, shiftLeft_or_eq_add (Nat.mod_lt _ (by decide))]
  rfl

theorem rune3_eq (p0 b1 b2 : Nat) : rune3 p0 b1 b2 = (p0 % 16 * 64 + b1 % 64) * 64 + b2 % 64 := by
  unfold rune3
  rw [show (0x0F : Nat) = 2 ^ 4 - 1 from rfl, show (0x3F : Nat) = 2 ^ 6 - 1 from rfl, and_mask,
    and_mask, and_mask, show 12 = 6 + 6 from rfl, Nat.shiftLeft_add, ← Nat.shiftLeft_or_distrib,
    shiftLeft_or_eq_add (Nat.mod_lt _ (by decide)), shiftLeft_or_eq_add (Nat.mod_lt _ (by decide))]
  rfl

theorem rune4_eq (p0 b1 b2 b3 : Nat) :
    rune4 p0 b1 b2 b3 = ((p0 % 8 * 64 + b1 % 64) * 64 + b2 % 64) * 64 + b3 % 64 := by
  unfold rune4
  rw [show (0x07 : Nat) = 2 ^ 3 - 1 from rfl, show (0x3F : Nat) = 2 ^ 6 - 1 from rfl, and_mask,
    and_mask, and_mask, and_mask, show 18 = 6 + 6 + 6 from rfl, show 12 = 6 + 6 from rfl,
    Nat.shiftLeft_add, Nat.shiftLeft_add, Nat.shiftLeft_add, ← Nat.shiftLeft_or_distrib,
    ← Nat.shiftLeft_or_distrib, ← Nat.shiftLeft_or_distrib,
    shiftLeft_or_eq_add (Nat.mod_lt _ (by decide)), shiftLeft_or_eq_add (Nat.mod_lt _ (by decide)),
    shiftLeft_or_eq_add (Nat.mod_lt _ (by decide))]
  rfl

/-! ### The table `first` -/

theorem first_ascii {b : Nat} (h : b < 0x80) : first b = .ascii := by
  simp [first, h]

theorem first_two {b : Nat} (h1 : 0xC2 ≤ b) (h2 : b < 0xE0) : first b = .lead 2 locb hicb := by
  simp [first, show ¬ b < 0x80 by omega, show ¬ b < 0xC2 by omega, h2]

theorem first_three {b : Nat} (h1 : 0xE0 ≤ b) (h2 : b < 0xF0) :
    first b = .lead 3 (if b = 0xE0 then 0xA0 else locb) (if b = 0xED then 0x9F else hicb) := by
  simp only [first, show ¬ b < 0x80 by omega, show ¬ b < 0xC2 by omega,
    show ¬ b < 0xE0 by omega, h2, ↓reduceIte]
  by_cases he0 : b = 0xE0
  · simp [he0]
  · by_cases hed : b = 0xED <;> simp [he0, hed]

theorem first_four {b : Nat} (h1 : 0xF0 ≤ b) (h2 : b ≤ 0xF4) :
    first b = .lead 4 (if b = 0xF0 then 0x90 else locb) (if b = 0xF4 then 0x8F else hicb) := by
  simp only [first, show ¬ b < 0x80 by omega, show ¬ b < 0xC2 by omega,
    show ¬ b < 0xE0 by omega, show ¬ b = 0xE0 by omega, show ¬ b = 0xED by omega,
    show ¬ b < 0xF0 by omega, ↓reduceIte]
  by_cases hf0 : b = 0xF0
  · simp [hf0]
  · by_cases hf4 : b = 0xF4
    · simp [hf4]
    · simp [hf0, hf4, show b < 0xF4 by omega]

/-! ### Decoding an encoded rune -/

theorem toNat_ofNat_byte {x : Nat} (h : x < 256) : (UInt8.ofNat x).toNat = x := by
  simp [Nat.mod_eq_of_lt h]

theorem decodeRune_one {v : Nat} (h : v ≤ 0x7F) (rest : Bytes) :
    decodeRune (UInt8.ofNat v :: rest) = (Char.ofNat v, 1) := by
  simp only [decodeRune, toNat_ofNat_byte (show v < 256 by omega), first_ascii (show v < 0x80 by omega)]

theorem decodeRune_two {v : Nat} (h1 : 0x7F < v) (h2 : v ≤ 0x7FF) (rest : Bytes) :
    decodeRune (UInt8.ofNat (v / 64 % 32 + 0xC0) :: UInt8.ofNat (v % 64 + 0x80) :: rest) =
      (Char.ofNat v, 2) := by
  have hb0 := toNat_ofNat_byte (show v / 64 % 32 + 0xC0 < 256 by omega)
  have hb1 := toNat_ofNat_byte (show v % 64 + 0x80 < 256 by omega)
  simp only [decodeRune, hb0, first_two (show 0xC2 ≤ v / 64 % 32 + 0xC0 by omega)
    (show v / 64 % 32 + 0xC0 < 0xE0 by omega), List.length_cons, List.getD_cons_succ,
    List.getD_cons_zero, hb1, locb, hicb]
  rw [if_neg (by omega), if_neg (by omega), if_pos (by omega), rune2_eq]
  congr 2
  omega

theorem decodeRune_three {v : Nat} (h1 : 0x7FF < v) (h2 : v ≤ 0xFFFF) (hs : v < 0xD800 ∨ 0xDFFF < v)
    (rest : Bytes) :
    decodeRune (UInt8.ofNat (v / 4096 % 16 + 0xE0) :: UInt8.ofNat (v / 64 % 64 + 0x80) ::
      UInt8.ofNat (v % 64 + 0x80) :: rest) = (Char.ofNat v, 3) := by
  have hb0 := toNat_ofNat_byte (show v / 4096 % 16 + 0xE0 < 256 by omega)
  have hb1 := toNat_ofNat_byte (show v / 64 % 64 + 0x80 < 256 by omega)
  have hb2 := toNat_ofNat_byte (show v % 64 + 0x80 < 256 by omega)
  have hlo : ¬ (v / 64 % 64 + 0x80 < if v / 4096 % 16 + 0xE0 = 0xE0 then 0xA0 else locb) := by
    unfold locb
    split <;> omega
  have hhi : ¬ ((if v / 4096 % 16 + 0xE0 = 0xED then 0x9F else hicb) < v / 64 % 64 + 0x80) := by
    unfold hicb
    split <;> omega
  simp only [decodeRune, hb0, first_three (show 0xE0 ≤ v / 4096 % 16 + 0xE0 by omega)
    (show v / 4096 % 16 + 0xE0 < 0xF0 by omega), List.length_cons, List.getD_cons_succ,
    List.getD_cons_zero, hb1, hb2]
  rw [if_neg (by omega), if_neg (not_or.mpr ⟨hlo, hhi⟩), if_neg (by omega),
    if_neg (by simp only [locb, hicb]; omega), if_pos (by omega), rune3_eq]
  congr 2
  omega

theorem decodeRune_four {v : Nat} (h1 : 0xFFFF < v) (h2 : v < 0x110000) (rest : Bytes) :
    decodeRune (UInt8.ofNat (v / 262144 % 8 + 0xF0) :: UInt8.ofNat (v / 4096 % 64 + 0x80) ::
      UInt8.ofNat (v / 64 % 64 + 0x80) :: UInt8.ofNat (v % 64 + 0x80) :: rest) =
      (Char.ofNat v, 4) := by
  have hb0 := toNat_ofNat_byte (show v / 262144 % 8 + 0xF0 < 256 by omega)
  have hb1 := toNat_ofNat_byte (show v / 4096 % 64 + 0x80 < 256 by omega)
  have hb2 := toNat_ofNat_byte (show v / 64 % 64 + 0x80 < 256 by omega)
  have hb3 := toNat_ofNat_byte (show v % 64 + 0x80 < 256 by omega)
  have hlo : ¬ (v / 4096 % 64 + 0x80 < if v / 262144 % 8 + 0xF0 = 0xF0 then 0x90 else locb) := by
    unfold locb
    split <;> omega
  have hhi : ¬ ((if v / 262144 % 8 + 0xF0 = 0xF4 then 0x8F else hicb) < v / 4096 % 64 + 0x80) := by
    unfold hicb
    split <;> omega
  simp only [decodeRune, hb0, first_four (show 0xF0 ≤ v / 262144 % 8 + 0xF0 by omega)
    (show v / 262144 % 8 + 0xF0 ≤ 0xF4 by omega), List.length_cons, List.getD_cons_succ,
    List.getD_cons_zero, hb1, hb2, hb3]
  rw [if_neg (by omega), if_neg (not_or.mpr ⟨hlo, hhi⟩), if_neg (by omega),
    if_neg (by simp only [locb, hicb]; omega), if_neg (by omega),
    if_neg (by simp only [locb, hicb]; omega), rune4_eq]
  congr 2
  omega

theorem decodeRune_encode_append (c : Char) (rest : Bytes) :
    decodeRune (String.utf8EncodeChar c ++ rest) = (c, c.utf8Size) := by
  have hc : Char.ofNat c.val.toNat = c := Char.ofNat_toNat c
  have hv : c.val.toNat < 0xD800 ∨ (0xDFFF < c.val.toNat ∧ c.val.toNat < 0x110000) := c.valid
  unfold String.utf8EncodeChar Char.utf8Size
  simp only [UInt32.le_iff_toNat_le, UInt32.toNat_ofNatLT]
  by_cases h1 : c.val.toNat ≤ 0x7F
  · simp only [h1, ↓reduceIte, List.cons_append, List.nil_append, decodeRune_one h1, hc]
  by_cases h2 : c.val.toNat ≤ 0x7FF
  · simp only [h1, h2, ↓reduceIte, List.cons_append, List.nil_append,
      decodeRune_two (Nat.lt_of_not_le h1) h2, hc]
  by_cases h3 : c.val.toNat ≤ 0xFFFF
  · simp only [h1, h2, h3, ↓reduceIte, List.cons_append, List.nil_append,
      decodeRune_three (Nat.lt_of_not_le h2) h3 (by omega), hc]
  · simp only [h1, h2, h3, ↓reduceIte, List.cons_append, List.nil_append,
      decodeRune_four (Nat.lt_of_not_le h3) (by omega), hc]

/-! ### Encoded runes -/

theorem isContinuation_ofNat {x : Nat} (h : x < 256) :
    isContinuation (UInt8.ofNat x) = decide (0x80 ≤ x ∧ x ≤ 0xBF) := by
  simp [isContinuation, toNat_ofNat_byte h, locb, hicb]

theorem utf8EncodeChar_shape (c : Char) : ∃ b bs, String.utf8EncodeChar c = b :: bs ∧
    isContinuation b = false ∧ ∀ x ∈ bs, isContinuation x = true := by
  unfold String.utf8EncodeChar
  by_cases h1 : c.val.toNat ≤ 0x7F
  · simp only [h1, ↓reduceIte]
    refine ⟨_, [], rfl, ?_, by simp⟩
    rw [isContinuation_ofNat (by omega), decide_eq_false_iff_not]
    omega
  by_cases h2 : c.val.toNat ≤ 0x7FF
  · simp only [h1, h2, ↓reduceIte]
    refine ⟨_, _, rfl, ?_, ?_⟩
    · rw [isContinuation_ofNat (by omega), decide_eq_false_iff_not]
      omega
    · simp only [List.mem_cons, List.not_mem_nil, or_false, forall_eq]
      rw [isContinuation_ofNat (by omega), decide_eq_true_iff]
      omega
  by_cases h3 : c.val.toNat ≤ 0xFFFF
  · simp only [h1, h2, h3, ↓reduceIte]
    refine ⟨_, _, rfl, ?_, ?_⟩
    · rw [isContinuation_ofNat (by omega), decide_eq_false_iff_not]
      omega
    · simp only [List.mem_cons, List.not_mem_nil, or_false, forall_eq_or_imp, forall_eq]
      rw [isContinuation_ofNat (by omega), isContinuation_ofNat (by omega), decide_eq_true_iff,
        decide_eq_true_iff]
      omega
  · simp only [h1, h2, h3, ↓reduceIte]
    refine ⟨_, _, rfl, ?_, ?_⟩
    · rw [isContinuation_ofNat (by omega), decide_eq_false_iff_not]
      omega
    · simp only [List.mem_cons, List.not_mem_nil, or_false, forall_eq_or_imp, forall_eq]
      rw [isContinuation_ofNat (by omega), isContinuation_ofNat (by omega),
        isContinuation_ofNat (by omega), decide_eq_true_iff, decide_eq_true_iff, decide_eq_true_iff]
      omega

@[simp] theorem encode_nil : encode [] = [] := rfl

@[simp] theorem encode_cons (c : Char) (cs : List Char) :
    encode (c :: cs) = String.utf8EncodeChar c ++ encode cs := List.flatMap_cons

@[simp] theorem encode_append (as bs : List Char) : encode (as ++ bs) = encode as ++ encode bs :=
  List.flatMap_append

theorem length_le_length_encode (cs : List Char) : cs.length ≤ (encode cs).length := by
  induction cs with
  | nil => simp
  | cons c cs ih =>
    have := c.utf8Size_pos
    simp only [encode_cons, List.length_append, String.length_utf8EncodeChar, List.length_cons]
    omega

theorem encode_prefix_iff {ds xs : List Char} : encode ds <+: encode xs ↔ ds <+: xs := by
  constructor
  · intro h
    induction ds generalizing xs with
    | nil => exact List.nil_prefix
    | cons d ds ih =>
      obtain ⟨r, hr⟩ := h
      cases xs with
      | nil =>
        have hl := congrArg List.length hr
        have := d.utf8Size_pos
        simp only [encode_cons, encode_nil, List.length_append, String.length_utf8EncodeChar,
          List.length_nil] at hl
        omega
      | cons x xs =>
        rw [encode_cons, encode_cons, List.append_assoc] at hr
        have hd := congrArg decodeRune hr
        rw [decodeRune_encode_append, decodeRune_encode_append] at hd
        obtain ⟨rfl, -⟩ := Prod.mk.inj hd
        exact List.cons_prefix_cons.mpr ⟨rfl, ih ⟨r, List.append_cancel_left hr⟩⟩
  · rintro ⟨t, rfl⟩
    exact ⟨encode t, (encode_append ds t).symm⟩

theorem runesFrom_encode : ∀ (cs : List Char) (fuel : Nat), cs.length ≤ fuel →
    runesFrom fuel (encode cs) = cs
  | [], 0, _ => rfl
  | [], _ + 1, _ => rfl
  | _ :: _, 0, h => by simp at h
  | c :: cs, fuel + 1, h => by
    obtain ⟨b, bs, hb, -, -⟩ := utf8EncodeChar_shape c
    have hd := decodeRune_encode_append c (encode cs)
    rw [encode_cons, hb, List.cons_append, runesFrom, ← List.cons_append, ← hb, hd,
      List.drop_left' (String.length_utf8EncodeChar c),
      runesFrom_encode cs fuel (by simp at h; omega)]

/-- `[]rune(string(rs)) = rs`. -/
theorem runes_encode (cs : List Char) : runes (encode cs) = cs :=
  runesFrom_encode cs _ (length_le_length_encode cs)

theorem runeCountInString_encode (cs : List Char) : runeCountInString (encode cs) = cs.length := by
  rw [runeCountInString, runes_encode]

/-! ### Searching encoded runes -/

theorem isPrefixOf_encode (ds xs : List Char) :
    (encode ds).isPrefixOf (encode xs) = ds.isPrefixOf xs := by
  rw [Bool.eq_iff_iff, List.isPrefixOf_iff_prefix, List.isPrefixOf_iff_prefix, encode_prefix_iff]

theorem length_encode_take_succ (c : Char) (cs : List Char) (m : Nat) :
    (encode ((c :: cs).take (m + 1))).length =
      (encode (cs.take m)).length + (String.utf8EncodeChar c).length := by
  simp only [List.take_succ_cons, encode_cons, List.length_append]
  omega

/-- A search for the encoding of runes finds the byte offset of their first occurrence among
the runes. -/
theorem occursFirst_encode (ds cs : List Char) :
    occursFirst (encode ds) (encode cs) =
      (occursFirst ds cs).map fun m => (encode (cs.take m)).length := by
  cases ds with
  | nil => simp
  | cons d ds =>
    obtain ⟨b, bs, hb, hbc, -⟩ := utf8EncodeChar_shape d
    have hS : encode (d :: ds) = b :: (bs ++ encode ds) := by rw [encode_cons, hb, List.cons_append]
    induction cs with
    | nil => simp [hS, occursFirst]
    | cons c cs ih =>
      obtain ⟨b0, es, he, -, hes⟩ := utf8EncodeChar_shape c
      have hP := isPrefixOf_encode (d :: ds) (c :: cs)
      have hE : encode (c :: cs) = b0 :: (es ++ encode cs) := by
        rw [encode_cons, he, List.cons_append]
      rw [hE] at hP ⊢
      rw [occursFirst, hP, occursFirst]
      cases (d :: ds).isPrefixOf (c :: cs)
      · rw [hS, occursFirst_append_of_not_head isContinuation hbc es _ hes, ← hS, ih]
        simp only [Bool.false_eq_true, ↓reduceIte, Option.map_map]
        congr 1
        funext m
        simp only [Function.comp, length_encode_take_succ, he, List.length_cons]
        omega
      · simp

/-- A search for the encoding of runes finds the byte offset of their last occurrence among
the runes. -/
theorem occursLast_encode (ds cs : List Char) :
    occursLast (encode ds) (encode cs) =
      (occursLast ds cs).map fun m => (encode (cs.take m)).length := by
  cases ds with
  | nil => simp
  | cons d ds =>
    obtain ⟨b, bs, hb, hbc, -⟩ := utf8EncodeChar_shape d
    have hS : encode (d :: ds) = b :: (bs ++ encode ds) := by rw [encode_cons, hb, List.cons_append]
    induction cs with
    | nil => simp [hS, occursLast]
    | cons c cs ih =>
      obtain ⟨b0, es, he, -, hes⟩ := utf8EncodeChar_shape c
      have hP := isPrefixOf_encode (d :: ds) (c :: cs)
      have hE : encode (c :: cs) = b0 :: (es ++ encode cs) := by
        rw [encode_cons, he, List.cons_append]
      rw [hE] at hP ⊢
      rw [occursLast, hS, occursLast_append_of_not_head isContinuation hbc es _ hes, ← hS, ih,
        occursLast]
      cases occursLast (d :: ds) cs with
      | some m =>
        simp only [Option.map_some, length_encode_take_succ, he, List.length_cons]
        congr 1
      | none =>
        simp only [Option.map_none]
        rw [hP]
        cases (d :: ds).isPrefixOf (c :: cs) <;> rfl

end Utf8

/-! ## Package `strings` -/

namespace Strings

/-- `strings.Index`: the byte offset of the first occurrence of `sub` in `s`, or `-1`. -/
def index (s sub : Bytes) : Int :=
  match occursFirst sub s with
  | some i => i
  | none => -1

/-- `strings.LastIndex`: the byte offset of the last occurrence of `sub` in `s`, or `-1`. -/
def lastIndex (s sub : Bytes) : Int :=
  match occursLast sub s with
  | some i => i
  | none => -1

/-- `strings.Cut`: the text before and after the first occurrence of `sep`, and whether there
is one. -/
def cut (s sep : Bytes) : Bytes × Bytes × Bool :=
  match occursFirst sep s with
  | some i => (s.take i, s.drop (i + sep.length), true)
  | none => (s, [], false)

end Strings

end GoLib
