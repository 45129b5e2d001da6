import Gowaves.GoLib.BigEndian

/-!
# Big-endian two's-complement byte strings of any length

A non-empty byte string, most significant byte first, stands in two's complement for its
unsigned value less `256 ^ length` when the top bit of its first byte is set; the empty string
stands for zero.  A string of `k + 1` bytes holds the integers of `[-128 * 256^k, 128 * 256^k)`.
A leading byte is redundant when it only repeats the sign of the byte after it (`0x00` before a
byte below `0x80`, `0xFF` before one of at least `0x80`); a non-empty string with no redundant
leading byte is canonical.

* `value_map_not` and `canonical_map_not` — inverting every byte maps the value `x` to
  `-1 - x` and keeps a string canonical;
* `value_trim` and `canonical_trim` — dropping the redundant leading bytes (`trim`) keeps the
  value and leaves a canonical string;
* `value_mem_range` and `value_not_mem_range_of_canonical` — a string holds the integers of its
  length's range, and a canonical string of `k + 2` bytes none of the shorter range;
* `length_le_of_canonical` — so a canonical string is no longer than any non-empty string of
  the same value: it is the shortest encoding;
* `canonical_unique` — and it is the only canonical string of its value.
-/

set_option autoImplicit false

namespace TwosComplement

open GoLib.BigEndian

/-- The integer a big-endian two's-complement byte string stands for. -/
def value : List UInt8 → Int
  | [] => 0
  | b :: bs =>
    if b.toNat < 128 then (ofBytes (b :: bs) : Int)
    else (ofBytes (b :: bs) : Int) - 256 ^ (bs.length + 1)

/-- The leading byte `b` before `c` only repeats the sign of `c`. -/
def Redundant (b c : UInt8) : Prop :=
  (b.toNat = 0 ∧ c.toNat < 128) ∨ (b.toNat = 255 ∧ 128 ≤ c.toNat)

instance (b c : UInt8) : Decidable (Redundant b c) := inferInstanceAs (Decidable (_ ∨ _))

/-- A non-empty string with no redundant leading byte. -/
def Canonical : List UInt8 → Prop
  | [] => False
  | [_] => True
  | b :: c :: _ => ¬ Redundant b c

instance : DecidablePred Canonical := fun bs =>
  match bs with
  | [] => isFalse id
  | [_] => isTrue trivial
  | b :: c :: _ => inferInstanceAs (Decidable (¬ Redundant b c))

/-- Drop the redundant leading bytes. -/
def trim : List UInt8 → List UInt8
  | [] => []
  | b :: rest =>
    match rest with
    | [] => [b]
    | c :: _ => if Redundant b c then trim rest else b :: rest

example : trim [0xFF, 0xFF, 0x80] = [0x80] ∧ trim [0x00, 0x00, 0x80] = [0x00, 0x80] := by
  decide

/-! ## Values -/

theorem value_cons (b : UInt8) (bs : List UInt8) :
    value (b :: bs) = if b.toNat < 128 then (b.toNat * 256 ^ bs.length + ofBytes bs : Int)
      else (b.toNat * 256 ^ bs.length + ofBytes bs : Int) - 256 * 256 ^ bs.length := by
  rw [value, ofBytes_cons, pow_succ]
  push_cast
  ring_nf

theorem value_cons_of_redundant {b c : UInt8} (bs : List UInt8) (h : Redundant b c) :
    value (b :: c :: bs) = value (c :: bs) := by
  rw [value_cons b, value_cons c, ofBytes_cons, List.length_cons, pow_succ]
  rcases h with ⟨hb, hc⟩ | ⟨hb, hc⟩
  · rw [if_pos (show b.toNat < 128 by omega), if_pos hc, hb]
    push_cast
    ring
  · rw [if_neg (show ¬ b.toNat < 128 by omega), if_neg (show ¬ c.toNat < 128 by omega), hb]
    push_cast
    ring

/-- Trimming keeps the value; this and `canonical_trim` follow the recursion of `trim`. -/
@[simp] theorem value_trim (bs : List UInt8) : value (trim bs) = value bs := by
  fun_induction trim bs with
  | case1 => rfl
  | case2 b => rfl
  | case3 b c bs hred ih => rw [ih, value_cons_of_redundant bs hred]
  | case4 b c bs hred => rfl

theorem canonical_trim {bs : List UInt8} (h : bs ≠ []) : Canonical (trim bs) := by
  fun_induction trim bs with
  | case1 => exact absurd rfl h
  | case2 b => exact trivial
  | case3 b c bs hred ih => exact ih (List.cons_ne_nil c bs)
  | case4 b c bs hred => exact hred

theorem value_cons_of_lt {b : UInt8} (bs : List UInt8) (h : b.toNat < 128) :
    value (b :: bs) = ofBytes (b :: bs) := by
  rw [value, if_pos h]

theorem value_zero_cons (bs : List UInt8) : value (0 :: bs) = ofBytes bs := by
  rw [value_cons_of_lt bs (by decide), ofBytes_cons]
  simp

theorem canonical_cons {b : UInt8} (h0 : b.toNat ≠ 0) (h255 : b.toNat ≠ 255) (bs : List UInt8) :
    Canonical (b :: bs) := by
  match bs with
  | [] => exact trivial
  | c :: _ =>
    simp only [Canonical, Redundant]
    omega

theorem canonical_zero_cons {c : UInt8} (hc : 128 ≤ c.toNat) (bs : List UInt8) :
    Canonical (0 :: c :: bs) := by
  simp only [Canonical, Redundant, UInt8.toNat_zero]
  omega

/-! ## Inverting every byte

In two's complement `~x = -1 - x`: inverting every byte negates and subtracts one, and keeps
a string canonical. -/

theorem toNat_not (b : UInt8) : (~~~b).toNat = 255 - b.toNat := by
  simp [UInt8.toNat_not]

theorem ofBytes_map_not (bs : List UInt8) :
    ofBytes (bs.map (~~~ ·)) + ofBytes bs + 1 = 256 ^ bs.length := by
  induction bs with
  | nil => rfl
  | cons b bs ih =>
    have hb := b.toNat_lt
    have hw : (255 - b.toNat) * 256 ^ bs.length + b.toNat * 256 ^ bs.length =
        255 * 256 ^ bs.length := by
      rw [← Nat.add_mul, Nat.sub_add_cancel (by omega)]
    rw [List.map_cons, ofBytes_cons, ofBytes_cons, List.length_map, toNat_not,
      List.length_cons, pow_succ]
    omega

theorem value_map_not {bs : List UInt8} (h : bs ≠ []) :
    value (bs.map (~~~ ·)) = -1 - value bs := by
  obtain ⟨b, bs, rfl⟩ := List.exists_cons_of_ne_nil h
  have hsum := congrArg (Nat.cast (R := Int)) (ofBytes_map_not (b :: bs))
  have hb := b.toNat_lt
  push_cast at hsum
  simp only [List.map_cons, List.length_cons] at hsum ⊢
  rw [value, value, toNat_not, List.length_map]
  by_cases hlt : b.toNat < 128
  · rw [if_neg (by omega), if_pos hlt]
    omega
  · rw [if_pos (by omega), if_neg hlt]
    omega

theorem redundant_not_iff {b c : UInt8} : Redundant (~~~b) (~~~c) ↔ Redundant b c := by
  have hb := b.toNat_lt
  have hc := c.toNat_lt
  simp only [Redundant, toNat_not]
  omega

theorem canonical_map_not {bs : List UInt8} : Canonical (bs.map (~~~ ·)) ↔ Canonical bs := by
  match bs with
  | [] => exact Iff.rfl
  | [_] => exact Iff.rfl
  | b :: c :: _ => exact not_congr redundant_not_iff

/-! ## Ranges and the shortest encoding -/

section Range

variable {b c : UInt8} {bs : List UInt8}

theorem mul_weight_le {d m : Nat} (k : Nat) (h : d ≤ m) :
    (d : Int) * 256 ^ k ≤ m * 256 ^ k :=
  Int.mul_le_mul_of_nonneg_right (by omega) (by positivity)

/-- A string of `k + 1` bytes holds an integer of `[-128 * 256^k, 128 * 256^k)`. -/
theorem value_mem_range (b : UInt8) (bs : List UInt8) :
    -(128 * 256 ^ bs.length : Int) ≤ value (b :: bs) ∧
      value (b :: bs) < 128 * 256 ^ bs.length := by
  have hr : (ofBytes bs : Int) < 256 ^ bs.length := by exact_mod_cast ofBytes_lt bs
  have hb : b.toNat < 256 := b.toNat_lt
  have hbn : 0 ≤ (b.toNat : Int) * 256 ^ bs.length := by positivity
  rw [value_cons]
  split
  · have hle := mul_weight_le bs.length (show b.toNat ≤ 127 by omega)
    constructor <;> omega
  · have hge := mul_weight_le bs.length (show 128 ≤ b.toNat by omega)
    have hle := mul_weight_le bs.length (show b.toNat ≤ 255 by omega)
    constructor <;> omega

theorem value_cons_cons (b c : UInt8) (bs : List UInt8) :
    value (b :: c :: bs) = 256 * (b.toNat * 256 ^ bs.length : Int) +
      c.toNat * 256 ^ bs.length + ofBytes bs -
        (if b.toNat < 128 then 0 else 65536 * 256 ^ bs.length) := by
  rw [value_cons, ofBytes_cons, List.length_cons]
  split <;> push_cast <;> ring

/-- A canonical string of `k + 2` bytes holds no integer of `[-128 * 256^k, 128 * 256^k)`: its
first byte is needed. -/
theorem value_not_mem_range_of_canonical (h : Canonical (b :: c :: bs)) :
    128 * 256 ^ bs.length ≤ value (b :: c :: bs) ∨
      value (b :: c :: bs) < -(128 * 256 ^ bs.length : Int) := by
  have hr : (ofBytes bs : Int) < 256 ^ bs.length := by exact_mod_cast ofBytes_lt bs
  have hb : b.toNat < 256 := b.toNat_lt
  have hc : c.toNat < 256 := c.toNat_lt
  have hP : (0 : Int) < 256 ^ bs.length := by positivity
  have hbn : 0 ≤ (b.toNat : Int) * 256 ^ bs.length := by positivity
  have hcn : 0 ≤ (c.toNat : Int) * 256 ^ bs.length := by positivity
  simp only [Canonical, Redundant, not_or, not_and, Nat.not_lt] at h
  obtain ⟨h0, h255⟩ := h
  have hcw := mul_weight_le bs.length (show c.toNat ≤ 255 by omega)
  rw [value_cons_cons]
  split
  · left
    by_cases hb0 : b.toNat = 0
    · have hc128 := mul_weight_le bs.length (h0 hb0)
      have hbw := mul_weight_le bs.length (show b.toNat ≤ 0 by omega)
      omega
    · have hbw := mul_weight_le bs.length (show 1 ≤ b.toNat by omega)
      omega
  · right
    by_cases hb255 : b.toNat = 255
    · have hc127 := mul_weight_le bs.length (show c.toNat ≤ 127 by have := h255 hb255; omega)
      have hbw := mul_weight_le bs.length (show b.toNat ≤ 255 by omega)
      omega
    · have hbw := mul_weight_le bs.length (show b.toNat ≤ 254 by omega)
      omega

theorem length_le_of_mem_range {k : Nat} (h : Canonical bs)
    (hv : -(128 * 256 ^ k : Int) ≤ value bs ∧ value bs < 128 * 256 ^ k) : bs.length ≤ k + 1 := by
  match bs, h with
  | [_], _ => simp
  | b :: c :: rest, h =>
    by_contra hlen
    have hk : k ≤ rest.length := by simp at hlen; omega
    have hpow : (256 : Int) ^ k ≤ 256 ^ rest.length := pow_le_pow_right₀ (by norm_num) hk
    have hout := value_not_mem_range_of_canonical h
    omega

/-- **The canonical string is the shortest encoding**: no non-empty string of the same value is
shorter. -/
theorem length_le_of_canonical {cs : List UInt8} (h : Canonical bs) (hcs : cs ≠ [])
    (hv : value bs = value cs) : bs.length ≤ cs.length := by
  obtain ⟨c, cs', rfl⟩ := List.exists_cons_of_ne_nil hcs
  have := length_le_of_mem_range h (hv ▸ value_mem_range c cs')
  simpa using this

theorem value_emod (bs : List UInt8) : value bs % 256 ^ bs.length = ofBytes bs := by
  have hr := ofBytes_lt bs
  have hpos : (0 : Int) < 256 ^ bs.length := by positivity
  match bs with
  | [] => rfl
  | b :: bs =>
    have hrc : (ofBytes (b :: bs) : Int) < 256 ^ (bs.length + 1) := by exact_mod_cast hr
    rw [value]
    split
    · exact Int.emod_eq_of_lt (by positivity) hrc
    · rw [List.length_cons, Int.sub_emod_right]
      exact Int.emod_eq_of_lt (by positivity) hrc

/-- **Canonical strings are unique**: two canonical strings of one value are equal. -/
theorem canonical_unique {cs : List UInt8} (hb : Canonical bs) (hc : Canonical cs)
    (hv : value bs = value cs) : bs = cs := by
  have hbs : bs ≠ [] := by rintro rfl; exact hb
  have hcs : cs ≠ [] := by rintro rfl; exact hc
  have hlen : bs.length = cs.length :=
    le_antisymm (length_le_of_canonical hb hcs hv) (length_le_of_canonical hc hbs hv.symm)
  have hof : ofBytes bs = ofBytes cs := by
    have h1 := value_emod bs
    have h2 := value_emod cs
    rw [← hv, ← hlen] at h2
    exact_mod_cast h1.symm.trans h2
  rw [← toBytes_ofBytes bs, ← toBytes_ofBytes cs, hlen, hof]

end Range

end TwosComplement
