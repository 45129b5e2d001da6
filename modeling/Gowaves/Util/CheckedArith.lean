import Mathlib.Data.Int.ModEq
import Mathlib.Algebra.Order.Group.Unbundled.Int
import Mathlib.Tactic.Positivity
import Mathlib.Data.BitVec
import Gowaves.Util.Common
import Gowaves.Lib.SignedDivision

/-!
# Checked arithmetic at every Go integer type (`pkg/util/common/util.go`)

`common.AddInt`, `SubInt` and `MulInt`, modelled generically in `Gowaves.Util.Common`, are here
taken at every Go integer type.  A signed type of `w` bits (`int8` … `int64`, `int`) is
`SignedInt w`: two's-complement bits, compared as the integers they stand for, divided with
truncation toward zero (so that `MinInt / -1` wraps to `MinInt`, without a panic, as in Go).
An unsigned type of `w` bits (`uint8` … `uint64`, `uint`, `uintptr`) is `BitVec w` with its own
wrapping operators, unsigned order and division.

`Exact val Fits op err f` says that the checked function `f` returns the exact value of `op`
when the type holds it, and zero with the error `err` when it does not.  A signed result wraps
as `Int.bmod (2^w)`; what the proofs use of it is `bmod_eq_of_dvd`, that the balanced residue is
the only integer in range congruent to the exact one.

* `addInt_exact`, `subInt_exact`, `mulInt_exact` — exactness at every signed width;
* `addInt_exact_unsigned`, `subInt_exact_unsigned`, `mulInt_exact_unsigned` — at every unsigned
  width;
* `checkedArith_exact` — the six together.

The sign tests are exact everywhere: `MinInt * -1` and `-1 * MinInt` fail the sign comparison,
and a wrapped product that passes it is never divided back to the first factor.
-/

set_option autoImplicit false

namespace Gowaves.Util

/-! ## Go integer types -/

/-- A Go signed integer type of `w` bits. -/
structure SignedInt (w : Nat) where
  bits : BitVec w
  deriving DecidableEq

namespace SignedInt

variable {w : Nat}

/-- The integer a value stands for. -/
def toInt (a : SignedInt w) : Int := a.bits.toInt

instance : Zero (SignedInt w) := ⟨⟨0⟩⟩
instance : Add (SignedInt w) := ⟨fun a b => ⟨a.bits + b.bits⟩⟩
instance : Sub (SignedInt w) := ⟨fun a b => ⟨a.bits - b.bits⟩⟩
instance : Mul (SignedInt w) := ⟨fun a b => ⟨a.bits * b.bits⟩⟩
instance : Div (SignedInt w) := ⟨fun a b => ⟨a.bits.sdiv b.bits⟩⟩
instance : LT (SignedInt w) := ⟨fun a b => a.toInt < b.toInt⟩

instance : DecidableRel (α := SignedInt w) (· < ·) := fun a b =>
  inferInstanceAs (Decidable (a.toInt < b.toInt))

@[simp] theorem toInt_zero : (0 : SignedInt w).toInt = 0 := BitVec.toInt_zero

theorem toInt_add (a b : SignedInt w) : (a + b).toInt = (a.toInt + b.toInt).bmod (2 ^ w) :=
  BitVec.toInt_add _ _

theorem toInt_sub (a b : SignedInt w) : (a - b).toInt = (a.toInt - b.toInt).bmod (2 ^ w) :=
  BitVec.toInt_sub

theorem toInt_mul (a b : SignedInt w) : (a * b).toInt = (a.toInt * b.toInt).bmod (2 ^ w) :=
  BitVec.toInt_mul _ _

theorem toInt_div (a b : SignedInt w) :
    (a / b).toInt = (a.toInt.tdiv b.toInt).bmod (2 ^ w) :=
  BitVec.toInt_sdiv _ _

theorem lt_iff (a b : SignedInt w) : a < b ↔ a.toInt < b.toInt := Iff.rfl

theorem eq_iff (a b : SignedInt w) : a = b ↔ a.toInt = b.toInt := by
  rw [toInt, toInt, BitVec.toInt_inj]
  exact ⟨congrArg bits, fun h => by cases a; cases b; cases h; rfl⟩

theorem toInt_width_zero (a : SignedInt 0) : a.toInt = 0 := by
  rw [toInt, BitVec.eq_nil a.bits]
  rfl

end SignedInt

/-- The integers that a signed type of `w` bits holds. -/
def FitsSigned (w : Nat) (x : Int) : Prop := -2 ^ (w - 1) ≤ x ∧ x < 2 ^ (w - 1)

/-- The integers that an unsigned type of `w` bits holds. -/
def FitsUnsigned (w : Nat) (x : Int) : Prop := 0 ≤ x ∧ x < 2 ^ w

theorem SignedInt.fits_toInt {w : Nat} (a : SignedInt w) : FitsSigned w a.toInt :=
  ⟨BitVec.le_toInt a.bits, BitVec.toInt_lt⟩

/-- The checked function `f` computes `op` exactly, on a type whose values stand for the
integers `val` and which holds those satisfying `Fits`. -/
def Exact {T : Type} [Zero T] (val : T → Int) (Fits : Int → Prop) (op : Int → Int → Int)
    (err : String) (f : T → T → T × Option String) : Prop :=
  ∀ a b, (Fits (op (val a) (val b)) → (f a b).2 = none ∧ val (f a b).1 = op (val a) (val b)) ∧
    (¬ Fits (op (val a) (val b)) → f a b = (0, some err))

/-! ## Wrapping into `w` bits -/

/-- The balanced residue modulo `m` is the one integer in `[-(m/2), (m+1)/2)` congruent to
`x`. -/
theorem bmod_eq_of_dvd {m : Nat} (hm : 0 < m) {x y : Int} (h1 : -((m : Int) / 2) ≤ y)
    (h2 : y < ((m : Int) + 1) / 2) (hd : (m : Int) ∣ x - y) : x.bmod m = y := by
  have hb1 := Int.le_bmod (x := x) hm
  have hb2 := Int.bmod_lt (x := x) hm
  have hx : (m : Int) ∣ x - x.bmod m := Int.ModEq.dvd Int.bmod_emod
  have hc : (m : Int) ∣ x.bmod m - y := by
    have := Int.dvd_sub hd hx
    rwa [sub_sub_sub_cancel_left] at this
  have h0 : x.bmod m - y = 0 := Int.eq_zero_of_abs_lt_dvd hc (by rw [abs_lt]; omega)
  omega

section Width

variable {w : Nat}

theorem two_pow_eq (hw : 0 < w) : ((2 ^ w : Nat) : Int) = 2 * 2 ^ (w - 1) := by
  obtain ⟨v, rfl⟩ : ∃ v, w = v + 1 := ⟨w - 1, by omega⟩
  push_cast
  rw [pow_succ, mul_comm]

theorem dvd_sub_bmod (x : Int) : ((2 ^ w : Nat) : Int) ∣ x - x.bmod (2 ^ w) :=
  Int.ModEq.dvd Int.bmod_emod

theorem bmod_of_fits (hw : 0 < w) {x : Int} (h : FitsSigned w x) : x.bmod (2 ^ w) = x := by
  have hM := two_pow_eq hw
  obtain ⟨h1, h2⟩ := h
  exact bmod_eq_of_dvd (by positivity) (by omega) (by omega) (by simp)

theorem fits_bmod (hw : 0 < w) (x : Int) : FitsSigned w (x.bmod (2 ^ w)) := by
  have hM := two_pow_eq hw
  have h1 := Int.le_bmod (x := x) (m := 2 ^ w) (by positivity)
  have h2 := Int.bmod_lt (x := x) (m := 2 ^ w) (by positivity)
  constructor <;> omega

theorem bmod_of_ge (hw : 0 < w) {x : Int} (h1 : 2 ^ (w - 1) ≤ x) (h2 : x < 2 * 2 ^ (w - 1)) :
    x.bmod (2 ^ w) = x - 2 * 2 ^ (w - 1) := by
  have hM := two_pow_eq hw
  exact bmod_eq_of_dvd (by positivity) (by omega) (by omega) (by rw [hM]; simp)

theorem bmod_of_lt (hw : 0 < w) {x : Int} (h1 : -(2 * 2 ^ (w - 1)) ≤ x)
    (h2 : x < -2 ^ (w - 1)) : x.bmod (2 ^ w) = x + 2 * 2 ^ (w - 1) := by
  have hM := two_pow_eq hw
  exact bmod_eq_of_dvd (by positivity) (by omega) (by omega) (by rw [hM]; simp)

end Width

/-! ## Signed types -/

section Signed

variable {w : Nat}

theorem exact_width_zero (op : Int → Int → Int) (hop : op 0 0 = 0) (err : String)
    (f : SignedInt 0 → SignedInt 0 → SignedInt 0 × Option String)
    (hf : ∀ a b, (f a b).2 = none) : Exact SignedInt.toInt (FitsSigned 0) op err f := by
  intro a b
  rw [SignedInt.toInt_width_zero a, SignedInt.toInt_width_zero b, hop]
  exact ⟨fun _ => ⟨hf a b, SignedInt.toInt_width_zero _⟩, fun h => absurd ⟨by decide, by decide⟩ h⟩

theorem addInt_width_zero (a b : SignedInt 0) : (addInt a b).2 = none := by
  unfold addInt
  simp [SignedInt.lt_iff, SignedInt.toInt_width_zero]

theorem subInt_width_zero (a b : SignedInt 0) : (subInt a b).2 = none := by
  unfold subInt
  simp [SignedInt.lt_iff, SignedInt.toInt_width_zero]

theorem mulInt_width_zero (a b : SignedInt 0) : (mulInt a b).2 = none := by
  unfold mulInt
  have ha : a = 0 := (SignedInt.eq_iff _ _).mpr (by simp [SignedInt.toInt_width_zero])
  simp [ha]

/-- **`AddInt` is exact at every signed width.** -/
theorem addInt_exact (w : Nat) :
    Exact SignedInt.toInt (FitsSigned w) (· + ·) addOverflow (addInt (T := SignedInt w)) := by
  rcases Nat.eq_zero_or_pos w with rfl | hw
  · exact exact_width_zero _ rfl _ _ addInt_width_zero
  intro a b
  obtain ⟨ha1, ha2⟩ := a.fits_toInt
  obtain ⟨hb1, hb2⟩ := b.fits_toInt
  unfold addInt
  simp only [SignedInt.lt_iff, SignedInt.toInt_add, SignedInt.toInt_zero]
  constructor
  · intro hfit
    rw [bmod_of_fits hw hfit]
    simp only [show decide (a.toInt < a.toInt + b.toInt) = decide (0 < b.toInt) by
      simp only [decide_eq_decide]; omega, if_true]
    exact ⟨trivial, by rw [SignedInt.toInt_add, bmod_of_fits hw hfit]⟩
  · intro hnot
    -- out of range the wrap is off by `2^w`, on the side that flips the comparison
    have hc : (a.toInt + b.toInt).bmod (2 ^ w) = a.toInt + b.toInt - 2 * 2 ^ (w - 1) ∧
        0 < b.toInt ∨ (a.toInt + b.toInt).bmod (2 ^ w) = a.toInt + b.toInt + 2 * 2 ^ (w - 1) ∧
        b.toInt < 0 := by
      by_cases hup : 2 ^ (w - 1) ≤ a.toInt + b.toInt
      · exact .inl ⟨bmod_of_ge hw hup (by omega), by omega⟩
      · exact .inr ⟨bmod_of_lt hw (by omega) (by unfold FitsSigned at hnot; omega), by
          unfold FitsSigned at hnot; omega⟩
    rw [if_neg]
    rcases hc with ⟨hc, hb⟩ | ⟨hc, hb⟩ <;> rw [hc] <;> simp only [decide_eq_decide] <;> omega

/-- **`SubInt` is exact at every signed width.** -/
theorem subInt_exact (w : Nat) :
    Exact SignedInt.toInt (FitsSigned w) (· - ·) subOverflow (subInt (T := SignedInt w)) := by
  rcases Nat.eq_zero_or_pos w with rfl | hw
  · exact exact_width_zero _ rfl _ _ subInt_width_zero
  intro a b
  obtain ⟨ha1, ha2⟩ := a.fits_toInt
  obtain ⟨hb1, hb2⟩ := b.fits_toInt
  unfold subInt
  simp only [SignedInt.lt_iff, SignedInt.toInt_sub, SignedInt.toInt_zero]
  constructor
  · intro hfit
    rw [bmod_of_fits hw hfit]
    simp only [show decide (a.toInt - b.toInt < a.toInt) = decide (0 < b.toInt) by
      simp only [decide_eq_decide]; omega, if_true]
    exact ⟨trivial, by rw [SignedInt.toInt_sub, bmod_of_fits hw hfit]⟩
  · intro hnot
    have hc : (a.toInt - b.toInt).bmod (2 ^ w) = a.toInt - b.toInt - 2 * 2 ^ (w - 1) ∧
        b.toInt < 0 ∨ (a.toInt - b.toInt).bmod (2 ^ w) = a.toInt - b.toInt + 2 * 2 ^ (w - 1) ∧
        0 < b.toInt := by
      by_cases hup : 2 ^ (w - 1) ≤ a.toInt - b.toInt
      · exact .inl ⟨bmod_of_ge hw hup (by omega), by omega⟩
      · exact .inr ⟨bmod_of_lt hw (by omega) (by unfold FitsSigned at hnot; omega), by
          unfold FitsSigned at hnot; omega⟩
    rw [if_neg]
    rcases hc with ⟨hc, hb⟩ | ⟨hc, hb⟩ <;> rw [hc] <;> simp only [decide_eq_decide] <;> omega

theorem mul_neg_iff_ne {x y : Int} (hx : x ≠ 0) (hy : y ≠ 0) :
    decide (x * y < 0) = (decide (x < 0) != decide (y < 0)) := by
  rcases lt_or_gt_of_ne hx with hx | hx <;> rcases lt_or_gt_of_ne hy with hy | hy
  · simp [hx, hy, (mul_pos_of_neg_of_neg hx hy).le.not_gt]
  · simp [hx, hy.le.not_gt, mul_neg_of_neg_of_pos hx hy]
  · simp [hx.le.not_gt, hy, mul_neg_of_pos_of_neg hx hy]
  · simp [hx.le.not_gt, hy.le.not_gt, (mul_pos hx hy).le.not_gt]

theorem mulInt_test_fits (hw : 0 < w) {A B : Int} (hA : FitsSigned w A) (hB : FitsSigned w B)
    (hB0 : B ≠ 0)
    (hs : decide ((A * B).bmod (2 ^ w) < 0) = (decide (A < 0) != decide (B < 0)))
    (hq : (((A * B).bmod (2 ^ w)).tdiv B).bmod (2 ^ w) = A) : FitsSigned w (A * B) := by
  have hM := two_pow_eq hw
  set C := (A * B).bmod (2 ^ w) with hCdef
  set P : Int := 2 ^ (w - 1)
  have hP : 0 < P := by positivity
  obtain ⟨hC1, hC2⟩ := fits_bmod hw (A * B)
  rw [← hCdef] at hC1 hC2
  obtain ⟨hA1, hA2⟩ := hA
  obtain ⟨hB1, hB2⟩ := hB
  set Q := C.tdiv B
  have hQle : Q.natAbs ≤ C.natAbs := Int.natAbs_tdiv_le_natAbs C B
  -- `Q ≡ A` modulo `2^w`, and both lie within `P` of zero: they are equal or `Q = A + 2^w`
  obtain ⟨k, hk⟩ : ((2 ^ w : Nat) : Int) ∣ Q - A := by
    have := dvd_sub_bmod (w := w) Q
    rwa [hq] at this
  rw [hM] at hk
  have hlo : -(2 * P) < 2 * P * k := by rw [← hk]; omega
  have hhi : 2 * P * k ≤ 2 * P := by rw [← hk]; omega
  have hk1 : -1 < k := Int.lt_of_mul_lt_mul_left (by simpa using hlo) (by omega)
  have hk2 : k ≤ 1 := Int.le_of_mul_le_mul_left (by simpa using hhi) (by omega)
  obtain rfl | rfl : k = 0 ∨ k = 1 := by omega
  · -- exact division: the remainder is a multiple of `2^w` smaller than `|B|`, hence zero
    have hQA : Q = A := by omega
    have hR : (C.tmod B).natAbs < B.natAbs := by
      rw [Int.natAbs_tmod]; exact Nat.mod_lt _ (Int.natAbs_pos.mpr hB0)
    have hRdef : C.tmod B = C - B * A := by
      rw [Int.tmod_def]
      change C - B * Q = C - B * A
      rw [hQA]
    have hdR : ((2 ^ w : Nat) : Int) ∣ C.tmod B := by
      have := dvd_sub_bmod (w := w) (A * B)
      rw [← hCdef, hRdef] at *
      have h' := dvd_neg.mpr this
      rwa [neg_sub, mul_comm A B] at h'
    have hR0 : C.tmod B = 0 :=
      Int.eq_zero_of_abs_lt_dvd hdR (by rw [hM, abs_lt]; constructor <;> omega)
    have hCAB : C = A * B := by rw [mul_comm]; omega
    rw [← hCAB]
    exact ⟨hC1, hC2⟩
  · -- `Q = P` and `A = -P`: only `|B| = 1` reaches `|Q| = P`, and then the signs disagree
    have hQP : Q = P := by omega
    have hAP : A = -P := by omega
    have hB1' : B.natAbs = 1 := by
      by_contra hne
      have hhalf := SignedDivision.natAbs_tdiv_le_half (a := C)
        (by have := Int.natAbs_pos.mpr hB0; omega : 2 ≤ B.natAbs)
      omega
    rcases Int.natAbs_eq_iff.mp hB1' with hb | hb
    · have : Q = C := by simp [Q, hb]
      omega
    · have hCneg : C = -P := by
        have : Q = -C := by simp [Q, hb]
        omega
      rw [hCneg, hAP, hb] at hs
      simp at hs

/-- **`MulInt` is exact at every signed width.** -/
theorem mulInt_exact (w : Nat) :
    Exact SignedInt.toInt (FitsSigned w) (· * ·) mulOverflow (mulInt (T := SignedInt w)) := by
  rcases Nat.eq_zero_or_pos w with rfl | hw
  · exact exact_width_zero _ rfl _ _ mulInt_width_zero
  intro a b
  unfold mulInt
  by_cases h0 : a = 0 ∨ b = 0
  · rw [if_pos h0]
    have : a.toInt * b.toInt = 0 := by
      rcases h0 with rfl | rfl <;> simp
    simp only [this]
    exact ⟨fun _ => ⟨trivial, SignedInt.toInt_zero⟩, fun h => absurd ⟨by
      have := pow_pos (show (0 : Int) < 2 by decide) (w - 1); omega, by positivity⟩ h⟩
  rw [if_neg h0]
  have hA0 : a.toInt ≠ 0 := fun h => h0 (.inl ((SignedInt.eq_iff _ _).mpr (by simp [h])))
  have hB0 : b.toInt ≠ 0 := fun h => h0 (.inr ((SignedInt.eq_iff _ _).mpr (by simp [h])))
  simp only [SignedInt.lt_iff, SignedInt.toInt_mul, SignedInt.toInt_zero, SignedInt.eq_iff,
    SignedInt.toInt_div]
  constructor
  · intro hfit
    have hc : (a.toInt * b.toInt).bmod (2 ^ w) = a.toInt * b.toInt := bmod_of_fits hw hfit
    rw [hc, Int.mul_tdiv_cancel _ hB0, bmod_of_fits hw a.fits_toInt,
      mul_neg_iff_ne hA0 hB0]
    simp only [if_true, and_self]
    exact ⟨trivial, by rw [SignedInt.toInt_mul, hc]⟩
  · intro hnot
    rw [if_neg]
    rintro ⟨hs, hq⟩
    exact hnot (mulInt_test_fits hw a.fits_toInt b.fits_toInt hB0 hs hq)

end Signed

/-! ## Unsigned types -/

section Unsigned

variable {w : Nat}

theorem mod_of_lt_two_mul {x m : Nat} (h : x < 2 * m) : x % m = if x < m then x else x - m := by
  split
  · exact Nat.mod_eq_of_lt ‹_›
  · rw [Nat.mod_eq_sub_mod (by omega), Nat.mod_eq_of_lt (by omega)]

theorem cast_two_pow (w : Nat) : ((2 ^ w : Nat) : Int) = 2 ^ w := by push_cast; rfl

theorem bitVec_toNat_zero (w : Nat) : (@OfNat.ofNat (BitVec w) 0 Zero.toOfNat0).toNat = 0 := by
  show (0 : BitVec w).toNat = 0
  simp

/-- **`AddInt` is exact at every unsigned width.** -/
theorem addInt_exact_unsigned (w : Nat) :
    Exact (fun a : BitVec w => (a.toNat : Int)) (FitsUnsigned w) (· + ·) addOverflow addInt := by
  intro a b
  have ha := a.isLt
  have hb := b.isLt
  unfold addInt FitsUnsigned
  simp only [BitVec.lt_def, BitVec.toNat_add, bitVec_toNat_zero, ← cast_two_pow]
  by_cases hlt : a.toNat + b.toNat < 2 ^ w
  · rw [Nat.mod_eq_of_lt hlt, if_pos (by simp only [decide_eq_decide]; omega)]
    refine ⟨fun _ => ⟨rfl, ?_⟩, fun h => absurd ⟨by omega, by omega⟩ h⟩
    rw [BitVec.toNat_add, Nat.mod_eq_of_lt hlt]
    push_cast
    rfl
  · rw [mod_of_lt_two_mul (by omega), if_neg hlt, if_neg (by simp only [decide_eq_decide]; omega)]
    exact ⟨fun h => absurd h (by omega), fun _ => rfl⟩

/-- **`SubInt` is exact at every unsigned width.** -/
theorem subInt_exact_unsigned (w : Nat) :
    Exact (fun a : BitVec w => (a.toNat : Int)) (FitsUnsigned w) (· - ·) subOverflow subInt := by
  intro a b
  have ha := a.isLt
  have hb := b.isLt
  unfold subInt FitsUnsigned
  simp only [BitVec.lt_def, BitVec.toNat_sub, bitVec_toNat_zero, ← cast_two_pow]
  by_cases hle : b.toNat ≤ a.toNat
  · have hs : (2 ^ w - b.toNat + a.toNat) % 2 ^ w = a.toNat - b.toNat := by
      rw [mod_of_lt_two_mul (by omega), if_neg (by omega)]
      omega
    rw [hs, if_pos (by simp only [decide_eq_decide]; omega)]
    refine ⟨fun _ => ⟨rfl, ?_⟩, fun h => absurd ⟨by omega, by omega⟩ h⟩
    rw [BitVec.toNat_sub, hs]
    omega
  · have hs : (2 ^ w - b.toNat + a.toNat) % 2 ^ w = 2 ^ w - b.toNat + a.toNat := by
      rw [mod_of_lt_two_mul (by omega), if_pos (by omega)]
    rw [hs, if_neg (by simp only [decide_eq_decide]; omega)]
    exact ⟨fun h => absurd h (by omega), fun _ => rfl⟩

/-- **`MulInt` is exact at every unsigned width**: the sign test always passes, and dividing a
wrapped product back gives less than the first factor. -/
theorem mulInt_exact_unsigned (w : Nat) :
    Exact (fun a : BitVec w => (a.toNat : Int)) (FitsUnsigned w) (· * ·) mulOverflow mulInt := by
  intro a b
  unfold mulInt FitsUnsigned
  by_cases h0 : a = 0 ∨ b = 0
  · rw [if_pos h0]
    have hab : a.toNat * b.toNat = 0 := by rcases h0 with rfl | rfl <;> simp
    simp only [← Nat.cast_mul, hab, Nat.cast_zero]
    exact ⟨fun _ => ⟨trivial, by simp⟩, fun h => absurd ⟨le_refl _, by positivity⟩ h⟩
  rw [if_neg h0]
  have hB0 : b.toNat ≠ 0 := fun h => h0 (.inr (BitVec.eq_of_toNat_eq (by simp [h])))
  simp only [BitVec.lt_def, bitVec_toNat_zero, Nat.not_lt_zero, decide_false, bne_self_eq_false,
    true_and, BitVec.toNat_eq, BitVec.toNat_udiv, BitVec.toNat_mul, ← Nat.cast_mul,
    ← cast_two_pow]
  by_cases hlt : a.toNat * b.toNat < 2 ^ w
  · rw [Nat.mod_eq_of_lt hlt, Nat.mul_div_cancel _ (Nat.pos_of_ne_zero hB0), if_pos rfl]
    refine ⟨fun _ => ⟨rfl, ?_⟩, fun h => absurd ⟨by omega, by omega⟩ h⟩
    rw [BitVec.toNat_mul, Nat.mod_eq_of_lt hlt]
  · rw [if_neg]
    · exact ⟨fun h => absurd h (by omega), fun _ => rfl⟩
    intro hq
    have hmod := Nat.mod_lt (a.toNat * b.toNat) (Nat.two_pow_pos w)
    have hle := Nat.div_mul_le_self (a.toNat * b.toNat % 2 ^ w) b.toNat
    rw [hq] at hle
    omega

end Unsigned

/-- **Checked arithmetic is exact at every Go integer type**: at every width, signed and
unsigned, `AddInt`, `SubInt` and `MulInt` return the exact sum, difference and product when the
type holds it, and an error when it does not. -/
theorem checkedArith_exact (w : Nat) :
    Exact SignedInt.toInt (FitsSigned w) (· + ·) addOverflow (addInt (T := SignedInt w)) ∧
    Exact SignedInt.toInt (FitsSigned w) (· - ·) subOverflow (subInt (T := SignedInt w)) ∧
    Exact SignedInt.toInt (FitsSigned w) (· * ·) mulOverflow (mulInt (T := SignedInt w)) ∧
    Exact (fun a : BitVec w => (a.toNat : Int)) (FitsUnsigned w) (· + ·) addOverflow addInt ∧
    Exact (fun a : BitVec w => (a.toNat : Int)) (FitsUnsigned w) (· - ·) subOverflow subInt ∧
    Exact (fun a : BitVec w => (a.toNat : Int)) (FitsUnsigned w) (· * ·) mulOverflow mulInt :=
  ⟨addInt_exact w, subInt_exact w, mulInt_exact w, addInt_exact_unsigned w,
    subInt_exact_unsigned w, mulInt_exact_unsigned w⟩

end Gowaves.Util
