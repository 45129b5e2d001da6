import Mathlib.Algebra.Order.Floor.Ring
import Mathlib.Algebra.Order.Field.Power
import Mathlib.Data.Int.Log
import Mathlib.Data.Rat.Floor
import Mathlib.Tactic.Positivity

/-!
# Decimal rounding (`github.com/ericlagergren/decimal`)

The arbitrary-precision decimals of `ericlagergren/decimal` round every result to the precision
of their `Context` with its `RoundingMode`, and `RoundToInt` rounds to an integer with the same
mode.  The package is third-party: the operations RIDE calls are a parameter (`DecimalOps`), and
what its documentation promises of them is a hypothesis (`DecimalOps.Rounds`), stated with the
roundings of rationals it specifies:

* `roundToInt mode q` — the integer that `mode` rounds `q` to: the magnitude is rounded, and the
  sign put back, with `mode.mirror` for a negative number (floor and ceiling swap);
* `roundSig prec mode x` — `x` rounded to `prec` significant digits, which is what an operation
  in a context of precision `prec` returns in the GDA operating mode, away from the exponent
  limits;
* `roundQuot mode r m b` — the same rounding for a quotient of natural numbers, from its
  truncated quotient `r` and remainder `m` modulo `b`, as code that divides with remainder
  rounds by hand.

Results: `roundToInt_natCast_div` — rounding a quotient of naturals is `roundQuot`;
`roundToInt_neg` — rounding a negated number is the negated rounding with the mirrored mode;
`roundToInt_intCast` — an integer rounds to itself in every mode; `roundSig_intCast_of_lt` — an
integer of at most `prec` digits is kept as it is; `log_ten_eq` — the exponent of a number
between two consecutive powers of ten.
-/
set_option autoImplicit false

namespace GoLib.Decimal

/-- `decimal.RoundingMode`. -/
inductive RoundingMode where
  | toNearestEven
  | toNearestAway
  | toZero
  | awayFromZero
  | toNegativeInf
  | toPositiveInf
  | toNearestTowardZero
  deriving DecidableEq, Repr

/-- `mode` as it acts on the magnitude of a negative number. -/
def RoundingMode.mirror : RoundingMode → RoundingMode
  | .toNegativeInf => .toPositiveInf
  | .toPositiveInf => .toNegativeInf
  | mode => mode

/-- The integer that `mode` rounds a non-negative rational to: the floor, or one more, as the
fractional part decides. -/
def roundNonneg (mode : RoundingMode) (x : ℚ) : Int :=
  let r := ⌊x⌋
  let f := x - r
  match mode with
  | .toZero | .toNegativeInf => r
  | .awayFromZero | .toPositiveInf => if f = 0 then r else r + 1
  | .toNearestAway => if 1 / 2 ≤ f then r + 1 else r
  | .toNearestTowardZero => if 1 / 2 < f then r + 1 else r
  | .toNearestEven => if 1 / 2 < f then r + 1 else if f < 1 / 2 then r else if r % 2 = 0 then r else r + 1

/-- The integer that `mode` rounds `q` to. -/
def roundToInt (mode : RoundingMode) (q : ℚ) : Int :=
  if 0 ≤ q then roundNonneg mode q else -roundNonneg mode.mirror (-q)

/-- The rounding of `a / b` for naturals, from `r = a / b` and `m = a % b`. -/
def roundQuot (mode : RoundingMode) (r m b : Nat) : Int :=
  match mode with
  | .toZero | .toNegativeInf => r
  | .awayFromZero | .toPositiveInf => if m = 0 then r else r + 1
  | .toNearestAway => if b ≤ 2 * m then r + 1 else r
  | .toNearestTowardZero => if b < 2 * m then r + 1 else r
  | .toNearestEven => if b < 2 * m then r + 1 else if 2 * m < b then r else if r % 2 = 0 then r else r + 1

/-- `x` rounded by `mode` to `prec` significant digits. -/
def roundSig (prec : Nat) (mode : RoundingMode) (x : ℚ) : ℚ :=
  if x = 0 then 0
  else
    let e : Int := Int.log 10 |x| + 1 - prec
    (roundToInt mode (x / 10 ^ e) : ℚ) * 10 ^ e

/-- The calls RIDE makes to `decimal.Big` in a context, on the values the decimals stand for:
`Set` of a value into the context with a rounding mode, `Mul` and `Quo` there, and
`RoundToInt`. -/
structure DecimalOps where
  set : RoundingMode → ℚ → ℚ
  mul : RoundingMode → ℚ → ℚ → ℚ
  quo : RoundingMode → ℚ → ℚ → ℚ
  roundToInt : RoundingMode → ℚ → Int

/-- What the package documents of these calls in a context of precision `prec`, away from the
exponent limits: each result is the exact one rounded to `prec` significant digits with the
context's mode, and `RoundToInt` rounds to an integer with it. -/
structure DecimalOps.Rounds (ops : DecimalOps) (prec : Nat) : Prop where
  set_eq : ∀ mode x, ops.set mode x = roundSig prec mode x
  mul_eq : ∀ mode x y, ops.mul mode x y = roundSig prec mode (x * y)
  quo_eq : ∀ mode x y, y ≠ 0 → ops.quo mode x y = roundSig prec mode (x / y)
  roundToInt_eq : ∀ mode x, ops.roundToInt mode x = GoLib.Decimal.roundToInt mode x

/-- The calls rounding as documented in a context of precision `prec`. -/
def DecimalOps.ofPrecision (prec : Nat) : DecimalOps where
  set mode x := roundSig prec mode x
  mul mode x y := roundSig prec mode (x * y)
  quo mode x y := roundSig prec mode (x / y)
  roundToInt := GoLib.Decimal.roundToInt

theorem DecimalOps.rounds_ofPrecision (prec : Nat) : (ofPrecision prec).Rounds prec :=
  ⟨fun _ _ => rfl, fun _ _ _ => rfl, fun _ _ _ _ => rfl, fun _ _ => rfl⟩

/-! ## Rounding to an integer -/

theorem roundNonneg_natCast (mode : RoundingMode) (n : Nat) : roundNonneg mode n = n := by
  have hfl : ⌊(n : ℚ)⌋ = n := by
    rw [show (n : ℚ) = ((n : Int) : ℚ) by push_cast; rfl, Int.floor_intCast]
  cases mode <;> simp [roundNonneg, hfl]

theorem roundToInt_of_nonneg (mode : RoundingMode) {q : ℚ} (hq : 0 ≤ q) :
    roundToInt mode q = roundNonneg mode q := by
  rw [roundToInt, if_pos hq]

/-- Rounding a negated number is the negated rounding, with floor and ceiling swapped. -/
theorem roundToInt_neg (mode : RoundingMode) {q : ℚ} (hq : 0 < q) :
    roundToInt mode (-q) = -roundNonneg mode.mirror q := by
  rw [roundToInt, if_neg (by linarith), neg_neg]

/-- An integer is its own rounding in every mode. -/
theorem roundToInt_intCast (mode : RoundingMode) (n : Int) : roundToInt mode n = n := by
  rcases Int.eq_nat_or_neg n with ⟨k, rfl | rfl⟩
  · rw [roundToInt_of_nonneg mode (by positivity)]
    exact_mod_cast roundNonneg_natCast mode k
  · rcases Nat.eq_zero_or_pos k with rfl | hk
    · have h0 := roundNonneg_natCast mode 0
      simp only [Nat.cast_zero] at h0
      simp [roundToInt, h0]
    · have hq : (0 : ℚ) < k := by exact_mod_cast hk
      push_cast
      rw [roundToInt_neg mode hq, roundNonneg_natCast]

theorem natCast_div_eq (a b : Nat) (hb : 0 < b) :
    (a : ℚ) / b = ((a / b : Nat) : ℚ) + ((a % b : Nat) : ℚ) / b := by
  have hb' : (b : ℚ) ≠ 0 := by exact_mod_cast hb.ne'
  have hd : (b : ℚ) * ((a / b : Nat) : ℚ) + ((a % b : Nat) : ℚ) = a := by
    exact_mod_cast Nat.div_add_mod a b
  nth_rewrite 1 [← hd]
  rw [add_div, mul_div_cancel_left₀ _ hb']

theorem roundNonneg_natCast_div (mode : RoundingMode) (a b : Nat) (hb : 0 < b) :
    roundNonneg mode ((a : ℚ) / b) = roundQuot mode (a / b) (a % b) b := by
  have hbq : (0 : ℚ) < b := by exact_mod_cast hb
  have hfl : ⌊(a : ℚ) / b⌋ = ((a / b : Nat) : Int) := by
    rw [Rat.floor_natCast_div_natCast]; push_cast; rfl
  have hf : (a : ℚ) / b - (((a / b : Nat) : Int) : ℚ) = ((a % b : Nat) : ℚ) / b := by
    rw [Int.cast_natCast, natCast_div_eq a b hb, add_sub_cancel_left]
  have h0 : ((a % b : Nat) : ℚ) / b = 0 ↔ a % b = 0 := by
    rw [div_eq_zero_iff]; constructor
    · rintro (h | h)
      · exact_mod_cast h
      · exact absurd h hbq.ne'
    · intro h; left; exact_mod_cast h
  have hle : 1 / 2 ≤ ((a % b : Nat) : ℚ) / b ↔ b ≤ 2 * (a % b) := by
    rw [le_div_iff₀ hbq]; constructor <;> intro h
    · have : (b : ℚ) ≤ 2 * (a % b : Nat) := by linarith
      exact_mod_cast this
    · have : (b : ℚ) ≤ 2 * (a % b : Nat) := by exact_mod_cast h
      linarith
  have hlt : 1 / 2 < ((a % b : Nat) : ℚ) / b ↔ b < 2 * (a % b) := by
    rw [lt_div_iff₀ hbq]; constructor <;> intro h
    · have : (b : ℚ) < 2 * (a % b : Nat) := by linarith
      exact_mod_cast this
    · have : (b : ℚ) < 2 * (a % b : Nat) := by exact_mod_cast h
      linarith
  have hlt' : ((a % b : Nat) : ℚ) / b < 1 / 2 ↔ 2 * (a % b) < b := by
    rw [div_lt_iff₀ hbq]; constructor <;> intro h
    · have : (2 * (a % b : Nat) : ℚ) < b := by linarith
      exact_mod_cast this
    · have : (2 * (a % b : Nat) : ℚ) < b := by exact_mod_cast h
      linarith
  have hpar : ((a / b : Nat) : Int) % 2 = 0 ↔ a / b % 2 = 0 := by omega
  unfold roundNonneg roundQuot
  cases mode <;> simp only [hfl, hf, h0, hle, hlt, hlt', hpar]

theorem roundToInt_natCast_div (mode : RoundingMode) (a b : Nat) (hb : 0 < b) :
    roundToInt mode ((a : ℚ) / b) = roundQuot mode (a / b) (a % b) b := by
  rw [roundToInt_of_nonneg mode (by positivity), roundNonneg_natCast_div mode a b hb]

/-! ## Significant digits -/

/-- The exponent of a number from one power of ten up to the next. -/
theorem log_ten_eq {x : ℚ} {k : Int} (h1 : (10 : ℚ) ^ k ≤ x) (h2 : x < 10 ^ (k + 1)) :
    Int.log 10 x = k := by
  have hx : 0 < x := lt_of_lt_of_le (by positivity) h1
  have hle := (Int.zpow_le_iff_le_log (b := 10) (by norm_num) hx).mp (by exact_mod_cast h1)
  have hlt := (Int.lt_zpow_iff_log_lt (b := 10) (by norm_num) hx).mp (by exact_mod_cast h2)
  omega

/-- An integer of at most `prec` digits is kept as it is. -/
theorem roundSig_intCast_of_lt (prec : Nat) (mode : RoundingMode) (n : Int)
    (h : |(n : ℚ)| < 10 ^ prec) : roundSig prec mode n = n := by
  unfold roundSig
  by_cases hn : (n : ℚ) = 0
  · rw [if_pos hn, hn]
  rw [if_neg hn]
  have hpos : 0 < |(n : ℚ)| := abs_pos.mpr hn
  have hlog : Int.log 10 |(n : ℚ)| < prec :=
    (Int.lt_zpow_iff_log_lt (b := 10) (by norm_num) hpos).mp (by exact_mod_cast h)
  set e : Int := Int.log 10 |(n : ℚ)| + 1 - prec
  have he : e ≤ 0 := by omega
  have hscale : (n : ℚ) / 10 ^ e = ((n * 10 ^ (-e).toNat : Int) : ℚ) := by
    rw [div_eq_mul_inv, ← zpow_neg]
    push_cast
    rw [← zpow_natCast, Int.toNat_of_nonneg (by omega)]
  simp only
  rw [hscale, roundToInt_intCast, ← hscale, div_mul_cancel₀ _ (by positivity)]

end GoLib.Decimal
