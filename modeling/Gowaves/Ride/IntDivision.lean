import Gowaves.Lib.SignedDivision
import Gowaves.Ride.Numeric

/-!
# Integer division of RIDE (`pkg/ride/math/math.go`, `functions_int.go`)

RIDE's `/` and `%` on `Int` are the natives `div` and `mod`: they reject a zero divisor and
call `math.FloorDiv` and `math.ModDivision` on the two `int64`s.  `FloorDiv` divides with Go's
truncating `/` and subtracts one when `(x ^ y) < 0` (the signs differ) and `r * y != x` (the
division is not exact); `ModDivision` is `x - FloorDiv(x, y) * y`.  Every operation wraps, as
Go's `int64` arithmetic does, and `MinInt64 / -1` is `MinInt64`.

* `toInt_floorDiv` — for every non-zero divisor, `FloorDiv` is the floored quotient wrapped
  into `int64`; the quotient fits, so nothing wraps, except for `MinInt64 / -1`, whose floored
  quotient `2^63` wraps to `MinInt64` (`floorDiv_minValue_neg_one`);
* `toInt_modDivision` — for every non-zero divisor, `ModDivision` is the floored remainder,
  with no exception: at `MinInt64 / -1` both the wrapped and the exact remainder are `0`;
* `div_mod_floored` — so RIDE's `div` returns the floor of the rational quotient whenever it
  is an `int64`, and `mod` the remainder that completes it, of the sign of the divisor.

The floored-division facts about integers come from `Gowaves.Lib.SignedDivision`; what is
proved here is that the sign test on `x ^ y` and the exactness test on the wrapped `r * y` are
the tests of `SignedDivision.fdiv_eq_tdiv_sub`.
-/

set_option autoImplicit false

namespace Gowaves.Ride

open Natives Gowaves.Util SignedDivision

namespace Math

def modDivision (x y : Int64) : Int64 := x - floorDiv x y * y

end Math

namespace Numeric

/-- `twoIntArgs` (no argument of the model is `nil`). -/
def twoIntArgs (args : List RideType) : Except GoString (Int64 × Int64) :=
  match args with
  | [a1, a2] =>
    match a1, a2 with
    | .rideInt l1, .rideInt l2 => .ok (l1, l2)
    | .rideInt _, a2 =>
      .error (ascii "argument 2 is not of type 'Int' but '" ++ a2.instanceOf ++ ascii "'")
    | a1, _ => .error (ascii "argument 1 is not of type 'Int' but '" ++ a1.instanceOf ++ ascii "'")
  | _ => .error (ascii (toString args.length) ++ ascii " is invalid number of arguments, expected 2")

/-- `div`: RIDE's `/` on `Int`. -/
def div : RideFunction := fun args =>
  match twoIntArgs args with
  | .error e => .error (wrapPlain "div" e)
  | .ok (l1, l2) =>
    if l2 = 0 then .error (.plain (ascii "div: division by zero"))
    else .ok (.rideInt (Math.floorDiv l1 l2))

/-- `mod`: RIDE's `%` on `Int`. -/
def mod : RideFunction := fun args =>
  match twoIntArgs args with
  | .error e => .error (wrapPlain "mod" e)
  | .ok (i1, i2) =>
    if i2 = 0 then .error (.plain (ascii "mod: division by zero"))
    else .ok (.rideInt (Math.modDivision i1 i2))

/-! ## `int64` values as integers -/

theorem toInt_mem_range (x : Int64) : -2 ^ 63 ≤ x.toInt ∧ x.toInt < 2 ^ 63 :=
  ⟨x.le_toInt, x.toInt_lt⟩

theorem toInt_ne_zero {y : Int64} (hy : y ≠ 0) : y.toInt ≠ 0 :=
  fun h => hy (Int64.toInt_inj.mp (by rw [h]; rfl))

theorem bmod_of_mem_range {v : Int} (h : -2 ^ 63 ≤ v ∧ v < 2 ^ 63) : v.bmod (2 ^ 64) = v :=
  bmod_of_fits (w := 64) (by norm_num) h

theorem minValue_neg_one_iff {x y : Int64} :
    (x = Int64.minValue ∧ y = -1) ↔ (x.toInt = -2 ^ 63 ∧ y.toInt = -1) := by
  rw [← Int64.toInt_inj, ← Int64.toInt_inj (y := -1), Int64.toInt_minValue]
  rfl

theorem xor_lt_zero_iff (x y : Int64) : x ^^^ y < 0 ↔ (x.toInt < 0 ↔ 0 ≤ y.toInt) := by
  have hmsb : ∀ z : Int64, z.toBitVec.msb = decide (z.toInt < 0) := fun _ => BitVec.msb_eq_toInt
  have h := hmsb (x ^^^ y)
  rw [Int64.toBitVec_xor, BitVec.msb_xor, hmsb x, hmsb y] at h
  rw [Int64.lt_iff_toInt_lt, Int64.toInt_zero]
  by_cases hx : x.toInt < 0 <;> by_cases hy : y.toInt < 0 <;> simp [hx, hy] at h ⊢ <;> omega

/-! ## `FloorDiv` and `ModDivision` -/

theorem toInt_div_of_not_overflow {x y : Int64} (hx : ¬ (x = Int64.minValue ∧ y = -1)) :
    (x / y).toInt = x.toInt.tdiv y.toInt := by
  rw [minValue_neg_one_iff] at hx
  rw [Int64.toInt_div, bmod_of_mem_range (tdiv_mem_range (toInt_mem_range x) hx)]

theorem floorDiv_minValue_neg_one : Math.floorDiv Int64.minValue (-1) = Int64.minValue := by
  decide

/-- **`FloorDiv` is wrapped floored division**, for every non-zero divisor. -/
theorem toInt_floorDiv {x y : Int64} (hy : y ≠ 0) :
    (Math.floorDiv x y).toInt = (x.toInt.fdiv y.toInt).bmod (2 ^ 64) := by
  by_cases hx : x = Int64.minValue ∧ y = -1
  · obtain ⟨rfl, rfl⟩ := hx
    rw [floorDiv_minValue_neg_one]
    decide
  · have hq := toInt_div_of_not_overflow hx
    have hm : (x / y * y).toInt = x.toInt.tdiv y.toInt * y.toInt := by
      rw [Int64.toInt_mul, hq, bmod_of_mem_range (tdiv_mul_mem_range (toInt_mem_range x))]
    have hc : (x ^^^ y < 0 ∧ x / y * y ≠ x) ↔
        ((x.toInt < 0 ↔ 0 ≤ y.toInt) ∧ x.toInt.tdiv y.toInt * y.toInt ≠ x.toInt) := by
      rw [xor_lt_zero_iff, ne_eq, ← Int64.toInt_inj, hm]
    unfold Math.floorDiv
    dsimp only
    rw [fdiv_eq_tdiv_sub _ (toInt_ne_zero hy)]
    by_cases h : (x.toInt < 0 ↔ 0 ≤ y.toInt) ∧ x.toInt.tdiv y.toInt * y.toInt ≠ x.toInt
    · rw [if_pos (hc.mpr h), if_pos h, Int64.toInt_sub, hq, Int64.toInt_one]
    · rw [minValue_neg_one_iff] at hx
      rw [if_neg (mt hc.mp h), if_neg h, hq,
        bmod_of_mem_range (tdiv_mem_range (toInt_mem_range x) hx)]

theorem toInt_floorDiv_of_not_overflow {x y : Int64} (hy : y ≠ 0)
    (hx : ¬ (x = Int64.minValue ∧ y = -1)) :
    (Math.floorDiv x y).toInt = x.toInt.fdiv y.toInt := by
  rw [minValue_neg_one_iff] at hx
  rw [toInt_floorDiv hy, bmod_of_mem_range
    (fdiv_mem_range (toInt_mem_range x) (toInt_mem_range y) (toInt_ne_zero hy) hx)]

/-- **`ModDivision` is the floored remainder**, for every non-zero divisor. -/
theorem toInt_modDivision {x y : Int64} (hy : y ≠ 0) :
    (Math.modDivision x y).toInt = x.toInt.fmod y.toInt := by
  -- the wrapped quotient times `y` is congruent to the exact product, so the remainder is
  -- the floored one modulo `2^64`, and it is in range
  have hr : x.toInt - x.toInt.fdiv y.toInt * y.toInt = x.toInt.fmod y.toInt := by
    rw [Int.fmod_def, Int.mul_comm]
  unfold Math.modDivision
  rw [Int64.toInt_sub, Int64.toInt_mul, toInt_floorDiv hy, Int.bmod_mul_bmod, Int.sub_bmod_bmod,
    hr, bmod_of_mem_range (fmod_mem_range (toInt_mem_range y) (toInt_ne_zero hy))]

/-! ## RIDE's `/` and `%` -/

/-- **RIDE's `/` and `%` are floored division and modulo**: for every non-zero divisor, `div`
returns `FloorDiv`, which is the floor of the rational quotient whenever that is an `int64`
(every case but `MinInt64 / -1`), and `mod` returns `ModDivision`, which completes it to the
dividend and lies between zero and the divisor. -/
theorem div_mod_floored (x y : Int64) (hy : y ≠ 0) :
    div [.rideInt x, .rideInt y] = .ok (.rideInt (Math.floorDiv x y)) ∧
    mod [.rideInt x, .rideInt y] = .ok (.rideInt (Math.modDivision x y)) ∧
    (¬ (x = Int64.minValue ∧ y = -1) →
      (Math.floorDiv x y).toInt = ⌊(x.toInt : ℚ) / y.toInt⌋ ∧
      x.toInt = (Math.floorDiv x y).toInt * y.toInt + (Math.modDivision x y).toInt) ∧
    (0 < y.toInt → 0 ≤ (Math.modDivision x y).toInt ∧ (Math.modDivision x y).toInt < y.toInt) ∧
    (y.toInt < 0 →
      y.toInt < (Math.modDivision x y).toInt ∧ (Math.modDivision x y).toInt ≤ 0) := by
  have hmod := toInt_modDivision (x := x) hy
  refine ⟨by simp [div, twoIntArgs, hy], by simp [mod, twoIntArgs, hy], fun hx => ?_,
    fun hpos => ?_, fun hneg => ?_⟩
  · have hq := toInt_floorDiv_of_not_overflow hy hx
    have hsum := Int.fmod_add_fdiv_mul x.toInt y.toInt
    refine ⟨by rw [hq, fdiv_eq_floor], ?_⟩
    rw [hq, hmod]
    omega
  · rw [hmod]
    exact ⟨Int.fmod_nonneg_of_pos _ hpos, Int.fmod_lt_of_pos _ hpos⟩
  · rw [hmod]
    exact fmod_bounds_of_neg _ hneg

theorem div_mod_floored_negSeven : (2 : Int64) ≠ 0 ∧
    div [.rideInt (-7), .rideInt 2] = .ok (.rideInt (Math.floorDiv (-7) 2)) ∧
    mod [.rideInt (-7), .rideInt 2] = .ok (.rideInt (Math.modDivision (-7) 2)) ∧
    (¬ ((-7 : Int64) = Int64.minValue ∧ (2 : Int64) = -1) →
      (Math.floorDiv (-7) 2).toInt = ⌊((-7 : Int64).toInt : ℚ) / (2 : Int64).toInt⌋ ∧
      (-7 : Int64).toInt =
        (Math.floorDiv (-7) 2).toInt * (2 : Int64).toInt + (Math.modDivision (-7) 2).toInt) ∧
    (0 < (2 : Int64).toInt →
      0 ≤ (Math.modDivision (-7) 2).toInt ∧ (Math.modDivision (-7) 2).toInt < (2 : Int64).toInt) ∧
    ((2 : Int64).toInt < 0 → (2 : Int64).toInt < (Math.modDivision (-7) 2).toInt ∧
      (Math.modDivision (-7) 2).toInt ≤ 0) :=
  ⟨by decide, div_mod_floored (-7) 2 (by decide)⟩

/-- `-7 / 2` is `-4` and `-7 % 2` is `1`, as floored division gives. -/
example : div [.rideInt (-7), .rideInt 2] = .ok (.rideInt (-4)) ∧
    mod [.rideInt (-7), .rideInt 2] = .ok (.rideInt 1) :=
  ⟨rfl, rfl⟩

end Numeric

end Gowaves.Ride
