import Mathlib.Tactic.Linarith
import Mathlib.Data.List.Sort
import Gowaves.GoLib.Decimal
import Gowaves.Util.CheckedArith
import Gowaves.Ride.Lists

/-!
# Fractions and medians of RIDE (`pkg/ride/math/math.go`, `functions_int.go`, `functions_bigint.go`, `functions_list.go`)

RIDE computes `fraction(value, numerator, denominator)` in two ways.  Without a rounding mode,
`math.Fraction` multiplies and divides in `decimal.Context128`, which keeps 34 significant
digits; with one, `fractionBigIntLikeInScala` divides the magnitudes with remainder in
`big.Int` and rounds by hand, the branch of each mode written out.  The medians sort the list
and take the middle element, or combine the two middle ones with `FloorDiv` (`Int`) or
`FloorDivBigInt` (`BigInt`).

* `fractionRounds_exact` — `fractionBigIntLikeInScala` rounds the exact rational
  `v * n / d` in every mode and for every sign (`roundingSwitch_eq`), so `fractionIntRounds`
  and `fractionBigIntRounds` return it when it is in range and an error otherwise;
* `fraction_roundsProduct` — `math.Fraction` does not, for any `decimal` that rounds as its
  documentation says: `(10^18 - 1) * (10^18 + 1) = 10^36 - 1`
  has 36 digits and is rounded up to `10^36` before the division, so
  `Fraction(10^18 - 1, 10^18 + 1, 10^18)` is `10^18`, where the truncated quotient is
  `10^18 - 1`;
* `floorDivBigInt_two` — `FloorDivBigInt(z, 2)` is `⌊z / 2⌋ + 1`: with a second argument of the
  same sign it computes the midpoint of its two arguments, not their quotient; so
  `median_outsideMiddle` — the `BigInt` median of `[c, c]` is `c + 1`, and the `Int` median of
  two values whose sum overflows `int64` lies below them.

`decimal.Big` values are the rationals they stand for, and its operations a parameter
(`GoLib.Decimal.DecimalOps`); `BigInt` arguments are
taken as integers, the type checks of their `rideType`s being left to the caller.
-/

set_option autoImplicit false

namespace Gowaves.Ride

open GoLib.Decimal Gowaves.Util Natives

/-! ## `pkg/ride/math` -/

namespace Math

/-- `decimal.Context128.Precision`. -/
def context128Precision : Nat := 34

/-- `MaxBigInt`, `2^511 - 1`. -/
def maxBigInt : Int := 2 ^ 511 - 1

/-- `MinBigInt`, `-2^511`. -/
def minBigInt : Int := -maxBigInt - 1

/-- `convertToIntResult`: `v` set into `Context128` with `mode`, multiplied there by `10^scale`,
rounded to an integer by `mode`; an `int64` or an error.  `pow10` is exact at the scales RIDE
uses. -/
def convertToIntResult (D : DecimalOps) (v : ℚ) (scale : Nat) (mode : RoundingMode) :
    Except GoString Int64 :=
  let r := D.set mode v
  let r := D.mul mode r (10 ^ scale)
  let res := D.roundToInt mode r
  if FitsInt64 res then .ok (Int64.ofInt res) else .error (ascii "result out of int64 range")

/-- `Fraction`: `v.Mul(v, n)` and `v.Quo(v, d)` in `Context128`, whose mode is ties to even, of
values set exactly; then the integer toward zero. -/
def fraction (D : DecimalOps) (value numerator denominator : Int64) : Except GoString Int64 :=
  let v := D.mul .toNearestEven value.toInt numerator.toInt
  if denominator.toInt = 0 then .error (ascii "Fraction: division by zero")
  else
    let v := D.quo .toNearestEven v denominator.toInt
    match convertToIntResult D v 0 .toZero with
    | .ok res => .ok res
    | .error e => .error (ascii "Fraction: " ++ e)

/-- `FloorDiv`: Go's truncating `/`, one less when the signs differ and the division is not
exact.  Every caller divides by a non-zero `y`. -/
def floorDiv (x y : Int64) : Int64 :=
  let r := x / y
  if (x ^^^ y) < 0 ∧ r * y ≠ x then r - 1 else r

/-- `FloorDivBigInt`, with `big.Int`'s Euclidean `Div` and `Mod`; `y.Sub(y, x)` and
`x.Sub(x, y)` overwrite an argument that is not read again. -/
def floorDivBigInt (x y : Int) : Int :=
  if x.sign = y.sign then
    if x < y then |y - x| / 2 + x else |x - y| / 2 + y
  else
    let d := x + y
    if 0 ≤ d ∨ d % 2 = 0 then d / 2 else (d - 1) / 2

/-! ### `Fraction` rounds the product before it divides -/

theorem roundSig_tenPow36_sub_one :
    roundSig context128Precision .toNearestEven ((10 ^ 36 - 1 : Nat) : ℚ) = 10 ^ 36 := by
  unfold roundSig
  rw [if_neg (by norm_num)]
  have hlog : Int.log 10 |((10 ^ 36 - 1 : Nat) : ℚ)| = 35 := by
    rw [abs_of_nonneg (Nat.cast_nonneg _)]
    apply log_ten_eq <;> norm_num
  have hscale : ((10 ^ 36 - 1 : Nat) : ℚ) / 10 ^ (35 + 1 - (context128Precision : Int)) =
      ((10 ^ 36 - 1 : Nat) : ℚ) / ((100 : Nat) : ℚ) := by
    norm_num [context128Precision]
  have hq : roundQuot .toNearestEven ((10 ^ 36 - 1) / 100) ((10 ^ 36 - 1) % 100) 100 =
      10 ^ 34 := by decide
  simp only [hlog]
  rw [hscale, roundToInt_natCast_div _ _ _ (by norm_num), hq]
  norm_num [context128Precision]

theorem convertToIntResult_intCast {D : DecimalOps} (hD : D.Rounds context128Precision) (n : Int)
    (hn : |(n : ℚ)| < 10 ^ context128Precision) (hfit : FitsInt64 n) :
    convertToIntResult D n 0 .toZero = .ok (Int64.ofInt n) := by
  unfold convertToIntResult
  dsimp only
  rw [hD.set_eq, hD.mul_eq, hD.roundToInt_eq, roundSig_intCast_of_lt _ _ _ hn, pow_zero, mul_one,
    roundSig_intCast_of_lt _ _ _ hn, roundToInt_intCast]
  simp [hfit]

/-- **`Fraction` is not the truncated quotient**: `(10^18 - 1) * (10^18 + 1) / 10^18` truncates
to `10^18 - 1`, but with `Context128` rounding as documented, `Fraction` rounds the 36-digit
product to `10^36` first and returns `10^18`. -/
theorem fraction_roundsProduct (D : DecimalOps) (hD : D.Rounds context128Precision) :
    fraction D 999999999999999999 1000000000000000001 1000000000000000000 =
        .ok 1000000000000000000 ∧
      (999999999999999999 * 1000000000000000001 : Int).tdiv 1000000000000000000 =
        999999999999999999 := by
  refine ⟨?_, by decide⟩
  have hv : (999999999999999999 : Int64).toInt = 999999999999999999 := by decide
  have hn : (1000000000000000001 : Int64).toInt = 1000000000000000001 := by decide
  have hd : (1000000000000000000 : Int64).toInt = 1000000000000000000 := by decide
  have hp : ((999999999999999999 : Int) : ℚ) * ((1000000000000000001 : Int) : ℚ) =
      ((10 ^ 36 - 1 : Nat) : ℚ) := by norm_num
  have hquo : roundSig context128Precision .toNearestEven
      ((10 : ℚ) ^ 36 / ((1000000000000000000 : Int) : ℚ)) = ((10 ^ 18 : Int) : ℚ) := by
    rw [show (10 : ℚ) ^ 36 / ((1000000000000000000 : Int) : ℚ) = ((10 ^ 18 : Int) : ℚ) by
      norm_num]
    exact roundSig_intCast_of_lt _ _ _ (by norm_num [context128Precision])
  unfold fraction
  dsimp only
  rw [hv, hn, hd, hD.mul_eq, hp, roundSig_tenPow36_sub_one, if_neg (by decide),
    hD.quo_eq _ _ _ (by norm_num), hquo,
    convertToIntResult_intCast hD _ (by norm_num [context128Precision]) (by decide)]
  rfl

theorem fraction_roundsProduct_context128 :
    (DecimalOps.ofPrecision context128Precision).Rounds context128Precision ∧
      fraction (DecimalOps.ofPrecision context128Precision) 999999999999999999
          1000000000000000001 1000000000000000000 = .ok 1000000000000000000 ∧
      (999999999999999999 * 1000000000000000001 : Int).tdiv 1000000000000000000 =
        999999999999999999 :=
  ⟨DecimalOps.rounds_ofPrecision _,
    fraction_roundsProduct _ (DecimalOps.rounds_ofPrecision _)⟩

end Math

namespace Numeric

/-! ## Fractions with a rounding mode -/

/-- The `switch roundingMode` of `fractionBigIntLikeInScala`, on the sign `s` of the quotient,
the truncated quotient `r` and remainder `m` of the magnitudes, and the magnitude `da` of the
denominator.  `x := d.Abs(d)` is `da` itself and `m.Mul(m, 2)` overwrites `m`. -/
def roundingSwitch (roundingMode : RoundingMode) (s r m da : Int) : Int :=
  let ms := m.sign
  match roundingMode with
  | .toZero => r * s
  | .awayFromZero => (r + ms) * s
  | .toNearestAway =>
    let x := da - m * 2
    if x < 0 then (r + 1) * s else if x = 0 then (r + 1) * s else r * s
  | .toNearestTowardZero =>
    let x := da - m * 2
    if x < 0 then (r + 1) * s else r * s
  | .toPositiveInf => (if 0 < s then r + ms else r) * s
  | .toNegativeInf => (if s < 0 then r + ms else r) * s
  | .toNearestEven =>
    let x := da - m * 2
    if x < 0 then (r + 1) * s else if 0 < x then r * s else (r + r % 2) * s

/-- `fractionBigIntLikeInScala`: `p := v.Mul(v, n)`, `s` the product of the signs, the magnitudes
divided with remainder (`QuoRem` truncates), then the rounding of the mode. -/
def fractionBigIntLikeInScala (v n d : Int) (roundingMode : RoundingMode) : Except GoString Int :=
  if d = 0 then .error (ascii "division by zero")
  else
    let p := v * n
    let s := p.sign * d.sign
    let pa := |p|
    let da := |d|
    .ok (roundingSwitch roundingMode s (pa.tdiv da) (pa.tmod da) da)

/-- `rideNamedType{name}`, the value of a RIDE case object. -/
def rideNamedType (name : String) : RideType := .rideObject (ascii name) [] []

/-- The case object that names each mode (`newCeiling`, `newFloor`, `newHalfEven`, `newDown`,
`newUp`, `newHalfUp`, `newHalfDown`). -/
def roundingObject : RoundingMode → RideType
  | .toPositiveInf => rideNamedType "Ceiling"
  | .toNegativeInf => rideNamedType "Floor"
  | .toNearestEven => rideNamedType "HalfEven"
  | .toZero => rideNamedType "Down"
  | .awayFromZero => rideNamedType "Up"
  | .toNearestAway => rideNamedType "HalfUp"
  | .toNearestTowardZero => rideNamedType "HalfDown"

/-- `roundingMode`: the mode of a case object, by its type name. -/
def roundingMode (v : RideType) : Except GoString RoundingMode :=
  let name := v.instanceOf
  if name = ascii "Ceiling" then .ok .toPositiveInf
  else if name = ascii "Floor" then .ok .toNegativeInf
  else if name = ascii "HalfEven" then .ok .toNearestEven
  else if name = ascii "Down" then .ok .toZero
  else if name = ascii "Up" then .ok .awayFromZero
  else if name = ascii "HalfUp" then .ok .toNearestAway
  else if name = ascii "HalfDown" then .ok .toNearestTowardZero
  else .error (ascii "unable to get rounding mode from '" ++ name ++ ascii "'")

/-- The error of an argument of the wrong type. -/
def unexpectedArgument (name : String) (a : RideType) : EvalError :=
  .plain (ascii name ++ ascii ": unexpected argument type '" ++ a.instanceOf ++ ascii "'")

/-- `fractionIntRounds`: three `Int`s and a rounding mode; the result must be an `int64`. -/
def fractionIntRounds : RideFunction := fun args =>
  match checkArgs args 4, args with
  | .error e, _ => .error (wrapPlain "fraction" e)
  | .ok (), [a0, a1, a2, a3] =>
    match a0 with
    | .rideInt value =>
      match a1 with
      | .rideInt numerator =>
        match a2 with
        | .rideInt denominator =>
          match roundingMode a3 with
          | .error e => .error (wrapPlain "fraction" e)
          | .ok round =>
            match fractionBigIntLikeInScala value.toInt numerator.toInt denominator.toInt round with
            | .error e => .error (wrapPlain "fraction" e)
            | .ok r =>
              if FitsInt64 r then .ok (.rideInt (Int64.ofInt r))
              else .error (.plain (ascii "fraction: result is out of int64 range"))
        | a => .error (unexpectedArgument "fraction" a)
      | a => .error (unexpectedArgument "fraction" a)
    | a => .error (unexpectedArgument "fraction" a)
  | .ok (), _ => .error (wrapPlain "fraction" [])

/-- `fractionBigIntRounds` on its three `BigInt` arguments and the rounding mode; the result must
lie in `[MinBigInt, MaxBigInt]`. -/
def fractionBigIntRounds (v n d : Int) (round : RideType) : Except GoString Int :=
  match roundingMode round with
  | .error e => .error (ascii "fractionBigIntRounds: " ++ e)
  | .ok mode =>
    match fractionBigIntLikeInScala v n d mode with
    | .error e => .error (ascii "fractionBigIntRounds: " ++ e)
    | .ok r =>
      if r < Math.minBigInt ∨ Math.maxBigInt < r then
        .error (ascii "fractionBigIntRounds: " ++ ascii (toString r) ++ ascii " result is out of range")
      else .ok r

/-! ## Medians -/

def listArg (args : List RideType) : Except GoString (List RideType) :=
  match checkArgs args 1, args with
  | .error e, _ => .error e
  | .ok (), [.rideList l] => .ok l
  | .ok (), [a] => .error (ascii "unexpected type of argument '" ++ a.instanceOf ++ ascii "'")
  | .ok (), _ => .error []

def intSlice (list : List RideType) : Except GoString (List Int64) :=
  list.mapM fun el =>
    match el with
    | .rideInt v => .ok v
    | el => .error (ascii "unexpected type of list element '" ++ el.instanceOf ++ ascii "'")

/-- `median`: the middle element of the sorted list, or `FloorDiv` of the sum of the two middle
ones, added in `int64`.  `sort.Ints` is any sort: the sorted list is unique. -/
def median : RideFunction := fun args =>
  match listArg args with
  | .error e => .error (wrapPlain "median" e)
  | .ok list =>
    let size := list.length
    if Lists.maxListSize < size ∨ size < 2 then
      .error (.plain (ascii "median: invalid list size " ++ ascii (toString size)))
    else
      match intSlice list with
      | .error e => .error (wrapPlain "median" e)
      | .ok items =>
        let items := items.insertionSort (· ≤ ·)
        let half := size / 2
        if size % 2 = 1 then .ok (.rideInt (items.getD half 0))
        else .ok (.rideInt (Math.floorDiv (items.getD (half - 1) 0 + items.getD half 0) 2))

/-- `medianListBigInt` on the values of its list: the middle element of the sorted list, or
`FloorDivBigInt(x + y, 2)` of the two middle ones; `x.Add(x, y)` overwrites `x`. -/
def medianListBigInt (items : List Int) : Except GoString Int :=
  let size := items.length
  if Lists.maxListSize < size ∨ size < 2 then
    .error (ascii "medianListBigInt: invalid list size " ++ ascii (toString size))
  else
    let items := items.insertionSort (· ≤ ·)
    let half := size / 2
    if size % 2 = 1 then .ok (items.getD half 0)
    else
      let x := items.getD (half - 1) 0
      let y := items.getD half 0
      .ok (Math.floorDivBigInt (x + y) 2)

/-! ## The hand-written rounding is exact -/

theorem sign_natCast (k : Nat) : ((k : Int)).sign = if k = 0 then 0 else 1 := by
  split
  · subst_vars; rfl
  · exact Int.sign_natCast_of_ne_zero ‹_›

/-- **Each branch of the switch is `roundQuot`**: of the mode for a positive quotient, of the
mirrored mode (negated) for a negative one. -/
theorem roundingSwitch_eq (mode : RoundingMode) (r m b : Nat) :
    roundingSwitch mode 1 r m b = roundQuot mode r m b ∧
      roundingSwitch mode (-1) r m b = -roundQuot mode.mirror r m b := by
  have hs := sign_natCast m
  cases mode <;> simp only [roundingSwitch, roundQuot, RoundingMode.mirror, hs] <;>
    constructor <;> (try split_ifs) <;> omega

theorem roundingSwitch_zero (mode : RoundingMode) (r m da : Int) :
    roundingSwitch mode 0 r m da = 0 := by
  cases mode <;> simp [roundingSwitch]

theorem div_eq_sign_mul (p d : Int) (hd : d ≠ 0) :
    ((p : ℚ) / d) = (p.sign * d.sign : Int) * ((p.natAbs : ℚ) / d.natAbs) := by
  have hp : (p : ℚ) = (p.sign : ℚ) * p.natAbs := by
    rw [← Int.cast_natCast, ← Int.cast_mul, Int.sign_mul_natAbs]
  have hd' : (d : ℚ) = (d.sign : ℚ) * d.natAbs := by
    rw [← Int.cast_natCast, ← Int.cast_mul, Int.sign_mul_natAbs]
  rcases Int.sign_trichotomy d with h | h | h
  · rw [hp, hd', h]; push_cast; ring
  · exact absurd (Int.sign_eq_zero_iff_zero.mp h) hd
  · rw [hp, hd', h]; push_cast; ring

theorem roundingSwitch_natCast (mode : RoundingMode) {a b : Nat} (ha : 0 < a) (hb : 0 < b)
    {s : Int} (hs : s = 1 ∨ s = -1) :
    roundingSwitch mode s ((a / b : Nat) : Int) ((a % b : Nat) : Int) b =
      roundToInt mode (s * ((a : ℚ) / b)) := by
  obtain ⟨h1, h2⟩ := roundingSwitch_eq mode (a / b) (a % b) b
  have hq : (0 : ℚ) < a / b := by positivity
  rcases hs with rfl | rfl
  · rw [h1, Int.cast_one, one_mul, roundToInt_natCast_div mode a b hb]
  · rw [h2, Int.cast_neg, Int.cast_one, neg_one_mul, roundToInt_neg mode hq,
      roundNonneg_natCast_div _ _ _ hb]

theorem fractionBigIntLikeInScala_eq (v n d : Int) (hd : d ≠ 0) (mode : RoundingMode) :
    fractionBigIntLikeInScala v n d mode = .ok (roundToInt mode ((v * n : Int) / (d : ℚ))) := by
  have hb : 0 < d.natAbs := Int.natAbs_pos.mpr hd
  rw [fractionBigIntLikeInScala, if_neg hd, div_eq_sign_mul _ _ hd]
  simp only [Int.abs_eq_natAbs, ← Int.ofNat_tdiv, ← Int.ofNat_tmod]
  congr 1
  by_cases hp : v * n = 0
  · rw [hp, Int.sign_zero, zero_mul, roundingSwitch_zero, Int.cast_zero, zero_mul]
    simpa using (roundToInt_intCast mode 0).symm
  · have hs : (v * n).sign * d.sign = 1 ∨ (v * n).sign * d.sign = -1 := by
      have h0 : (v * n * d).sign ≠ 0 := fun h =>
        mul_ne_zero hp hd (Int.sign_eq_zero_iff_zero.mp h)
      rw [← Int.sign_mul]
      rcases Int.sign_trichotomy (v * n * d) with h | h | h <;> omega
    exact roundingSwitch_natCast mode (Int.natAbs_pos.mpr hp) hb hs

theorem roundingMode_roundingObject (mode : RoundingMode) :
    roundingMode (roundingObject mode) = .ok mode := by
  cases mode <;> decide

/-- **Fractions with a rounding mode are exact**: `fractionBigIntLikeInScala` is the exact
quotient rounded by the mode, `fractionIntRounds` returns it when it is an `int64` and
`fractionBigIntRounds` when it lies in `[MinBigInt, MaxBigInt]`, each with an error
otherwise. -/
theorem fractionRounds_exact :
    (∀ (v n d : Int), d ≠ 0 → ∀ mode, fractionBigIntLikeInScala v n d mode =
        .ok (roundToInt mode ((v * n : Int) / (d : ℚ)))) ∧
    (∀ (v n d : Int64) (mode : RoundingMode), d ≠ 0 →
        fractionIntRounds [.rideInt v, .rideInt n, .rideInt d, roundingObject mode] =
          if FitsInt64 (roundToInt mode ((v.toInt * n.toInt : Int) / (d.toInt : ℚ))) then
            .ok (.rideInt (Int64.ofInt (roundToInt mode ((v.toInt * n.toInt : Int) / (d.toInt : ℚ)))))
          else .error (.plain (ascii "fraction: result is out of int64 range"))) ∧
    (∀ (v n d : Int) (mode : RoundingMode), d ≠ 0 →
        fractionBigIntRounds v n d (roundingObject mode) =
          if roundToInt mode ((v * n : Int) / (d : ℚ)) < Math.minBigInt ∨
              Math.maxBigInt < roundToInt mode ((v * n : Int) / (d : ℚ)) then
            .error (ascii "fractionBigIntRounds: " ++
              ascii (toString (roundToInt mode ((v * n : Int) / (d : ℚ)))) ++
              ascii " result is out of range")
          else .ok (roundToInt mode ((v * n : Int) / (d : ℚ)))) := by
  refine ⟨fractionBigIntLikeInScala_eq, ?_, ?_⟩
  · intro v n d mode hd
    have hd' : d.toInt ≠ 0 := fun h => hd (Int64.toInt_inj.mp (by simpa using h))
    simp only [fractionIntRounds, checkArgs, List.length_cons, List.length_nil, ne_eq,
      not_true_eq_false, if_false, roundingMode_roundingObject,
      fractionBigIntLikeInScala_eq _ _ _ hd' mode]
  · intro v n d mode hd
    simp only [fractionBigIntRounds, roundingMode_roundingObject,
      fractionBigIntLikeInScala_eq _ _ _ hd mode]

theorem fractionRounds_exact_seven : (2 : Int) ≠ 0 ∧ (2 : Int64) ≠ 0 ∧
    fractionBigIntLikeInScala 7 3 2 .toNearestEven =
      .ok (roundToInt .toNearestEven ((7 * 3 : Int) / ((2 : Int) : ℚ))) ∧
    fractionIntRounds [.rideInt 7, .rideInt 3, .rideInt 2, roundingObject .toZero] =
      (if FitsInt64 (roundToInt .toZero (((7 : Int64).toInt * (3 : Int64).toInt : Int) /
          ((2 : Int64).toInt : ℚ))) then
        .ok (.rideInt (Int64.ofInt (roundToInt .toZero (((7 : Int64).toInt * (3 : Int64).toInt : Int) /
          ((2 : Int64).toInt : ℚ)))))
      else .error (.plain (ascii "fraction: result is out of int64 range"))) ∧
    fractionBigIntRounds 7 3 2 (roundingObject .toPositiveInf) =
      (if roundToInt .toPositiveInf ((7 * 3 : Int) / ((2 : Int) : ℚ)) < Math.minBigInt ∨
          Math.maxBigInt < roundToInt .toPositiveInf ((7 * 3 : Int) / ((2 : Int) : ℚ)) then
        .error (ascii "fractionBigIntRounds: " ++
          ascii (toString (roundToInt .toPositiveInf ((7 * 3 : Int) / ((2 : Int) : ℚ)))) ++
          ascii " result is out of range")
      else .ok (roundToInt .toPositiveInf ((7 * 3 : Int) / ((2 : Int) : ℚ)))) :=
  ⟨by decide, by decide, fractionRounds_exact.1 7 3 2 (by decide) .toNearestEven,
    fractionRounds_exact.2.1 7 3 2 .toZero (by decide),
    fractionRounds_exact.2.2 7 3 2 .toPositiveInf (by decide)⟩

/-! ## Medians outside the middle -/

/-- `FloorDivBigInt(z, 2)` is one more than `⌊z / 2⌋`: it is built for the midpoint of its two
arguments, not for their quotient. -/
theorem floorDivBigInt_two (z : Int) : Math.floorDivBigInt z 2 = z / 2 + 1 := by
  unfold Math.floorDivBigInt
  have h2 : (2 : Int).sign = 1 := rfl
  rcases Int.sign_trichotomy z with h | h | h
  · have hz := Int.sign_eq_one_iff_pos.mp h
    rw [if_pos (h.trans h2.symm)]
    split_ifs <;> rw [abs_of_nonneg (by omega)] <;> omega
  · rw [Int.sign_eq_zero_iff_zero.mp h]; rfl
  · have hz := Int.sign_eq_neg_one_iff_neg.mp h
    rw [if_neg (by rw [h, h2]; decide)]
    dsimp only
    split_ifs <;> omega

theorem medianListBigInt_pair (c : Int) : medianListBigInt [c, c] = .ok (c + 1) := by
  simp [medianListBigInt, Lists.maxListSize, floorDivBigInt_two]
  omega

theorem median_pair (c : Int64) :
    median [.rideList [.rideInt c, .rideInt c]] = .ok (.rideInt (Math.floorDiv (c + c) 2)) := by
  have hs : intSlice [.rideInt c, .rideInt c] = .ok [c, c] := rfl
  simp [median, listArg, checkArgs, hs, Lists.maxListSize]

theorem floorDiv_double_lt (c : Int64) (hc : 2 ^ 62 ≤ c.toInt) :
    (Math.floorDiv (c + c) 2).toInt < c.toInt := by
  have hlt := c.toInt_lt
  have hs : (c + c).toInt = 2 * c.toInt - 2 ^ 64 := by
    rw [Int64.toInt_add, bmod_of_ge (w := 64) (by norm_num) (by norm_num; omega)
      (by norm_num; omega)]
    norm_num; omega
  have hq : ((c + c) / 2).toInt = c.toInt - 2 ^ 63 := by
    have hdvd : (2 : Int) ∣ (c + c).toInt := ⟨c.toInt - 2 ^ 63, by rw [hs]; ring⟩
    rw [Int64.toInt_div, show (2 : Int64).toInt = 2 from rfl, Int.tdiv_eq_ediv_of_dvd hdvd, hs,
      bmod_of_fits (w := 64) (by norm_num) ⟨by norm_num; omega, by norm_num; omega⟩]
    omega
  unfold Math.floorDiv
  dsimp only
  split_ifs
  · rw [Int64.toInt_sub, hq, Int64.toInt_one,
      bmod_of_fits (w := 64) (by norm_num) ⟨by norm_num; omega, by norm_num; omega⟩]
    omega
  · rw [hq]; omega

/-- **The medians can leave the middle**: the `Int` median of two equal values of at least
`2^62` overflows below them, and the `BigInt` median of `[c, c]` is `c + 1`. -/
theorem median_outsideMiddle :
    (∀ c : Int64, 2 ^ 62 ≤ c.toInt → ∃ m : Int64,
      median [.rideList [.rideInt c, .rideInt c]] = .ok (.rideInt m) ∧ m.toInt < c.toInt) ∧
    (∀ c : Int, medianListBigInt [c, c] = .ok (c + 1)) :=
  ⟨fun c hc => ⟨_, median_pair c, floorDiv_double_lt c hc⟩, medianListBigInt_pair⟩

theorem median_outsideMiddle_maxInt : 2 ^ 62 ≤ (9223372036854775807 : Int64).toInt ∧
    ∃ m : Int64, median [.rideList [.rideInt 9223372036854775807, .rideInt 9223372036854775807]] =
      .ok (.rideInt m) ∧ m.toInt < (9223372036854775807 : Int64).toInt :=
  ⟨by decide, median_outsideMiddle.1 _ (by decide)⟩

end Numeric

end Gowaves.Ride
