import Mathlib.Logic.Basic
import Mathlib.Algebra.Group.Int.Defs

/-!
# Checked integer arithmetic (`pkg/util/common/util.go`)

`common.AddInt`, `SubInt` and `MulInt` are generic over every Go integer type: they compute
the wrapped result with the type's own operators and decide from signs and comparisons
whether it wrapped.  The model is generic in the same way: any type with wrapping `+`, `-`,
`*`, `/` and a decidable order, which Lean's `UInt8` … `UInt64` and `Int8` … `Int64` all
are.  Like the Go functions, each returns the result together with an optional error, and
the result is `0` when there is an error (callers such as the complexity calculator store it
regardless).

At `Int64`, `addInt_int64` says what the sign test amounts to: `AddInt` returns the exact sum
when it fits in an `int64` (`FitsInt64`) and an error otherwise.
-/

set_option autoImplicit false

namespace Gowaves.Util

/-- The error texts. -/
def addOverflow : String := "add: integer overflow/underflow"
def subOverflow : String := "sub: integer overflow/underflow"
def mulOverflow : String := "mul: integer overflow/underflow"

section

variable {T : Type} [Add T] [Sub T] [Mul T] [Div T] [Zero T] [LT T]
  [DecidableRel (α := T) (· < ·)] [DecidableEq T]

/-- `common.AddInt`: `c := a + b`; no overflow iff `(c > a) == (b > 0)`. -/
def addInt (a b : T) : T × Option String :=
  let c := a + b
  if decide (a < c) = decide (0 < b) then (c, none) else (0, some addOverflow)

/-- `common.SubInt`: `c := a - b`; no overflow iff `(c < a) == (b > 0)`. -/
def subInt (a b : T) : T × Option String :=
  let c := a - b
  if decide (c < a) = decide (0 < b) then (c, none) else (0, some subOverflow)

/-- `common.MulInt`: zero if either factor is; otherwise the sign of the product must be the
sign of the factors' product and dividing it back must give the first factor. -/
def mulInt (a b : T) : T × Option String :=
  if a = 0 ∨ b = 0 then (0, none)
  else
    let c := a * b
    if decide (c < 0) = (decide (a < 0) != decide (b < 0)) ∧ c / b = a then (c, none)
    else (0, some mulOverflow)

end

/-! ## `int64` sums -/

/-- An integer that an `int64` holds. -/
def FitsInt64 (x : Int) : Prop := -2 ^ 63 ≤ x ∧ x < 2 ^ 63

instance (x : Int) : Decidable (FitsInt64 x) := inferInstanceAs (Decidable (_ ∧ _))

theorem toInt_add_of_fits {a b : Int64} (h : FitsInt64 (a.toInt + b.toInt)) :
    (a + b).toInt = a.toInt + b.toInt := by
  rw [Int64.toInt_add, Int.bmod_def]
  unfold FitsInt64 at h
  split <;> omega

/-- **`common.AddInt` at `int64` is exact addition**: it returns the sum when the sum fits in
an `int64`, and an error otherwise. -/
theorem addInt_int64 (a b : Int64) :
    addInt a b = if FitsInt64 (a.toInt + b.toInt) then (a + b, none)
      else (0, some addOverflow) := by
  have ha := Int64.le_toInt a
  have ha' := Int64.toInt_lt a
  have hb := Int64.le_toInt b
  have hb' := Int64.toInt_lt b
  have hc : (a + b).toInt = (a.toInt + b.toInt).bmod (2 ^ 64) := Int64.toInt_add a b
  rw [Int.bmod_def] at hc
  unfold addInt
  simp only [Int64.lt_iff_toInt_lt, Int64.toInt_zero]
  by_cases hr : FitsInt64 (a.toInt + b.toInt)
  · have hx := toInt_add_of_fits hr
    rw [if_pos hr, if_pos (decide_eq_decide.mpr (by omega))]
  · have hne : ¬ (a.toInt < (a + b).toInt ↔ 0 < b.toInt) := by
      unfold FitsInt64 at hr
      rw [hc]
      split <;> omega
    rw [if_neg hr, if_neg (fun h => hne (decide_eq_decide.mp h))]

end Gowaves.Util
