import Gowaves.Ride.Catalogue

/-!
# The complexity limit under evaluator V2

With Ride V6 activated, `complexityCalculatorV2` charges only natives, and a user function
call whose body spent nothing is charged one more on its way out.  The test before that
charge (`testAdditionalUserFunctionComplexity`) is made exactly when the charge is *not*
made: it is skipped when the body spent nothing.  So a call of such a function can take the
complexity past the limit without any test failing.

Results: `zeroCostCall_exceedsLimit` — `func f() = true; (0 == 0) && f()` with limit `1`
evaluates to `true` with complexity `2`.
-/

set_option autoImplicit false

namespace Gowaves.Ride

open GoLib

/-- `func f() = true; (0 == 0) && f()`; the compiler writes `a && b` as `if (a) then b else
false`. -/
def zeroCostCallTree : Node :=
  .functionDeclarationNode (ascii "f") [] (.booleanNode true)
    (some (.conditionalNode
      (.functionCallNode (.nativeFunction (ascii "0")) [.longNode 0, .longNode 0])
      (.functionCallNode (.userFunction (ascii "f")) [])
      (.booleanNode false))) []

/-- The script of `zeroCostCallTree`, in library version 6. -/
def zeroCostCallScript : Tree :=
  { Tree.new contentTypeExpression 6 with verifier := some zeroCostCallTree }

theorem zeroCostCall_exceedsLimit (fuel : Nat) (hfuel : 10 ≤ fuel) :
    scriptOutcome (callVerifier expressionEnvV6 fuel zeroCostCallScript
      ((Calculator.new .v2).setLimit 1)).1 = some (true, 2) ∧
    (callVerifier expressionEnvV6 fuel zeroCostCallScript
      ((Calculator.new .v2).setLimit 1)).2.c = 2 := by
  have h10 : scriptOutcome (callVerifier expressionEnvV6 10 zeroCostCallScript
        ((Calculator.new .v2).setLimit 1)).1 = some (true, 2) ∧
      (callVerifier expressionEnvV6 10 zeroCostCallScript
        ((Calculator.new .v2).setLimit 1)).2.c = 2 := by decide
  have hne : (callVerifier expressionEnvV6 10 zeroCostCallScript
      ((Calculator.new .v2).setLimit 1)).1 ≠ .exhausted := by
    intro hex
    have h := h10.1
    rw [hex] at h
    cases h
  rw [callVerifier_mono expressionEnvV6 hfuel _ _ hne]
  exact h10

theorem zeroCostCall_exceedsLimit_fuel64 :
    scriptOutcome (callVerifier expressionEnvV6 64 zeroCostCallScript
      ((Calculator.new .v2).setLimit 1)).1 = some (true, 2) ∧
    (callVerifier expressionEnvV6 64 zeroCostCallScript
      ((Calculator.new .v2).setLimit 1)).2.c = 2 :=
  zeroCostCall_exceedsLimit 64 (by decide)

end Gowaves.Ride
