import Gowaves.Ride.Ast
import Gowaves.Util.Common

/-!
# Complexity calculators (`pkg/ride/complexity.go`)

The tree evaluator charges every evaluation step to a complexity calculator held by the
environment.  A calculator has a current complexity `c`, a limit `l` and a sticky error
`err`; each kind of step has a pair of methods: `test*` checks, without changing anything,
whether the step may be charged, and `add*` charges it.  The evaluator calls `test*` before a
step and `add*` (often deferred) after it.

* `complexityCalculatorV1` (before Ride V6): natives cost their catalogue cost, conditionals,
  references and property accesses cost one, user functions nothing extra.
* `complexityCalculatorV2` (Ride V6 and later): only natives cost, a native of cost zero is
  an error, and a user function call whose body spent nothing costs one.

Complexities are Go `int`s, 64 bits wide, and every sum goes through `common.AddInt`
(`Util.addInt` at `Int64`), whose result on overflow is `0` and is stored anyway.
-/

set_option autoImplicit false

namespace Gowaves.Ride

open Gowaves.Util

/-- `ride.EvaluationError`: the type of an evaluation error. -/
inductive EvaluationErrorType where
  | undefined
  | userError
  | runtimeError
  | internalInvocationError
  | evaluationFailure
  | complexityLimitExceed
  | negativeBalanceAfterPayment
  deriving DecidableEq, Repr

/-- The errors a calculator reports (`integerOverflowError`, `complexityLimitExceededError`,
`zeroComplexityError`), with the fields their `Error()` texts print.  The inner error of an
overflow is always the one of `common.AddInt`. -/
inductive CalcError where
  | integerOverflow (name : GoString) (nodeComplexity calculatorComplexity : Int64)
  | complexityLimitExceeded (name : GoString) (nodeComplexity calculatorComplexity limit : Int64)
  | zeroComplexity (name : GoString)
  deriving DecidableEq, Repr

/-- Go's `%d` of an `int`. -/
def decimal (n : Int64) : GoString := ascii (toString n.toInt)

/-- The `Error()` texts. -/
def CalcError.text : CalcError → GoString
  | .integerOverflow name fc c =>
    ascii "node '" ++ name ++ ascii "' with complexity " ++ decimal fc ++
      ascii " has overflowed integer calculator complexity " ++ decimal c ++ ascii ": " ++
      ascii addOverflow
  | .complexityLimitExceeded name fc c l =>
    ascii "node '" ++ name ++ ascii "' with complexity " ++ decimal fc ++
      ascii " has exceeded the complexity limit " ++ decimal l ++
      ascii " with result complexity " ++ decimal c
  | .zeroComplexity name => ascii "node '" ++ name ++ ascii "' has zero complexity"

/-- `EvaluationErrorWrapType`: overflows count as exceeding the limit. -/
def CalcError.wrapType : CalcError → EvaluationErrorType
  | .integerOverflow .. => .complexityLimitExceed
  | .complexityLimitExceeded .. => .complexityLimitExceed
  | .zeroComplexity _ => .evaluationFailure

/-- The two calculator implementations. -/
inductive CalculatorVersion where
  | v1
  | v2
  deriving DecidableEq, Repr

/-- `newComplexityCalculatorByRideV6Activation`. -/
def calculatorVersion (rideV6 : Bool) : CalculatorVersion := if rideV6 then .v2 else .v1

/-- `complexityCalculatorV1` / `complexityCalculatorV2`: the sticky error, the complexity and
the limit. -/
structure Calculator where
  version : CalculatorVersion
  err : Option CalcError
  c : Int64
  l : Int64
  deriving DecidableEq, Repr

namespace Calculator

/-- The names the node kinds are charged under. -/
def conditionalNodeCodeName : GoString := ascii "<conditional_node>"
def referenceNodeCodeName : GoString := ascii "<reference_node>"
def propertyNodeCallCodeName : GoString := ascii "<property_node>"

/-- The zero calculator `&complexityCalculatorV1{}` or `&complexityCalculatorV2{}`. -/
def new (version : CalculatorVersion) : Calculator := ⟨version, none, 0, 0⟩

/-- The test shared by all `test*` methods that charge something: `c + fc` must not
overflow and must stay within the limit. -/
def testCost (cc : Calculator) (name : GoString) (fc : Int64) : Option CalcError :=
  match addInt cc.c fc with
  | (_, some _) => some (.integerOverflow name fc cc.c)
  | (nc, none) => if cc.l < nc then some (.complexityLimitExceeded name fc nc cc.l) else none

/-- The charge shared by all `add*` methods: `c := c + fc`, an overflow recorded as the sticky
error (and `c` then `0`, the value `AddInt` returns with its error). -/
def addCost (cc : Calculator) (name : GoString) (fc : Int64) : Calculator :=
  match addInt cc.c fc with
  | (nc, some _) => { cc with err := some (.integerOverflow name fc cc.c), c := nc }
  | (nc, none) => { cc with c := nc }

def testNativeFunctionComplexity (cc : Calculator) (name : GoString) (fc : Int64) :
    Option CalcError :=
  match cc.version with
  | .v1 => cc.testCost name fc
  | .v2 => if fc = 0 then some (.zeroComplexity name) else cc.testCost name fc

def addNativeFunctionComplexity (cc : Calculator) (name : GoString) (fc : Int64) : Calculator :=
  match cc.version with
  | .v1 => cc.addCost name fc
  | .v2 => if fc = 0 then { cc with err := some (.zeroComplexity name) } else cc.addCost name fc

/-- `testAdditionalUserFunctionComplexity`: nothing in V1; in V2 the test of the extra one is
skipped when the body spent nothing (`ic == c`). -/
def testAdditionalUserFunctionComplexity (cc : Calculator) (name : GoString) (ic : Int64) :
    Option CalcError :=
  match cc.version with
  | .v1 => none
  | .v2 => if ic = cc.c then none else cc.testCost name 1

/-- `addAdditionalUserFunctionComplexity`: nothing in V1; in V2 the extra one is added exactly
when the body spent nothing. -/
def addAdditionalUserFunctionComplexity (cc : Calculator) (name : GoString) (ic : Int64) :
    Calculator :=
  match cc.version with
  | .v1 => cc
  | .v2 => if ic ≠ cc.c then cc else cc.addCost name 1

/-- `testOne` / the V2 no-op: the test of a conditional, reference or property node. -/
def testNodeComplexity (cc : Calculator) (name : GoString) : Option CalcError :=
  match cc.version with
  | .v1 => cc.testCost name 1
  | .v2 => none

/-- `addOne` / the V2 no-op: the charge of a conditional, reference or property node. -/
def addNodeComplexity (cc : Calculator) (name : GoString) : Calculator :=
  match cc.version with
  | .v1 => cc.addCost name 1
  | .v2 => cc

def testConditionalComplexity (cc : Calculator) : Option CalcError :=
  cc.testNodeComplexity conditionalNodeCodeName

def addConditionalComplexity (cc : Calculator) : Calculator :=
  cc.addNodeComplexity conditionalNodeCodeName

def testReferenceComplexity (cc : Calculator) : Option CalcError :=
  cc.testNodeComplexity referenceNodeCodeName

def addReferenceComplexity (cc : Calculator) : Calculator :=
  cc.addNodeComplexity referenceNodeCodeName

def testPropertyComplexity (cc : Calculator) : Option CalcError :=
  cc.testNodeComplexity propertyNodeCallCodeName

def addPropertyComplexity (cc : Calculator) : Calculator :=
  cc.addNodeComplexity propertyNodeCallCodeName

/-- `setLimit`: `l = int(limit)`. -/
def setLimit (cc : Calculator) (limit : UInt32) : Calculator := { cc with l := Int64.ofNat limit.toNat }

end Calculator

end Gowaves.Ride
