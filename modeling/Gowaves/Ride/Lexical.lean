import Gowaves.Ride.Catalogue

/-!
# Lexical scoping: what the tree evaluator is meant to compute

RIDE is lexically scoped: a name means the binding visible where it is written.  This module
states that meaning as a reference semantics, independent of the evaluator's frames:

* a `let` binds its name to its expression *together with the environment of the
  declaration*, and a reference evaluates the expression in that environment;
* a function declaration binds its name to a closure over the environment of the
  declaration, in which its own name is not yet bound; a call evaluates the body in the
  closure's environment extended by the parameters;
* natives and constants are looked up as in the evaluator.

The semantics is big-step with fuel and ignores complexity; since RIDE expressions have no
side effects, evaluating a `let` at every use computes the value that call-by-need memoises.

Result: the comparison with the evaluator, which resolves names dynamically in its frames:
`letForcedInCallee_seesParameter` — a `let` first forced inside a user function whose parameter
reuses a name free in the `let`'s expression sees the parameter.
-/

set_option autoImplicit false

namespace Gowaves.Ride

open GoLib

/-- A binding of the reference semantics: a `let` with its environment, a parameter with its
value, or a user function with the environment of its declaration. -/
inductive LexBinding where
  | thunk (id : GoString) (expression : Node) (env : List LexBinding)
  | arg (id : GoString) (value : RideType)
  | closure (name : GoString) (arguments : List GoString) (body : Node) (env : List LexBinding)

namespace LexBinding

/-- The most recent `let` or parameter of the name. -/
def lookupValue : List LexBinding → GoString → Option LexBinding
  | [], _ => none
  | b@(.thunk id ..) :: bs, n | b@(.arg id _) :: bs, n =>
    if id = n then some b else lookupValue bs n
  | .closure .. :: bs, n => lookupValue bs n

/-- The most recent user function of the name. -/
def lookupFunction : List LexBinding → GoString → Option LexBinding
  | [], _ => none
  | b@(.closure name ..) :: bs, n => if name = n then some b else lookupFunction bs n
  | _ :: bs, n => lookupFunction bs n

end LexBinding

open LexBinding

section Reference

variable (natives : GoString → Option (List RideType → Except EvalError RideType))
  (constants : GoString → Option RideType)

/-- Call a native on evaluated arguments. -/
def callNative (name : GoString) (vs : List RideType) : Outcome Unit RideType :=
  match natives name with
  | some f =>
    match f vs with
    | .ok v => .ok v
    | .error _ => .error ()
  | none => .error ()

/-- The reference semantics: the value of a node in a lexical environment. -/
def evalLex : Nat → List LexBinding → Node → Outcome Unit RideType
  | 0, _, _ => .exhausted
  | _ + 1, _, .longNode v => .ok (.rideInt v)
  | _ + 1, _, .bytesNode v => .ok (.rideByteVector v)
  | _ + 1, _, .booleanNode v => .ok (.rideBoolean v)
  | _ + 1, _, .stringNode v => .ok (.rideString v)
  | n + 1, ρ, .conditionalNode c t f => do
    match ← evalLex n ρ c with
    | .rideBoolean true => evalLex n ρ t
    | .rideBoolean false => evalLex n ρ f
    | _ => .error ()
  | n + 1, ρ, .assignmentNode id e (some b) _ => evalLex n (.thunk id e ρ :: ρ) b
  | n + 1, ρ, .referenceNode id =>
    match lookupValue ρ id with
    | some (.thunk _ e ρ') => evalLex n ρ' e
    | some (.arg _ v) => .ok v
    | _ =>
      match constants id with
      | some v => .ok v
      | none => .error ()
  | n + 1, ρ, .functionDeclarationNode name args body (some b) _ =>
    evalLex n (.closure name args body ρ :: ρ) b
  | n + 1, ρ, .functionCallNode (.userFunction name) args => do
    let vs ← args.mapM (evalLex n ρ)
    match lookupFunction ρ name with
    | some (.closure _ params body ρ') =>
      if vs.length ≠ params.length then .error ()
      else evalLex n (((params.zip vs).map fun (p, v) => .arg p v).reverse ++ ρ') body
    | _ => callNative natives name vs
  | n + 1, ρ, .functionCallNode (.nativeFunction name) args => do
    let vs ← args.mapM (evalLex n ρ)
    callNative natives name vs
  | n + 1, ρ, .propertyNode name obj => do
    let o ← evalLex n ρ obj
    match o.get name with
    | .ok v => .ok v
    | .error _ => .error ()
  | _ + 1, _, _ => .error ()

end Reference

/-! ## The failing shape

`let x = 1; let y = x; func f(x: Int) = y; f(5) == 1`: the reference semantics gives `true`,
since `y` is `x` of the first line.  The evaluator forces `y` first inside the call of `f`,
whose frame is the top frame, so the reference to `x` in `y`'s expression finds the
parameter `x = 5`: it returns `false`, with complexity `2` in V6 (the comparison, and one for
a call whose body spent nothing). -/

/-- The tree of `let x = 1; let y = x; func f(x: Int) = y; f(5) == 1`. -/
def shadowedLetTree : Node :=
  .assignmentNode (ascii "x") (.longNode 1)
    (some (.assignmentNode (ascii "y") (.referenceNode (ascii "x"))
      (some (.functionDeclarationNode (ascii "f") [ascii "x"] (.referenceNode (ascii "y"))
        (some (.functionCallNode (.nativeFunction (ascii "0"))
          [.functionCallNode (.userFunction (ascii "f")) [.longNode 5], .longNode 1])) [])) false))
    false

/-- The script `let x = 1; let y = x; func f(x: Int) = y; f(5) == 1`, in library version 6. -/
def shadowedLetScript : Tree :=
  { Tree.new contentTypeExpression 6 with verifier := some shadowedLetTree }

/-- The boolean value of the reference semantics. -/
def lexBoolean : Outcome Unit RideType → Option Bool
  | .ok (.rideBoolean b) => some b
  | _ => none

theorem letForcedInCallee_seesParameter (fuel : Nat) (hfuel : 20 ≤ fuel) :
    scriptOutcome (callVerifier expressionEnvV6 fuel shadowedLetScript
        ((Calculator.new .v2).setLimit 2000)).1 = some (false, 2) ∧
    lexBoolean (evalLex expressionEnvV6.system expressionEnvV6.constants 20 [] shadowedLetTree) =
      some true := by
  have h20 : scriptOutcome (callVerifier expressionEnvV6 20 shadowedLetScript
      ((Calculator.new .v2).setLimit 2000)).1 = some (false, 2) := by decide
  have hne : (callVerifier expressionEnvV6 20 shadowedLetScript
      ((Calculator.new .v2).setLimit 2000)).1 ≠ .exhausted := by
    intro hex
    rw [hex] at h20
    cases h20
  refine ⟨?_, by decide⟩
  rw [callVerifier_mono expressionEnvV6 hfuel _ _ hne]
  exact h20

theorem letForcedInCallee_seesParameter_fuel64 :
    scriptOutcome (callVerifier expressionEnvV6 64 shadowedLetScript
        ((Calculator.new .v2).setLimit 2000)).1 = some (false, 2) ∧
    lexBoolean (evalLex expressionEnvV6.system expressionEnvV6.constants 20 [] shadowedLetTree) =
      some true :=
  letForcedInCallee_seesParameter 64 (by decide)

end Gowaves.Ride
