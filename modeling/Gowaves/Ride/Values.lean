import Gowaves.Ride.Complexity

/-!
# RIDE values and evaluation errors (`pkg/ride/runtime.go`, `tuples.gen.go`, `errors.go`)

`rideType` is a Go interface; the model keeps the implementations the evaluator itself
inspects or builds: integers, booleans, byte vectors, strings, unit, lists, pairs
(`tuple2`), and the generated object types (`rideScriptResult`, `rideWriteSet`, …) as one
constructor `rideObject` holding the type name and the fields in declaration order.  Each
value has its `instanceOf`, its Go equality `eq` and its property access `get`, as the
source defines them.

Errors are of two kinds, as `errors.As` distinguishes them: a plain Go error (from
`errors.Errorf`, or a plain error wrapped by `errors.Wrapf`), and an `evaluationError` with
a type and a call stack.  `EvaluationErrorPushf` adds a frame to the call stack of the latter
and wraps the former; a typed `Wrap` starts a new evaluation error whose text ends with the
wrapped one.
-/

set_option autoImplicit false

namespace Gowaves.Ride

/-- `rideType`, restricted to the values the evaluator inspects. -/
inductive RideType where
  | rideInt (v : Int64)
  | rideBoolean (v : Bool)
  | rideByteVector (v : List UInt8)
  | rideString (v : GoString)
  | rideUnit
  | rideList (items : List RideType)
  | tuple2 (el1 el2 : RideType)
  | rideObject (instanceOf : GoString) (names : List GoString) (values : List RideType)
  deriving Repr

namespace RideType

/-- `instanceOf()`. -/
def instanceOf : RideType → GoString
  | .rideInt _ => ascii "Int"
  | .rideBoolean _ => ascii "Boolean"
  | .rideByteVector _ => ascii "ByteVector"
  | .rideString _ => ascii "String"
  | .rideUnit => ascii "Unit"
  | .rideList _ => ascii "List[Any]"
  | .tuple2 a b => ascii "(" ++ a.instanceOf ++ ascii ", " ++ b.instanceOf ++ ascii ")"
  | .rideObject n _ _ => n

mutual

/-- `eq(other)`: the same concrete type with equal contents; unit is equal to anything of
type name `Unit`, and lists and pairs first compare their type names. -/
def eq : RideType → RideType → Bool
  | .rideInt a, .rideInt b => a == b
  | .rideBoolean a, .rideBoolean b => a == b
  | .rideByteVector a, .rideByteVector b => a == b
  | .rideString a, .rideString b => a == b
  | .rideUnit, o => ascii "Unit" == o.instanceOf
  | .rideList as, .rideList bs => eqList as bs
  | .tuple2 a1 a2, .tuple2 b1 b2 =>
    (RideType.tuple2 a1 a2).instanceOf == (RideType.tuple2 b1 b2).instanceOf &&
      eq a1 b1 && eq a2 b2
  | .rideObject n ns vs, .rideObject m ms ws => n == m && ns == ms && eqList vs ws
  | _, _ => false

/-- The element-wise comparison of `rideList.eq`: equal lengths, equal items. -/
def eqList : List RideType → List RideType → Bool
  | [], [] => true
  | a :: as, b :: bs => eq a b && eqList as bs
  | _, _ => false

end

/-- `strconv.Atoi` on the decimal texts it accepts: an optional sign and at least one digit. -/
def atoi (s : GoString) : Option Int :=
  let digits (ds : GoString) : Option Nat :=
    if ds ≠ [] ∧ ds.all (fun d => 48 ≤ d ∧ d ≤ 57) then
      some (ds.foldl (fun n d => n * 10 + (d.toNat - 48)) 0)
    else none
  match s with
  | 43 :: ds => (digits ds).map Int.ofNat
  | 45 :: ds => (digits ds).map fun n => -Int.ofNat n
  | ds => (digits ds).map Int.ofNat

/-- Look a field up by name among the fields of a generated object. -/
def field : List GoString → List RideType → GoString → Option RideType
  | n :: ns, v :: vs, prop => if n = prop then some v else field ns vs prop
  | _, _, _ => none

/-- `get(prop)`: pairs answer `_1` and `_2` (through `strconv.Atoi`), objects their fields
and `$instance`; everything else has no property. -/
def get (v : RideType) (prop : GoString) : Except GoString RideType :=
  match v with
  | .tuple2 a b =>
    let noElement := ascii "tuple2 has no element '" ++ prop ++ ascii "'"
    match prop with
    | 95 :: rest =>
      match atoi rest with
      | some 1 => .ok a
      | some 2 => .ok b
      | _ => .error noElement
    | _ => .error noElement
  | .rideObject n ns vs =>
    if prop = ascii "$instance" then .ok (.rideString n)
    else match field ns vs prop with
      | some r => .ok r
      | none => .error (ascii "type '" ++ n ++ ascii "' has no property '" ++ prop ++ ascii "'")
  | v => .error (ascii "type '" ++ v.instanceOf ++ ascii "' has no property '" ++ prop ++ ascii "'")

end RideType

/-- An error of the evaluator: a plain Go error, or an `evaluationError` with its type, its
text and its call stack (most recent frame last). -/
inductive EvalError where
  | plain (message : GoString)
  | evaluation (errorType : EvaluationErrorType) (message : GoString)
      (reverseCallStack : List GoString)
  deriving DecidableEq, Repr

namespace EvalError

/-- `Error()`. -/
def text : EvalError → GoString
  | .plain m => m
  | .evaluation _ m _ => m

/-- `GetEvaluationErrorType`: plain errors are `Undefined`. -/
def errorType : EvalError → EvaluationErrorType
  | .plain _ => .undefined
  | .evaluation t _ _ => t

/-- `EvaluationErrorCallStack`: the frames, outermost first. -/
def callStack : EvalError → List GoString
  | .plain _ => []
  | .evaluation _ _ st => st.reverse

/-- `EvaluationErrorPushf(err, frame)`: an evaluation error gets the frame on its call stack,
a plain error is wrapped by it. -/
def pushf (err : EvalError) (frame : GoString) : EvalError :=
  match err with
  | .plain m => .plain (frame ++ ascii ": " ++ m)
  | .evaluation t m st => .evaluation t m (st ++ [frame])

end EvalError

namespace EvaluationErrorType

/-- `New` / `Errorf`: a fresh evaluation error with an empty call stack. -/
def new (t : EvaluationErrorType) (msg : GoString) : EvalError := .evaluation t msg []

/-- `Wrap` / `Wrapf`: a fresh evaluation error whose text is `msg: ` and the wrapped text. -/
def wrap (t : EvaluationErrorType) (inner : GoString) (msg : GoString) : EvalError :=
  .evaluation t (msg ++ ascii ": " ++ inner) []

end EvaluationErrorType

/-- `eet.Wrap(err, msg)` of a complexity calculator error, typed by `errTypeFromComplexityCalcErr`. -/
def wrapCalcError (e : CalcError) (msg : GoString) : EvalError :=
  e.wrapType.wrap e.text msg

end Gowaves.Ride
