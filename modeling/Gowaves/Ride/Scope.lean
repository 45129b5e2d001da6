import Gowaves.Ride.Values

/-!
# The evaluation scope of the tree evaluator (`pkg/ride/tree_evaluator.go`)

`evaluationScope` holds what names mean while a tree is evaluated:

* `cs` — a stack of frames of values, frame `0` first.  A `let` pushes its name with its
  unevaluated expression onto the top frame and pops it after its block; the first reference
  evaluates the expression and stores the value in place (`updateValue`), so a `let` is
  evaluated at most once.  A user function call pushes a new frame holding its arguments.
* `cl` — how many frames from the bottom are visible besides the top one: a name is looked up
  in the top frame first, then in frames `cl - 1, …, 0` (`value`).  A call sets `cl` to the
  stack height at the function's declaration, so frames pushed between the declaration and
  the call are hidden.
* `user` — the declared user functions, most recent last, each with the stack height `sp` at
  its declaration; a call finds the most recent declaration of its name (`userFunction`).
* `constants` — the library constants of the script's version, and the invocation parameter
  bound by the evaluator's constructor.

The operations on the top frame (`pushExpression`, `pushValue`, `popValue`) leave an empty
stack empty, where Go would index out of range; the evaluator never calls them on one.

Results: a simp set saying which fields each operation changes.
-/

set_option autoImplicit false

namespace Gowaves.Ride

/-- `esValue`: a name with its value, or with the expression that computes it. -/
structure EsValue where
  id : GoString
  value : Option RideType
  expression : Option Node
  deriving Repr

/-- `esFunction`: a declared user function and the stack height at its declaration. -/
structure EsFunction where
  name : GoString
  arguments : List GoString
  body : Node
  sp : Nat
  deriving Repr

/-- `evaluationScope` (the environment and the native table are the evaluator's). -/
structure EvaluationScope where
  constants : GoString → Option RideType
  cs : List (List EsValue)
  user : List EsFunction
  cl : Nat

namespace EvaluationScope

/-- `newEvaluationScope`: the constants of the version, one empty frame. -/
def new (constants : GoString → Option RideType) : EvaluationScope :=
  ⟨constants, [[]], [], 0⟩

/-- Change the top frame. -/
def modifyTop (s : EvaluationScope) (f : List EsValue → List EsValue) : EvaluationScope :=
  { s with cs := s.cs.modify (s.cs.length - 1) f }

def pushExpression (s : EvaluationScope) (id : GoString) (n : Node) : EvaluationScope :=
  s.modifyTop (· ++ [⟨id, none, some n⟩])

def pushValue (s : EvaluationScope) (id : GoString) (v : RideType) : EvaluationScope :=
  s.modifyTop (· ++ [⟨id, some v, none⟩])

def popValue (s : EvaluationScope) : EvaluationScope := s.modifyTop List.dropLast

/-- `updateValue`: memoise the value of an entry that has none yet and still has the name. -/
def updateValue (s : EvaluationScope) (frame pos : Nat) (id : GoString) (v : RideType) :
    EvaluationScope :=
  { s with cs := s.cs.modify frame fun vs =>
      vs.modify pos fun ev => if ev.id = id ∧ ev.value.isNone then ⟨id, some v, none⟩ else ev }

/-- `s.constants[id] = c`. -/
def setConstant (s : EvaluationScope) (id : GoString) (v : RideType) : EvaluationScope :=
  { s with constants := fun n => if n = id then some v else s.constants n }

def constant (s : EvaluationScope) (id : GoString) : Option RideType := s.constants id

/-- `lookup`: search a frame from its end; the entry and its position. -/
def lookup : List EsValue → GoString → Option (EsValue × Nat)
  | [], _ => none
  | v :: vs, id =>
    match lookup vs id with
    | some (w, i) => some (w, i + 1)
    | none => if v.id = id then some (v, 0) else none

/-- The loop of `value` over frames `i - 1, …, 0`. -/
def lookupBelow (cs : List (List EsValue)) (id : GoString) : Nat → Option (EsValue × Nat × Nat)
  | 0 => none
  | i + 1 =>
    match lookup (cs.getD i []) id with
    | some (v, p) => some (v, i, p)
    | none => lookupBelow cs id i

/-- `value`: the top frame, then frames `cl - 1, …, 0`; the entry, its frame and position. -/
def value (s : EvaluationScope) (id : GoString) : Option (EsValue × Nat × Nat) :=
  match s.cs with
  | [] => lookupBelow s.cs id s.cl
  | _ =>
    match lookup (s.cs.getD (s.cs.length - 1) []) id with
    | some (v, p) => some (v, s.cs.length - 1, p)
    | none => lookupBelow s.cs id s.cl

/-- `pushUserFunction`: the declaration and the current stack height. -/
def pushUserFunction (s : EvaluationScope) (name : GoString) (arguments : List GoString)
    (body : Node) : EvaluationScope :=
  { s with user := s.user ++ [⟨name, arguments, body, s.cs.length⟩] }

def popUserFunction (s : EvaluationScope) : Except EvalError EvaluationScope :=
  if s.user = [] then .error (EvaluationErrorType.evaluationFailure.new
    (ascii "empty user functions scope"))
  else .ok { s with user := s.user.dropLast }

/-- The search of `userFunction` over a list, from its end. -/
def findUser : List EsFunction → GoString → Option EsFunction
  | [], _ => none
  | f :: fs, id =>
    match findUser fs id with
    | some g => some g
    | none => if f.name = id then some f else none

/-- `userFunction`: the most recent declaration of the name. -/
def userFunction (s : EvaluationScope) (id : GoString) : Option EsFunction := findUser s.user id

/-- Push a frame of arguments and make the frames above the declaration invisible. -/
def enterFunction (s : EvaluationScope) (frame : List EsValue) (cl : Nat) : EvaluationScope :=
  { s with cs := s.cs ++ [frame], cl := cl }

/-- Drop the top frame and restore the visible height. -/
def leaveFunction (s : EvaluationScope) (cl : Nat) : EvaluationScope :=
  { s with cs := s.cs.dropLast, cl := cl }

/-! ## Which fields each operation changes -/

@[simp] theorem pushExpression_user (s : EvaluationScope) (id : GoString) (n : Node) :
    (s.pushExpression id n).user = s.user := rfl

@[simp] theorem pushExpression_cl (s : EvaluationScope) (id : GoString) (n : Node) :
    (s.pushExpression id n).cl = s.cl := rfl

@[simp] theorem pushValue_user (s : EvaluationScope) (id : GoString) (v : RideType) :
    (s.pushValue id v).user = s.user := rfl

@[simp] theorem popValue_user (s : EvaluationScope) : s.popValue.user = s.user := rfl

@[simp] theorem popValue_cl (s : EvaluationScope) : s.popValue.cl = s.cl := rfl

@[simp] theorem updateValue_user (s : EvaluationScope) (f p : Nat) (id : GoString)
    (v : RideType) : (s.updateValue f p id v).user = s.user := rfl

@[simp] theorem updateValue_cl (s : EvaluationScope) (f p : Nat) (id : GoString)
    (v : RideType) : (s.updateValue f p id v).cl = s.cl := rfl

@[simp] theorem enterFunction_user (s : EvaluationScope) (fr : List EsValue) (cl : Nat) :
    (s.enterFunction fr cl).user = s.user := rfl

@[simp] theorem leaveFunction_user (s : EvaluationScope) (cl : Nat) :
    (s.leaveFunction cl).user = s.user := rfl

@[simp] theorem pushUserFunction_cs (s : EvaluationScope) (n : GoString) (a : List GoString)
    (b : Node) : (s.pushUserFunction n a b).cs = s.cs := rfl

@[simp] theorem pushUserFunction_cl (s : EvaluationScope) (n : GoString) (a : List GoString)
    (b : Node) : (s.pushUserFunction n a b).cl = s.cl := rfl

end EvaluationScope

end Gowaves.Ride
