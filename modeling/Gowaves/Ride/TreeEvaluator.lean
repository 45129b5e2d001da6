import Gowaves.Ride.Scope

/-!
# The tree evaluator (`pkg/ride/tree_evaluator.go`)

`treeEvaluator.walk` evaluates a RIDE syntax tree node by node against the evaluation scope
and the complexity calculator of its environment.  The model is a state-passing function: the
state is the scope and the calculator, and a Go `defer` that charges the calculator is
`StOutcome.withDefer`, which runs on every exit.  The Go recursion has no bound; the model's
`walk` takes fuel, one unit per call of `walk`, and ends `exhausted` when it runs out, so that
a run that does not end in Go is one that is `exhausted` for every fuel.

`walkNode` is one call of `walk`: it is given the walker for the sub-nodes, and so are the
helpers `materializeArguments`, `evaluateNativeFunction` and `evaluateUserFunction`; `walk`
ties the knot on the fuel.

The environment provides what the evaluator takes from `environment` and from the catalogues
of the script's library version: the native functions (`system`), their evaluation costs
(`costs`), the library constants, the transaction and invocation objects bound to the
invocation parameter, and the conversions of DApp results to actions.

Results: `walk_mono` and `evaluate_mono` — more fuel never changes a result that did not run
out of fuel, so a result computed with some fuel is the result.
-/

set_option autoImplicit false

namespace Gowaves.Ride

open GoLib GoLib.StOutcome

/-- The evaluator's view of `environment` and of the version's catalogues. -/
structure Environment (Action : Type) where
  system : GoString → Option (List RideType → Except EvalError RideType)
  costs : GoString → Option Int64
  constants : GoString → Option RideType
  newTx : RideType
  newInvocation : RideType
  objectToActions : RideType → Except GoString (List Action)
  convertToAction : RideType → Except GoString Action

/-- What the evaluator changes: its scope and the environment's complexity calculator. -/
structure EvalState where
  s : EvaluationScope
  cc : Calculator

/-- A computation of the evaluator. -/
abbrev Eval (α : Type) := StOutcome EvalState EvalError α

/-- Change the scope. -/
def modifyScope (f : EvaluationScope → EvaluationScope) : Eval Unit :=
  modify fun st => { st with s := f st.s }

/-- Change the calculator (the charge of a `defer`). -/
def chargeWith (f : Calculator → Calculator) (st : EvalState) : EvalState :=
  { st with cc := f st.cc }

/-- `EvaluationErrorPushf(err, frame)` on the error of a sub-computation. -/
def pushing {α : Type} (x : Eval α) (frame : GoString) : Eval α :=
  mapError x (·.pushf frame)

/-- Throw the error of a failed complexity test, typed by `errTypeFromComplexityCalcErr`. -/
def testing (t : Option CalcError) (msg : GoString) : Eval Unit :=
  match t with
  | some e => throw (wrapCalcError e msg)
  | none => pure ()

section Walk

variable {Action : Type} (env : Environment Action) (w : Option Node → Eval RideType)

/-- `materializeArguments`, from the argument numbered `i + 1`. -/
def materializeArguments (i : Nat) : List Node → Eval (List RideType)
  | [] => pure []
  | a :: as => do
    let v ← pushing (w (some a))
      (ascii "failed to materialize argument " ++ ascii (toString (i + 1)))
    let vs ← materializeArguments (i + 1) as
    pure (v :: vs)

/-- `evaluateNativeFunction`: look the function and its cost up, evaluate the arguments, test
the cost, call, and charge the cost on the way out. -/
def evaluateNativeFunction (name : GoString) (arguments : List Node) : Eval RideType :=
  match env.system name with
  | none => throw (EvaluationErrorType.evaluationFailure.new
      (ascii "failed to find system function '" ++ name ++ ascii "'"))
  | some f =>
    match env.costs name with
    | none => throw (EvaluationErrorType.evaluationFailure.new
        (ascii "failed to get cost of system function '" ++ name ++ ascii "'"))
    | some cost => do
      let frame := ascii "failed to call system function '" ++ name ++ ascii "'"
      let args ← pushing (materializeArguments w 0 arguments) frame
      let st ← get
      testing (st.cc.testNativeFunctionComplexity name cost)
        (ascii "failed to test complexity of system function")
      withDefer
        (match f args with
          | .ok r => pure r
          | .error err => throw (err.pushf frame))
        (chargeWith (·.addNativeFunctionComplexity name cost))

/-- The body of `evaluateUserFunction` after its `defer`: find the function, check the number
of arguments, push their frame, walk the body with the frames of the declaration visible, pop
the frame, and test the extra charge of a call. -/
def callUserFunction (name : GoString) (args : List RideType) (ic : Int64) : Eval RideType := do
  let st ← get
  match st.s.userFunction name with
  | none => throw (EvaluationErrorType.runtimeError.new
      (ascii "user function '" ++ name ++ ascii "' not found"))
  | some uf =>
    if args.length ≠ uf.arguments.length then
      throw (EvaluationErrorType.runtimeError.new
        (ascii "mismatched arguments number of user function '" ++ name ++ ascii "'"))
    else do
      let frame := (uf.arguments.zip args).map fun (an, a) => (⟨an, some a, none⟩ : EsValue)
      let tmp := st.s.cl
      modifyScope (·.enterFunction frame uf.sp)
      let r ← pushing (w (some uf.body))
        (ascii "failed to evaluate function '" ++ name ++ ascii "' body")
      modifyScope (·.leaveFunction tmp)
      let st' ← get
      testing (st'.cc.testAdditionalUserFunctionComplexity name ic)
        (ascii "failed to test complexity of user function")
      pure r

/-- `evaluateUserFunction`: the complexity on entry is kept for the deferred extra charge. -/
def evaluateUserFunction (name : GoString) (args : List RideType) : Eval RideType := do
  let st ← get
  withDefer (callUserFunction w name args st.cc.c)
    (chargeWith (·.addAdditionalUserFunctionComplexity name st.cc.c))

/-- A reference: a scope value (evaluated on first use and memoised), or else a constant. -/
def evaluateReference (id : GoString) : Eval RideType := do
  let st ← get
  match st.s.value id with
  | none =>
    match st.s.constant id with
    | some v => pure v
    | none => throw (EvaluationErrorType.runtimeError.new
        (ascii "value '" ++ id ++ ascii "' not found"))
  | some (v, f, p) =>
    match v.value with
    | some x => pure x
    | none =>
      match v.expression with
      | none => throw (EvaluationErrorType.runtimeError.new
          (ascii "scope value '" ++ id ++ ascii "' is empty"))
      | some e => do
        let r ← pushing (w (some e))
          (ascii "failed to evaluate expression of scope value '" ++ id ++ ascii "'")
        modifyScope (·.updateValue f p id r)
        pure r

/-- One call of `walk`: the calculator's error check, then one case per node kind. -/
def walkNode (node : Option Node) : Eval RideType := do
  let st ← get
  match st.cc.err with
  | some err => throw (wrapCalcError err
      (ascii "failed to walk node '" ++ ascii (typeNameOf node) ++ ascii "'"))
  | none =>
  match node with
  | none => throw (EvaluationErrorType.evaluationFailure.new
      (ascii "unsupported type of node '" ++ ascii (typeNameOf none) ++ ascii "'"))
  | some (.longNode v) => pure (.rideInt v)
  | some (.bytesNode v) => pure (.rideByteVector v)
  | some (.booleanNode v) => pure (.rideBoolean v)
  | some (.stringNode v) => pure (.rideString v)
  | some (.conditionalNode c t f) => do
    testing st.cc.testConditionalComplexity (ascii "failed to test conditional complexity")
    withDefer
      (do
        let ce ← pushing (w (some c)) (ascii "failed to estimate the condition of if")
        match ce with
        | .rideBoolean true => w (some t)
        | .rideBoolean false => w (some f)
        | _ => throw (EvaluationErrorType.runtimeError.new
            (ascii "conditional is not a boolean")))
      (chargeWith Calculator.addConditionalComplexity)
  | some (.assignmentNode id e b _) => do
    modifyScope (·.pushExpression id e)
    let r ← pushing (w b)
      (ascii "failed to evaluate block after declaration of variable '" ++ id ++ ascii "'")
    modifyScope EvaluationScope.popValue
    pure r
  | some (.referenceNode id) => do
    testing st.cc.testReferenceComplexity (ascii "failed to test reference complexity")
    withDefer (evaluateReference w id) (chargeWith Calculator.addReferenceComplexity)
  | some (.functionDeclarationNode id args body b _) => do
    modifyScope (·.pushUserFunction id args body)
    let r ← pushing (w b)
      (ascii "failed to evaluate block after declaration of function '" ++ id ++ ascii "'")
    let st' ← get
    match st'.s.popUserFunction with
    | .error err => throw (err.pushf
        (ascii "failed to evaluate declaration of function '" ++ id ++ ascii "'"))
    | .ok s' => do
      set { st' with s := s' }
      pure r
  | some (.functionCallNode fn args) =>
    match fn with
    | .nativeFunction name => evaluateNativeFunction env w name args
    | .userFunction name =>
      match st.s.userFunction name with
      | none => evaluateNativeFunction env w name args
      | some _ => do
        let vs ← pushing (materializeArguments w 0 args)
          (ascii "failed to evaluate function '" ++ name ++ ascii "' body")
        evaluateUserFunction w name vs
  | some (.propertyNode name obj) => do
    testing st.cc.testPropertyComplexity (ascii "failed to test property complexity")
    withDefer
      (do
        let o ← pushing (w (some obj))
          (ascii "failed to evaluate an object to get property '" ++ name ++ ascii "' on it")
        match o.get name with
        | .ok v => pure v
        | .error e => throw ((EvalError.plain e).pushf
            (ascii "failed to get property '" ++ name ++ ascii "'")))
      (chargeWith Calculator.addPropertyComplexity)

end Walk

/-- `treeEvaluator.walk`, with one unit of fuel per call. -/
def walk {Action : Type} (env : Environment Action) : Nat → Option Node → Eval RideType
  | 0, _ => exhausted
  | fuel + 1, node => walkNode env (walk env fuel) node

/-! ## More fuel changes nothing

Each helper, given a walker that extends another (agrees with it wherever it does not run out
of fuel), extends the helper built on the other; so does one step `walkNode`, and by induction
on the fuel so does `walk` with more fuel. -/

section Mono

variable {Action : Type} (env : Environment Action) {w w' : Option Node → Eval RideType}

theorem pushing_extends {α : Type} {x y : Eval α} (h : x.Extends y) (frame : GoString) :
    (pushing x frame).Extends (pushing y frame) :=
  h.mapError _

variable (hw : ∀ n, (w n).Extends (w' n))
include hw

theorem materializeArguments_extends (i : Nat) (args : List Node) :
    (materializeArguments w i args).Extends (materializeArguments w' i args) := by
  induction args generalizing i with
  | nil => exact Extends.refl _
  | cons a as ih =>
    exact (pushing_extends (hw _) _).bind fun _ => (ih _).bind fun _ => Extends.refl _

theorem evaluateNativeFunction_extends (name : GoString) (args : List Node) :
    (evaluateNativeFunction env w name args).Extends (evaluateNativeFunction env w' name args) := by
  unfold evaluateNativeFunction
  split
  · exact Extends.refl _
  · split
    · exact Extends.refl _
    · exact (pushing_extends (materializeArguments_extends hw 0 args) _).bind
        fun _ => Extends.refl _

theorem evaluateUserFunction_extends (name : GoString) (args : List RideType) :
    (evaluateUserFunction w name args).Extends (evaluateUserFunction w' name args) := by
  unfold evaluateUserFunction callUserFunction
  refine (Extends.refl _).bind fun st => (Extends.withDefer ?_ _)
  refine (Extends.refl _).bind fun st' => ?_
  split
  · exact Extends.refl _
  · split
    · exact Extends.refl _
    · exact (Extends.refl _).bind fun _ => (pushing_extends (hw _) _).bind fun _ => Extends.refl _

theorem evaluateReference_extends (id : GoString) :
    (evaluateReference w id).Extends (evaluateReference w' id) := by
  unfold evaluateReference
  refine (Extends.refl _).bind fun st => ?_
  split
  · exact Extends.refl _
  · split
    · exact Extends.refl _
    · split
      · exact Extends.refl _
      · exact (pushing_extends (hw _) _).bind fun _ => Extends.refl _

theorem walkNode_extends (node : Option Node) :
    (walkNode env w node).Extends (walkNode env w' node) := by
  unfold walkNode
  refine (Extends.refl _).bind fun st => ?_
  split
  · exact Extends.refl _
  · rcases node with _ | n
    · exact Extends.refl _
    cases n with
    | longNode | bytesNode | booleanNode | stringNode => exact Extends.refl _
    | conditionalNode c t f =>
      refine (Extends.refl _).bind fun _ => Extends.withDefer ?_ _
      refine (pushing_extends (hw _) _).bind fun ce => ?_
      split
      · exact hw _
      · exact hw _
      · exact Extends.refl _
    | assignmentNode | functionDeclarationNode =>
      exact (Extends.refl _).bind fun _ => (pushing_extends (hw _) _).bind
        fun _ => Extends.refl _
    | referenceNode =>
      exact (Extends.refl _).bind fun _ => (evaluateReference_extends hw _).withDefer _
    | functionCallNode fn args =>
      cases fn with
      | nativeFunction name => exact evaluateNativeFunction_extends env hw name args
      | userFunction name =>
        simp only
        split
        · exact evaluateNativeFunction_extends env hw name args
        · exact (pushing_extends (materializeArguments_extends hw 0 args) _).bind
            fun _ => evaluateUserFunction_extends hw _ _
    | propertyNode =>
      refine (Extends.refl _).bind fun _ => Extends.withDefer ?_ _
      exact (pushing_extends (hw _) _).bind fun _ => Extends.refl _

end Mono

/-- **More fuel never changes a result that did not run out of fuel.** -/
theorem walk_mono {Action : Type} (env : Environment Action) {n m : Nat} (h : n ≤ m)
    (node : Option Node) : (walk env n node).Extends (walk env m node) := by
  induction n generalizing m node with
  | zero => exact exhausted_extends _
  | succ n ih =>
    obtain ⟨m, rfl⟩ : ∃ m', m = m' + 1 := ⟨m - 1, by omega⟩
    exact walkNode_extends env (fun node => ih (by omega) node) node

/-! ## Results and the evaluator's entry points -/

/-- `ScriptResult` and `DAppResult`, with the complexity they report. -/
inductive Result (Action : Type) where
  | scriptResult (res : Bool) (complexity : Int64)
  | dAppResult (actions : List Action) (param : Option RideType) (complexity : Int64)

/-- `Complexity()`. -/
def Result.complexity {Action : Type} : Result Action → Int64
  | .scriptResult _ c => c
  | .dAppResult _ _ c => c

def Result.withComplexity {Action : Type} : Result Action → Int64 → Result Action
  | .scriptResult r _, c => .scriptResult r c
  | .dAppResult a p _, c => .dAppResult a p c

/-- The outcome of an expression script, as the value and complexity it reports. -/
def scriptOutcome {Action : Type} : Outcome EvalError (Result Action) → Option (Bool × Int64)
  | .ok (.scriptResult b c) => some (b, c)
  | _ => none

/-- Go's `%T` of a value, for the error of an unexpected result; a generated object type is
named `ride` and its type name. -/
def RideType.goTypeName : RideType → String
  | .rideInt _ => "ride.rideInt"
  | .rideBoolean _ => "ride.rideBoolean"
  | .rideByteVector _ => "ride.rideByteVector"
  | .rideString _ => "ride.rideString"
  | .rideUnit => "ride.rideUnit"
  | .rideList _ => "ride.rideList"
  | .tuple2 .. => "ride.tuple2"
  | .rideObject n _ _ => "ride.ride" ++ String.ofList (n.map fun b => Char.ofNat b.toNat)

/-- `treeEvaluator`: whether the script is a DApp, the node to evaluate and its name. -/
structure TreeEvaluator where
  dapp : Bool
  f : Option Node
  fName : GoString

section Evaluate

variable {Action : Type} (env : Environment Action)

/-- The conversion of the walk's value in `evaluate`. -/
def convertResult (r : RideType) : Eval (Result Action) := do
  let st ← get
  let unexpected : Eval (Result Action) := throw (EvaluationErrorType.evaluationFailure.new
    (ascii "unexpected result type '" ++ ascii r.goTypeName ++ ascii "'"))
  let failed (err : GoString) : Eval (Result Action) :=
    throw (EvaluationErrorType.evaluationFailure.wrap err
      (ascii "failed to convert evaluation result"))
  match r with
  | .rideBoolean b => pure (.scriptResult b st.cc.c)
  | .rideObject n _ _ =>
    if n = ascii "ScriptResult" ∨ n = ascii "WriteSet" ∨ n = ascii "TransferSet" then
      match env.objectToActions r with
      | .ok a => pure (.dAppResult a none st.cc.c)
      | .error err => failed err
    else unexpected
  | .rideList items =>
    match items.mapM env.convertToAction with
    | .ok a => pure (.dAppResult a none st.cc.c)
    | .error err => failed err
  | .tuple2 (.rideList items) el2 =>
    match items.mapM env.convertToAction with
    | .ok a => pure (.dAppResult a (some el2) st.cc.c)
    | .error err => failed err
  | _ => unexpected

/-- `handleZeroComplexityCall`, the deferred end of `evaluate`: a DApp call that spent nothing
is charged one, after checking the calculator. -/
def handleZeroComplexityCall (e : TreeEvaluator) (ic : Int64)
    (r : Outcome EvalError (Result Action)) : Eval (Result Action) :=
  match r with
  | .ok res =>
    if !e.dapp then pure res
    else do
      let st ← get
      match st.cc.err with
      | some err => throw (wrapCalcError err
          (ascii "complexity calculator error detected at the end of evaluation in '" ++
            e.fName ++ ascii "'"))
      | none => do
        testing (st.cc.testAdditionalUserFunctionComplexity e.fName ic)
          (ascii "failed to add complexity of user script invocation '" ++ e.fName ++ ascii "'")
        modify (chargeWith (·.addAdditionalUserFunctionComplexity e.fName ic))
        let st' ← get
        pure (res.withComplexity st'.cc.c)
  | r => fun s => (r, s)

/-- `treeEvaluator.evaluate`: walk, convert, and the deferred `handleZeroComplexityCall` with
the complexity on entry. -/
def evaluate (fuel : Nat) (e : TreeEvaluator) : Eval (Result Action) := fun st =>
  let r := (walk env fuel e.f >>= convertResult env) st
  handleZeroComplexityCall e st.cc.c r.1 r.2

end Evaluate

/-- `evaluationScope.declare`. -/
def EvaluationScope.declare (s : EvaluationScope) : Node → Except EvalError EvaluationScope
  | .functionDeclarationNode name args body _ _ => .ok (s.pushUserFunction name args body)
  | .assignmentNode name e _ _ => .ok (s.pushExpression name e)
  | n => .error (EvaluationErrorType.evaluationFailure.new
      (ascii "not a declaration '" ++ ascii n.typeName ++ ascii "'"))

/-- The declarations of a tree, declared in order. -/
def declareAll (s : EvaluationScope) (ds : List Node) : Except EvalError EvaluationScope :=
  match ds.foldlM EvaluationScope.declare s with
  | .ok s => .ok s
  | .error err => .error (EvaluationErrorType.evaluationFailure.wrap err.text
      (ascii "invalid declaration"))

section Constructors

variable {Action : Type} (env : Environment Action)

/-- `treeVerifierEvaluator`: an expression is evaluated itself; a DApp's verifier is a
function whose body is evaluated after the declarations, its parameter bound to the
transaction. -/
def treeVerifierEvaluator (tree : Tree) : Except EvalError (TreeEvaluator × EvaluationScope) :=
  let s := EvaluationScope.new env.constants
  if tree.isDApp then
    match tree.verifier with
    | some (.functionDeclarationNode name _ body _ param) => do
      let s ← declareAll s tree.declarations
      .ok (⟨true, some body, name⟩, s.setConstant param env.newTx)
    | some _ => .error (EvaluationErrorType.evaluationFailure.new
        (ascii "invalid verifier declaration"))
    | none => .error (EvaluationErrorType.evaluationFailure.new (ascii "no verifier declaration"))
  else .ok (⟨false, tree.verifier, ascii "verifier"⟩, s)

/-- The search of `treeFunctionEvaluator` for the callable: its parameter is bound to the
invocation and its arguments pushed into frame `0`, after the declarations. -/
def findCallable (s : EvaluationScope) (name : GoString) (args : List RideType) :
    List Node → Except EvalError (TreeEvaluator × EvaluationScope)
  | [] => .error (EvaluationErrorType.evaluationFailure.new
      (ascii "function '" ++ name ++ ascii "' not found"))
  | .functionDeclarationNode fname fargs body _ param :: rest =>
    if fname = name then
      if args.length ≠ fargs.length then
        .error (EvaluationErrorType.evaluationFailure.new
          (ascii "invalid arguments count " ++ ascii (toString args.length) ++
            ascii " for function '" ++ name ++ ascii "'"))
      else
        let s := (fargs.zip args).foldl (fun s (a, v) => s.pushValue a v)
          (s.setConstant param env.newInvocation)
        .ok (⟨true, some body, name⟩, s)
    else findCallable s name args rest
  | _ :: _ => .error (EvaluationErrorType.evaluationFailure.new
      (ascii "invalid callable declaration"))

def treeFunctionEvaluator (tree : Tree) (name : GoString) (args : List RideType) :
    Except EvalError (TreeEvaluator × EvaluationScope) := do
  let s ← declareAll (EvaluationScope.new env.constants) tree.declarations
  if !tree.isDApp then
    .error (EvaluationErrorType.evaluationFailure.new
      (ascii "unable to call function '" ++ name ++ ascii "' on simple script"))
  else findCallable env s name args tree.functions

/-- `CallVerifier`: build the evaluator and evaluate; an error of the `Undefined` type is
wrapped.  Besides the outcome, the calculator at the end (the spent complexity the Go error
carries is the calculator's). -/
def callVerifier (fuel : Nat) (tree : Tree) (cc : Calculator) :
    Outcome EvalError (Result Action) × Calculator :=
  match treeVerifierEvaluator env tree with
  | .error err => (.error (EvaluationErrorType.runtimeError.wrap err.text
      (ascii "failed to call verifier")), cc)
  | .ok (e, s) =>
    let r := evaluate env fuel e ⟨s, cc⟩
    match r.1 with
    | .error err =>
      if err.errorType = .undefined then
        (.error (EvaluationErrorType.undefined.wrap err.text
          (ascii "unhandled error by '" ++ e.fName ++ ascii "'")), r.2.cc)
      else (.error err, r.2.cc)
    | o => (o, r.2.cc)

end Constructors

/-- **Evaluation with more fuel** returns what it returned with less, unless it ran out. -/
theorem evaluate_mono {Action : Type} (env : Environment Action) {n m : Nat} (h : n ≤ m)
    (e : TreeEvaluator) : (evaluate env n e).Extends (evaluate env m e) := by
  intro st hst
  have hbody : (walk env n e.f >>= convertResult env).Extends
      (walk env m e.f >>= convertResult env) :=
    (walk_mono env h e.f).bind fun _ => Extends.refl _
  have hne : ((walk env n e.f >>= convertResult env) st).1 ≠ .exhausted := by
    intro hex
    apply hst
    simp only [evaluate, hex]
    rfl
  simp only [evaluate, hbody st hne]

theorem callVerifier_mono {Action : Type} (env : Environment Action) {n m : Nat} (h : n ≤ m)
    (tree : Tree) (cc : Calculator) (hn : (callVerifier env n tree cc).1 ≠ .exhausted) :
    callVerifier env m tree cc = callVerifier env n tree cc := by
  unfold callVerifier at hn ⊢
  cases ht : treeVerifierEvaluator env tree with
  | error err => rfl
  | ok p =>
    obtain ⟨e, s⟩ := p
    simp only [ht] at hn ⊢
    have hne : (evaluate env n e ⟨s, cc⟩).1 ≠ .exhausted := by
      intro hex
      rw [hex] at hn
      exact hn rfl
    rw [evaluate_mono env h e _ hne]

end Gowaves.Ride
