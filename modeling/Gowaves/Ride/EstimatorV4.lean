import Gowaves.Ride.Scope
import Gowaves.GoLib.GoMap

/-!
# The complexity estimator, version 4 (`pkg/ride/tree_estimatorV4.go`, `tree_estimatorV3.go`)

Before a script is accepted its complexity is estimated statically: `EstimateTree(tree, 4)`
walks the tree once and charges each native call its catalogue cost, each user function call
the estimated cost of the function's body (at least one), a conditional the larger of its
branches, and a `let` its expression only if its block uses the name.

Function names are resolved lexically, through a chain of function tables `fsV3`: `save`
makes a child of the current table current and returns the old one, `restore` makes a table
current again, and a declaration is written into the current table after its body has been
estimated, so inside its own body a function's name still denotes the outer function of that
name, or the library function.  The tables are shared mutable Go maps, so the model keeps all
of them in a heap, addressed by position, each with the address of its parent; a parent is
always allocated before its children.

The usages stack records, per function body being estimated, which names are referenced, so
that a `let` is charged only when used.

The estimator is total: it is structurally recursive on the tree and needs no fuel.
`EstimatorSoundness` compares its result with the evaluator's.
-/

set_option autoImplicit false

namespace Gowaves.Ride

open GoLib Gowaves.Util

structure FunctionDescriptor where
  cost : Int64
  usages : List GoString
  callsInvocation : Bool
  deriving DecidableEq, Repr

/-- One `fsV3`: the address of its parent and its own table. -/
structure FsV3 where
  parent : Option Nat
  functions : GoMap GoString FunctionDescriptor
  deriving Repr

/-- `estimationScopeV3`: the usages stack (top last), the heap of function tables, the address
of the current one, and the catalogue of native costs. -/
structure EstimationScopeV3 where
  usages : List (List GoString)
  heap : List FsV3
  functions : Nat
  builtin : GoString → Option Int64

namespace EstimationScopeV3

/-- `newEstimationScopeV3`: one root table. -/
def new (builtin : GoString → Option Int64) : EstimationScopeV3 := ⟨[], [⟨none, []⟩], 0, builtin⟩

/-- `fsV3.get`: look the key up in a table, then in its ancestors; `fuel` bounds the chain. -/
def lookupTable (heap : List FsV3) (key : GoString) : Nat → Nat → Option FunctionDescriptor
  | 0, _ => none
  | fuel + 1, a =>
    match heap[a]? with
    | none => none
    | some fs =>
      match fs.functions.get key with
      | some fd => some fd
      | none =>
        match fs.parent with
        | none => none
        | some p => lookupTable heap key fuel p

/-- `save`: a fresh child of the current table becomes current; the old one is returned. -/
def save (s : EstimationScopeV3) : Nat × EstimationScopeV3 :=
  (s.functions, { s with heap := s.heap ++ [⟨some s.functions, []⟩], functions := s.heap.length })

def restore (s : EstimationScopeV3) (fs : Nat) : EstimationScopeV3 := { s with functions := fs }

/-- `setFunction`: write into the current table; whether the name was already there. -/
def setFunction (s : EstimationScopeV3) (id : GoString) (fd : FunctionDescriptor) :
    Bool × EstimationScopeV3 :=
  let present := match s.heap[s.functions]? with
    | some fs => fs.functions.contains id
    | none => false
  (present, { s with heap := s.heap.modify s.functions fun fs =>
    { fs with functions := fs.functions.insert id fd } })

/-- `resetFunctions`: a fresh root table becomes current. -/
def resetFunctions (s : EstimationScopeV3) : EstimationScopeV3 :=
  { s with heap := s.heap ++ [⟨none, []⟩], functions := s.heap.length }

/-- `nativeFunction`: the catalogue cost; the invocation natives are marked. -/
def nativeFunction (s : EstimationScopeV3) (ut : String) (id : GoString) :
    Except GoString FunctionDescriptor :=
  match s.builtin id with
  | some c => .ok ⟨c, [], id = ascii "1020" ∨ id = ascii "1021"⟩
  | none => .error (ascii ut ++ ascii " function '" ++ id ++ ascii "' not found")

/-- `function`: a user function is looked up in the tables first. -/
def function (s : EstimationScopeV3) (f : Function) : Except GoString FunctionDescriptor :=
  match f with
  | .userFunction id =>
    match lookupTable s.heap id s.heap.length s.functions with
    | some fd => .ok fd
    | none => s.nativeFunction "user" id
  | .nativeFunction id => s.nativeFunction "native" id

/-- Change the top of the usages stack, if there is one. -/
def modifyTopUsages (s : EstimationScopeV3) (f : List GoString → List GoString) :
    EstimationScopeV3 :=
  { s with usages := s.usages.modify (s.usages.length - 1) f }

def used (s : EstimationScopeV3) (id : GoString) : Bool :=
  match s.usages.getLast? with
  | some top => top.contains id
  | none => false

/-- `remove`: every occurrence of the name leaves the top of the stack. -/
def remove (s : EstimationScopeV3) (id : GoString) : EstimationScopeV3 :=
  s.modifyTopUsages (·.filter (· ≠ id))

def use (s : EstimationScopeV3) (id : GoString) : EstimationScopeV3 :=
  s.modifyTopUsages (· ++ [id])

def submerge (s : EstimationScopeV3) : EstimationScopeV3 := { s with usages := s.usages ++ [[]] }

/-- `emerge`: pop the top of the stack and return it. -/
def emerge (s : EstimationScopeV3) : List GoString × EstimationScopeV3 :=
  ((s.usages.getLast?).getD [], { s with usages := s.usages.dropLast })

end EstimationScopeV3

/-- A computation of the estimator. -/
abbrev Est (α : Type) := StateT EstimationScopeV3 (Except GoString) α

namespace Est

/-- Run a scope operation with a result. -/
def scope {α : Type} (f : EstimationScopeV3 → α × EstimationScopeV3) : Est α := fun s => .ok (f s)

/-- Change the scope. -/
def change (f : EstimationScopeV3 → EstimationScopeV3) : Est Unit := fun s => .ok ((), f s)

/-- Fail with a plain error. -/
def fail {α : Type} (e : GoString) : Est α := fun _ => .error e

/-- `errors.Wrap(err, msg)` on the error of a sub-computation. -/
def wrap {α : Type} (x : Est α) (msg : GoString) : Est α := fun s =>
  match x s with
  | .ok r => .ok r
  | .error e => .error (msg ++ ascii ": " ++ e)

/-- `common.AddInt` on complexities, its error returned as is. -/
def add (a b : Int64) : Est Int64 :=
  match addInt a b with
  | (c, none) => pure c
  | (_, some e) => fail (ascii e)

end Est

open EstimationScopeV3 Est

mutual

/-- `treeEstimatorV4.walk`: the cost of a node and whether it may call an invocation native. -/
def estimateNode : Node → Est (Int64 × Bool)
  | .longNode _ | .bytesNode _ | .booleanNode _ | .stringNode _ => pure (0, false)
  | .conditionalNode cond t f => do
    let (ce, ci) ← wrap (estimateNode cond) (ascii "failed to estimate the condition of if")
    let cs ← scope save
    let (le, li) ← wrap (estimateNode t) (ascii "failed to estimate the true branch of if")
    let ls ← scope save
    change (restore · cs)
    let (re, ri) ← wrap (estimateNode f) (ascii "failed to estimate the false branch of if")
    if re < le then do
      change (restore · ls)
      let res ← add ce le
      pure (res, ci || li)
    else do
      let res ← add ce re
      pure (res, ci || ri)
  | .assignmentNode id e b _ => do
    let overlapped ← scope fun s => (s.used id, s)
    change (remove · id)
    let (c, inv) ← wrap (estimateBlock b)
      (ascii "failed to estimate block after declaration of variable '" ++ id ++ ascii "'")
    let isUsed ← scope fun s => (s.used id, s)
    let (c, inv) ← if isUsed then do
        let tmp ← scope save
        let (le, li) ← wrap (estimateNode e) (ascii "failed to estimate let expression")
        change (restore · tmp)
        let c ← add c le
        pure (c, inv || li)
      else pure (c, inv)
    if overlapped then change (use · id) else change (remove · id)
    pure (c, inv)
  | .referenceNode id => do
    change (use · id)
    pure (0, false)
  | .functionDeclarationNode id _ body b _ => do
    let tmp ← scope save
    change submerge
    let (fc, bi) ← wrap (estimateNode body)
      (ascii "failed to estimate cost of function '" ++ id ++ ascii "'")
    let bodyUsages ← scope emerge
    change (restore · tmp)
    let redeclared ← scope (setFunction · id ⟨fc, bodyUsages, bi⟩)
    let msg := ascii "failed to estimate block after declaration of function '" ++ id ++ ascii "'"
    if redeclared then fail (ascii "function '" ++ id ++ ascii "' already declared")
    else wrap (estimateBlock b) msg
  | .functionCallNode fn args => do
    let name := fn.name
    let fd ← wrap (fun s => (s.function fn).map (·, s))
      (ascii "failed to estimate the call of function '" ++ name ++ ascii "'")
    change fun s => fd.usages.foldl use s
    let (ac, inv) ← estimateArguments name 0 args 0 fd.callsInvocation
    let fc : Int64 := if fd.cost = 0 then 1 else fd.cost
    let res ← add fc ac
    pure (res, inv)
  | .propertyNode name obj =>
    wrap (estimateNode obj) (ascii "failed to estimate getter '" ++ name ++ ascii "'")

/-- A block, which is `nil` where a declaration has none. -/
def estimateBlock : Option Node → Est (Int64 × Bool)
  | some n => estimateNode n
  | none => fail (ascii "unsupported type of node '" ++ ascii (typeNameOf none) ++ ascii "'")

/-- The loop over the arguments of a call, each estimated in a child table: the sum of their
costs and whether any calls an invocation. -/
def estimateArguments (name : GoString) (i : Nat) :
    List Node → Int64 → Bool → Est (Int64 × Bool)
  | [], ac, inv => pure (ac, inv)
  | a :: as, ac, inv => do
    let tmp ← scope save
    let (c, ai) ← wrap (estimateNode a)
      (ascii "failed to estimate parameter " ++ ascii (toString i) ++
        ascii " of function call '" ++ name ++ ascii "'")
    change (restore · tmp)
    let ac ← add ac c
    estimateArguments name (i + 1) as ac (inv || ai)

end

/-- `TreeEstimation`: the largest estimate, the verifier's, and each callable's. -/
structure TreeEstimation where
  estimation : Int64
  verifier : Int64
  functions : GoMap GoString Int64
  deriving Repr

/-- `wrapFunction`: a callable or verifier called with `true` for every argument, after its
invocation parameter and the global declarations. -/
def wrapFunction (declarations : List Node) : Node → Node
  | node@(.functionDeclarationNode name args _ _ param) =>
    let call := Node.functionCallNode (.userFunction name) (args.map fun _ => .booleanNode true)
    let block := Node.assignmentNode param (.booleanNode true) (some (node.setBlock call)) false
    declarations.foldr (fun d b => d.setBlock b) block
  | node => node

/-- The loop of `estimate` over the callables: the largest cost so far and each callable's. -/
def estimateCallables (tree : Tree) :
    List Node → Int64 → GoMap GoString Int64 → Est (Int64 × GoMap GoString Int64)
  | [], max, m => pure (max, m)
  | f :: fs, max, m => do
    change resetFunctions
    match f with
    | .functionDeclarationNode name .. => do
      change submerge
      let (c, _) ← estimateNode (wrapFunction tree.declarations f)
      let _ ← scope emerge
      estimateCallables tree fs (if max < c then c else max) (m.insert name c)
    | _ => fail (ascii "invalid callable declaration")

/-- `treeEstimatorV4.estimate`. -/
def estimateTree (tree : Tree) : Est TreeEstimation :=
  if !tree.isDApp then do
    change submerge
    let (c, inv) ← estimateBlock tree.verifier
    if inv then fail (ascii "usage of invocation functions is prohibited in expressions")
    else do
      let _ ← scope emerge
      pure ⟨c, c, []⟩
  else do
    let (max, m) ← estimateCallables tree tree.functions 0 []
    match tree.verifier with
    | none => pure ⟨max, 0, m⟩
    | some v => do
      change resetFunctions
      match v with
      | .functionDeclarationNode .. => do
        change submerge
        let (c, inv) ← estimateNode (wrapFunction tree.declarations v)
        if inv then fail (ascii "usage of invocation functions is prohibited in verifier")
        else do
          let _ ← scope emerge
          pure ⟨if max < c then c else max, c, m⟩
      | _ => fail (ascii "invalid verifier declaration")

/-- `EstimateTree(tree, 4)`, with the catalogue of the tree's library version. -/
def estimateTreeV4 (catalogue : GoString → Option Int64) (tree : Tree) :
    Except GoString TreeEstimation :=
  match estimateTree tree (EstimationScopeV3.new catalogue) with
  | .ok (r, _) => .ok r
  | .error e => .error (ascii "failed to estimate with tree estimator V4: " ++ e)

end Gowaves.Ride
