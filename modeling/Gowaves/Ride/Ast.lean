import Gowaves.Ride.Meta
import Mathlib.Data.List.Basic

/-!
# The RIDE syntax tree (`pkg/ride/ast`)

`ast.Node` is a Go interface with nine implementations; the model is one inductive type with
a constructor per node kind and the fields of its Go struct.  The `Block` of an assignment or
a function declaration is `nil` for the declarations of a DApp (they have no continuation)
and set for the blocks of an expression, so it is an `Option`.  `ast.Tree` holds a script:
its content type (expression or DApp), library version, DApp meta, global declarations,
callable functions and verifier.

Content types and library versions are Go `byte` types whose constructors `NewContentType`
and `NewLibraryVersion` accept `1 … 2` and `1 … 8`.
-/

set_option autoImplicit false

namespace Gowaves.Ride

/-- `ast.Function`: the name of a called function, user-defined or native. -/
inductive Function where
  | userFunction (name : GoString)
  | nativeFunction (name : GoString)
  deriving DecidableEq, Repr

/-- `Function.Name()`. -/
def Function.name : Function → GoString
  | .userFunction n => n
  | .nativeFunction n => n

/-- `ast.Node`. -/
inductive Node where
  | longNode (value : Int64)
  | bytesNode (value : List UInt8)
  | booleanNode (value : Bool)
  | stringNode (value : GoString)
  | conditionalNode (condition trueExpression falseExpression : Node)
  | assignmentNode (name : GoString) (expression : Node) (block : Option Node) (newBlock : Bool)
  | referenceNode (name : GoString)
  | functionDeclarationNode (name : GoString) (arguments : List GoString) (body : Node)
      (block : Option Node) (invocationParameter : GoString)
  | functionCallNode (function : Function) (arguments : List Node)
  | propertyNode (name : GoString) (object : Node)
  deriving Repr

/-- `SetBlock`: only assignments and function declarations have a block. -/
def Node.setBlock : Node → Node → Node
  | .assignmentNode n e _ nb, b => .assignmentNode n e (some b) nb
  | .functionDeclarationNode n args body _ ip, b => .functionDeclarationNode n args body (some b) ip
  | node, _ => node

/-- Go's `%T` of a node: the name of its pointer type. -/
def Node.typeName : Node → String
  | .longNode _ => "*ast.LongNode"
  | .bytesNode _ => "*ast.BytesNode"
  | .booleanNode _ => "*ast.BooleanNode"
  | .stringNode _ => "*ast.StringNode"
  | .conditionalNode .. => "*ast.ConditionalNode"
  | .assignmentNode .. => "*ast.AssignmentNode"
  | .referenceNode _ => "*ast.ReferenceNode"
  | .functionDeclarationNode .. => "*ast.FunctionDeclarationNode"
  | .functionCallNode .. => "*ast.FunctionCallNode"
  | .propertyNode .. => "*ast.PropertyNode"

/-- `%T` of a possibly `nil` node. -/
def typeNameOf : Option Node → String
  | some n => n.typeName
  | none => "<nil>"

/-- `ast.ContentTypeExpression`. -/
def contentTypeExpression : UInt8 := 1

/-- `ast.ContentTypeApplication`. -/
def contentTypeApplication : UInt8 := 2

/-- `ast.NewContentType`. -/
def newContentType (b : UInt8) : Except GoError UInt8 :=
  if b = contentTypeExpression ∨ b = contentTypeApplication then .ok b
  else .error ("unsupported content type " ++ toString b.toNat)

/-- `ast.NewLibraryVersion`: versions `LibV1 = 1` to `CurrentMaxLibraryVersion() = LibV8`. -/
def newLibraryVersion (b : UInt8) : Except GoError UInt8 :=
  if 1 ≤ b ∧ b ≤ 8 then .ok b else .error ("unsupported library version " ++ toString b.toNat)

/-- `ast.LibV6`, the first version serialized with varints. -/
def libV6 : UInt8 := 6

/-- `ast.Tree`. -/
structure Tree where
  digest : List UInt8
  contentType : UInt8
  libVersion : UInt8
  hasBlockV2 : Bool
  dAppMeta : Meta.DApp
  declarations : List Node
  functions : List Node
  verifier : Option Node

/-- `Tree.IsDApp`. -/
def Tree.isDApp (t : Tree) : Bool := t.contentType == contentTypeApplication

/-- `ast.NewTree`. -/
def Tree.new (content library : UInt8) : Tree :=
  ⟨[], content, library, false, Meta.DApp.empty, [], [], none⟩

/-- The bytes of an ASCII string literal, for writing the names of the examples. -/
def ascii (s : String) : GoString := s.toList.map fun c => c.toNat.toUInt8

/-- A Go string as a Lean string with one character per byte (ISO 8859-1): an ASCII string
is itself, and distinct Go strings stay distinct (`latin1_injective`). -/
def latin1 (s : GoString) : String := String.ofList (s.map fun b => Char.ofNat b.toNat)

theorem toNat_ofNat_byte (b : UInt8) : (Char.ofNat b.toNat).toNat = b.toNat := by
  have hb := b.toNat_lt
  have hv : b.toNat.isValidChar := Or.inl (by omega)
  rw [Char.ofNat, dif_pos hv]
  rfl

theorem latin1_injective : Function.Injective latin1 := by
  intro a b h
  have hl : a.map (fun b => Char.ofNat b.toNat) = b.map (fun b => Char.ofNat b.toNat) := by
    simpa [latin1] using congrArg String.toList h
  have hinj : Function.Injective fun b : UInt8 => Char.ofNat b.toNat := by
    intro x y hxy
    have := congrArg Char.toNat hxy
    simp only [toNat_ofNat_byte] at this
    exact UInt8.toNat_inj.mp this
  exact hinj.list_map hl

end Gowaves.Ride
