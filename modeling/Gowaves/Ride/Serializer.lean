import Gowaves.Ride.MetaProto
import Gowaves.Ride.Ast
import Gowaves.GoLib.Strconv

/-!
# The script serializer (`pkg/ride/serialization/serialization.go`, `serializerV1.go`,
`serializerV2.go`)

`SerializeTree` writes a script tree to bytes and appends the first four bytes of its
`SecureHash` as a checksum.  Two wire formats share one walker over the nodes and differ only in
their integers and headers:

* `V1` (library versions below 6): integers big-endian of fixed width; a DApp starts with
  `00 ct lv`, an expression with `lv` alone, and the DApp meta with a meta version `0`;
* `V2` (versions 6 and later): integers as unsigned varints; every script starts `lv ct`.

A node is a token byte and its fields: a `let` is `BLOCK_V1` (name, expression, block) or
`BLOCK_V2` with a `let` declaration, depending on its `NewBlock` flag, and a function
declaration in an expression is always `BLOCK_V2`.  A native function is written by its
number: its name is read with `strconv.ParseUint(name, 10, 16)`.  Every write to the buffer
succeeds, so the serializer fails only on a node of the wrong kind, on a native name that is
not a number, or in `meta.Build`, which may also panic.

`SecureHash` is a parameter: the model does not compute hashes, and no result depends on
which function it is.
-/

set_option autoImplicit false

namespace Gowaves.Ride.Serialization

open GoLib GoLib.Reader

/-- `crypto.Digest`. -/
abbrev Digest := Vector UInt8 32

/-- The two wire formats. -/
inductive Mode where
  | v1
  | v2
  deriving DecidableEq, Repr

/-! ## Tokens -/

def tokenLong : UInt8 := 0
def tokenBytes : UInt8 := 1
def tokenString : UInt8 := 2
def tokenIf : UInt8 := 3
def tokenBlockV1 : UInt8 := 4
def tokenRef : UInt8 := 5
def tokenTrue : UInt8 := 6
def tokenFalse : UInt8 := 7
def tokenGetter : UInt8 := 8
def tokenFunctionCall : UInt8 := 9
def tokenBlockV2 : UInt8 := 10

def functionTypeNative : UInt8 := 0
def functionTypeUser : UInt8 := 1

def declarationTypeLet : UInt8 := 0
def declarationTypeFunction : UInt8 := 1

/-! ## Integers -/

/-- `writeUint16V1` / `writeUint16V2`. -/
def writeUint16 : Mode → UInt16 → Bytes
  | .v1, v => BigEndian.toBytes 2 v.toNat
  | .v2, v => putUvarint v.toNat

/-- `writeUint32V1` / `writeUint32V2`. -/
def writeUint32 : Mode → UInt32 → Bytes
  | .v1, v => BigEndian.toBytes 4 v.toNat
  | .v2, v => putUvarint v.toNat

/-- `writeInt64V1` / `writeInt64V2`: the bits of the `int64` as a `uint64`. -/
def writeInt64 : Mode → Int64 → Bytes
  | .v1, v => BigEndian.toBytes 8 v.toUInt64.toNat
  | .v2, v => putUvarint v.toUInt64.toNat

/-- `writeBytes`: a `uint32` length and the bytes. -/
def writeBytes (m : Mode) (data : Bytes) : Bytes := writeUint32 m (UInt32.ofNat data.length) ++ data

def writeString (m : Mode) (s : GoString) : Bytes := writeBytes m s

/-! ## Nodes -/

/-- The function name of a call: a native by its number, a user function by its name. -/
def writeFunctionName (m : Mode) : Function → Outcome GoError Bytes
  | .nativeFunction name =>
    match Strconv.parseUint name 16 with
    | .ok id => .ok (functionTypeNative :: writeUint16 m (UInt16.ofNat id))
    | .error e => .error e
  | .userFunction name => .ok (functionTypeUser :: writeString m name)

/-- `writeFunctionDeclaration`, given the bytes of the body. -/
def functionDeclarationBytes (m : Mode) (name : GoString) (args : List GoString) (body : Bytes) :
    Bytes :=
  declarationTypeFunction :: writeString m name ++ writeUint32 m (UInt32.ofNat args.length) ++
    args.flatMap (writeString m) ++ body

/-- `typeNameOf` of a missing block. -/
def unsupportedNil : GoError := "unsupported type of node '<nil>'"

mutual

/-- `serializer.walk`. -/
def walk (m : Mode) : Node → Outcome GoError Bytes
  | .longNode v => .ok (tokenLong :: writeInt64 m v)
  | .bytesNode v => .ok (tokenBytes :: writeBytes m v)
  | .booleanNode true => .ok [tokenTrue]
  | .booleanNode false => .ok [tokenFalse]
  | .stringNode v => .ok (tokenString :: writeString m v)
  | .conditionalNode c t f => do
    let bc ← walk m c
    let bt ← walk m t
    let bf ← walk m f
    .ok (tokenIf :: bc ++ bt ++ bf)
  | .assignmentNode name e block newBlock => do
    -- `writeAssignmentDeclaration`: the name and the expression, then the block
    let be ← walk m e
    let bb ← walkBlock m block
    let head := if newBlock then [tokenBlockV2, declarationTypeLet] else [tokenBlockV1]
    .ok (head ++ writeString m name ++ be ++ bb)
  | .referenceNode name => .ok (tokenRef :: writeString m name)
  | .functionDeclarationNode name args body block _ => do
    let bd ← walk m body
    let bb ← walkBlock m block
    .ok (tokenBlockV2 :: functionDeclarationBytes m name args bd ++ bb)
  | .functionCallNode fn args => do
    let bn ← writeFunctionName m fn
    let ba ← walkArguments m args
    .ok (tokenFunctionCall :: bn ++ writeUint32 m (UInt32.ofNat args.length) ++ ba)
  | .propertyNode name obj => do
    let bo ← walk m obj
    .ok (tokenGetter :: bo ++ writeString m name)

/-- `walk` of a block, `nil` when absent. -/
def walkBlock (m : Mode) : Option Node → Outcome GoError Bytes
  | some n => walk m n
  | none => .error unsupportedNil

/-- The arguments of a call, in order. -/
def walkArguments (m : Mode) : List Node → Outcome GoError Bytes
  | [] => .ok []
  | a :: as => do
    let b ← walk m a
    let bs ← walkArguments m as
    .ok (b ++ bs)

end

/-! ## Declarations, callables and the verifier -/

/-- `writeDeclaration`: a global declaration, written without its block. -/
def writeDeclaration (m : Mode) : Node → Outcome GoError Bytes
  | .functionDeclarationNode name args body _ _ => do
    let bd ← walk m body
    .ok (functionDeclarationBytes m name args bd)
  | .assignmentNode name e _ _ => do
    let be ← walk m e
    .ok (declarationTypeLet :: writeString m name ++ be)
  | d => .error ("unexpected declaration type '" ++ d.typeName ++ "'")

def writeDeclarations (m : Mode) (ds : List Node) : Outcome GoError Bytes := do
  let bs ← ds.mapM (writeDeclaration m)
  .ok (writeUint32 m (UInt32.ofNat ds.length) ++ bs.flatten)

/-- `writeFunction`: the invocation parameter, then the declaration. -/
def writeFunction (m : Mode) (name : GoString) (args : List GoString) (body : Node)
    (invocationParameter : GoString) : Outcome GoError Bytes := do
  let bd ← walk m body
  .ok (writeString m invocationParameter ++ functionDeclarationBytes m name args bd)

/-- The body of the loop of `writeFunctions`: a callable must be a function declaration. -/
def writeCallable (m : Mode) : Node → Outcome GoError Bytes
  | .functionDeclarationNode name args body _ ip => writeFunction m name args body ip
  | f => .error ("unexpected function declaration type '" ++ f.typeName ++ "'")

def writeFunctions (m : Mode) (fs : List Node) : Outcome GoError Bytes := do
  let bs ← fs.mapM (writeCallable m)
  .ok (writeUint32 m (UInt32.ofNat fs.length) ++ bs.flatten)

/-- `writeVerifier`: a count `0` or `1`, then the verifier. -/
def writeVerifier (m : Mode) : Option Node → Outcome GoError Bytes
  | none => .ok (writeUint32 m 0)
  | some (.functionDeclarationNode name args body _ ip) => do
    let bf ← writeFunction m name args body ip
    .ok (writeUint32 m 1 ++ bf)
  | some v => .error ("invalid type of verifier node '" ++ v.typeName ++ "'")

/-- `writeMetaV1` / `writeMetaV2`: the protobuf bytes of `meta.Build`, after a meta version `0`
in `V1`. -/
def writeMeta (m : Mode) (dAppMeta : Meta.DApp) : Outcome GoError Bytes := do
  let pb ← Meta.build dAppMeta
  match m with
  | .v1 => .ok (writeUint32 m 0 ++ writeBytes m pb.marshalVTStrict)
  | .v2 => .ok (writeBytes m pb.marshalVTStrict)

/-! ## Scripts -/

/-- `serializeDAppV1` / `serializeDAppV2`. -/
def serializeDApp (m : Mode) (t : Tree) : Outcome GoError Bytes := do
  let bm ← writeMeta m t.dAppMeta
  let bd ← writeDeclarations m t.declarations
  let bf ← writeFunctions m t.functions
  let bv ← writeVerifier m t.verifier
  let header := match m with
    | .v1 => [0, t.contentType, t.libVersion]
    | .v2 => [t.libVersion, t.contentType]
  .ok (header ++ bm ++ bd ++ bf ++ bv)

/-- `serializeScriptV1` / `serializeScriptV2`: the header and the verifier expression. -/
def serializeScript (m : Mode) (t : Tree) : Outcome GoError Bytes := do
  let bv ← walkBlock m t.verifier
  let header := match m with
    | .v1 => [t.libVersion]
    | .v2 => [t.libVersion, t.contentType]
  .ok (header ++ bv)

section Hash

variable (secureHash : Bytes → Digest)

/-- `serializer.serialize`: the body and the first four bytes of its `SecureHash`. -/
def serialize (m : Mode) (t : Tree) : Outcome GoError Bytes := do
  let body ← if t.isDApp then serializeDApp m t else serializeScript m t
  .ok (body ++ (secureHash body).toList.take 4)

/-- The wire format of a library version. -/
def modeOf (libVersion : UInt8) : Mode := if libVersion < libV6 then .v1 else .v2

def serializeTree (t : Tree) : Outcome GoError Bytes := serialize secureHash (modeOf t.libVersion) t

end Hash

end Gowaves.Ride.Serialization
