import Gowaves.GoLib.Outcome
import Gowaves.GoLib.GoMap

/-!
# DApp metadata (`pkg/ride/meta`)

A DApp script carries, besides its code, a description of its callable functions: their
argument types and the table of abbreviated names.  It is stored as the protobuf message
`DAppMeta` (`pkg/ride/meta/generated`), and converted to and from the Go value `meta.DApp`:

* `Meta.build` — `meta.Build`, the Go value to the protobuf message (versions 0, 1, 2);
* `Meta.convert` — `meta.Convert`, the protobuf message to the Go value;
* `encodeType`, `parseUnion`, `parseList` — the one-byte type descriptors.

The conversion is lossy by design: the protobuf message has no function names (`convert`
leaves them empty), a union of one simple type is read back as that simple type, a union is
read back in the bit order of its descriptor, and version 0 carries nothing at all.
-/

set_option autoImplicit false

namespace Gowaves.Ride

open GoLib

/-- Go strings are byte strings: names and string literals need not be valid UTF-8. -/
abbrev GoString := List UInt8

/-- Go's error values, by their `Error()` text. -/
abbrev GoError := String

namespace Meta

/-- `meta.SimpleType`: one of the bits `Int = 1`, `Bytes = 2`, `Boolean = 4`, `String = 8`. -/
abbrev SimpleType := UInt8

/-- `meta.Type`: a simple type, a union of simple types, or a list. -/
inductive MetaType where
  | simpleType (t : SimpleType)
  | unionType (ts : List SimpleType)
  | listType (inner : MetaType)
  deriving DecidableEq, Repr

/-- `meta.Function`. -/
structure Function where
  name : GoString
  arguments : List MetaType
  deriving DecidableEq, Repr

/-- `meta.Abbreviations`. -/
structure Abbreviations where
  pairs : List (GoString × GoString)
  names : List GoString
  compact2original : GoMap GoString GoString
  deriving DecidableEq, Repr

/-- `meta.DApp`. -/
structure DApp where
  version : Int
  functions : List Function
  abbreviations : Abbreviations
  deriving DecidableEq, Repr

/-- The empty abbreviations of a zero `meta.DApp{}`. -/
def Abbreviations.empty : Abbreviations := ⟨[], [], []⟩

/-- The zero value `meta.DApp{}`. -/
def DApp.empty : DApp := ⟨0, [], Abbreviations.empty⟩

/-- The protobuf message `DAppMeta`: a version, one signature (its type bytes) per callable,
the abbreviation pairs and the original names. -/
structure PbDAppMeta where
  version : Int
  funcs : List (List UInt8)
  compactNameAndOriginalNamePairList : List (GoString × GoString)
  originalNames : List GoString
  deriving DecidableEq, Repr

/-- `new(g.DAppMeta)`. -/
def PbDAppMeta.empty : PbDAppMeta := ⟨0, [], [], []⟩

/-- `meta.encodeType`. -/
def encodeType : MetaType → UInt8
  | .simpleType t => t
  | .unionType ts => ts.foldl (· ||| ·) 0
  | .listType inner => 16 ||| encodeType inner

/-- `meta.typeBuilderV1`: list types are not allowed in version 1. -/
def typeBuilderV1 (types : List MetaType) : Except GoError (List UInt8) :=
  types.mapM fun t =>
    match t with
    | .listType _ => .error "unsupported type 'ListType'"
    | t => .ok (encodeType t)

/-- `meta.typeBuilderV2`. -/
def typeBuilderV2 (types : List MetaType) : Except GoError (List UInt8) :=
  .ok (types.map encodeType)

/-- `meta.buildFunctions`. -/
def buildFunctions (typeBuilder : List MetaType → Except GoError (List UInt8))
    (functions : List Function) : Except GoError (List (List UInt8)) :=
  functions.mapM fun f => typeBuilder f.arguments

/-- `meta.buildAbbreviations`: the pairs are stored into a slice sized by the map, so more
pairs than map entries is an index out of range, and fewer leaves `nil` entries, which the
protobuf encoder writes as empty pairs. -/
def buildAbbreviations (a : Abbreviations) :
    Outcome GoError (List (GoString × GoString) × List GoString) :=
  let n := a.compact2original.length
  if n < a.pairs.length then
    .panic ("runtime error: index out of range [" ++ toString n ++ "] with length " ++ toString n)
  else .ok (a.pairs ++ List.replicate (n - a.pairs.length) ([], []), a.names)

/-- Lift a Go call that cannot panic. -/
def liftExcept {α : Type} : Except GoError α → Outcome GoError α
  | .ok a => .ok a
  | .error e => .error e

/-- `meta.Build`. -/
def build (m : DApp) : Outcome GoError PbDAppMeta :=
  match m.version with
  | 0 => .ok PbDAppMeta.empty
  | 1 => do
    let fns ← liftExcept (buildFunctions typeBuilderV1 m.functions)
    let (pairs, names) ← buildAbbreviations m.abbreviations
    .ok ⟨1, fns, pairs, names⟩
  | 2 => do
    let fns ← liftExcept (buildFunctions typeBuilderV2 m.functions)
    let (pairs, names) ← buildAbbreviations m.abbreviations
    .ok ⟨2, fns, pairs, names⟩
  | v => .error ("unsupported meta version " ++ toString v)

/-- `meta.parseUnion`: the simple types whose bits are set, a single one unwrapped. -/
def parseUnion (t : UInt8) : MetaType :=
  let r := [1, 2, 4, 8].filter fun (m : UInt8) => t &&& m == m
  match r with
  | [s] => .simpleType s
  | r => .unionType r

/-- `meta.parseList`. -/
def parseList (t : UInt8) : MetaType :=
  if t < 16 then parseUnion t else .listType (parseUnion (t ^^^ 16))

/-- `meta.convertTypesV1`. -/
def convertTypesV1 (types : List UInt8) : Except GoError (List MetaType) :=
  types.mapM fun t =>
    if t < 1 ∨ 15 < t then .error ("unsupported type '" ++ toString t ++ "' for meta V1")
    else .ok (parseUnion t)

/-- `meta.convertTypesV2`. -/
def convertTypesV2 (types : List UInt8) : Except GoError (List MetaType) :=
  types.mapM fun t =>
    if t < 1 ∨ 31 < t then .error ("unsupported type '" ++ toString t ++ "' for meta V2")
    else .ok (parseList t)

/-- `meta.convertFunctions`: names are not in the protobuf message and come back empty. -/
def convertFunctions (typeConverter : List UInt8 → Except GoError (List MetaType))
    (functions : List (List UInt8)) : Except GoError (List Function) :=
  functions.mapM fun f => do
    let types ← typeConverter f
    .ok ⟨[], types⟩

/-- `meta.convertAbbreviations`. -/
def convertAbbreviations (pairs : List (GoString × GoString)) (names : List GoString) :
    Abbreviations :=
  ⟨pairs, names, pairs.foldl (fun m p => GoMap.insert m p.1 p.2) []⟩

/-- `meta.Convert`. -/
def convert (pb : PbDAppMeta) : Except GoError DApp :=
  let abbreviations := convertAbbreviations pb.compactNameAndOriginalNamePairList pb.originalNames
  match pb.version with
  | 0 => .ok DApp.empty
  | 1 => do
    let functions ← convertFunctions convertTypesV1 pb.funcs
    .ok ⟨1, functions, abbreviations⟩
  | 2 => do
    let functions ← convertFunctions convertTypesV2 pb.funcs
    .ok ⟨2, functions, abbreviations⟩
  | v => .error ("unsupported meta version " ++ toString v)

/-- `tree.Meta.Functions[i].Name = fn.Name` for every callable `i` that has a signature: the
names the script parser writes back into a converted meta. -/
def setNames : List Function → List GoString → List Function
  | f :: fs, n :: ns => { f with name := n } :: setNames fs ns
  | fs, [] => fs
  | [], _ :: _ => []

end Meta

end Gowaves.Ride
