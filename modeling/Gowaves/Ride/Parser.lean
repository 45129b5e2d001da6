import Gowaves.Ride.Serializer

/-!
# The script parser (`pkg/ride/serialization/parsing.go`, `parserV1.go`, `parserV2.go`)

`Parse` checks the four-byte checksum, reads the header and then the body from a
`bytes.Reader` over the *whole* script, checksum included.  It never checks that the body ends
where the checksum begins, so bytes between the two are ignored.

The parser is a state machine over the unread bytes and the flag `seenBlockV2`; its methods are
`Parser.*` here.  Integers are read as in the serializer's format (`readShortV1` …
`readLongV2`), and signed: a V1 count is an `int32` of four bytes, so a count of `2^31` or more
is negative, and `make` of a negative length panics.  `readBytes` reads with
`(*bytes.Reader).Read`, which may return fewer bytes than asked: the rest of the buffer stays
zero.

`parseNext` calls itself for every sub-node; every call reads at least its token byte, so the
model runs it with as much fuel as the script has bytes.
-/

set_option autoImplicit false

namespace Gowaves.Ride.Serialization

open GoLib GoLib.Reader

/-- The state of a `parser`: the unread bytes of its reader and `seenBlockV2`. -/
structure ParserState where
  r : Bytes
  seenBlockV2 : Bool

/-- A method of `parser`. -/
abbrev Parser (α : Type) := StOutcome ParserState GoError α

/-- The text of `make` with a negative length. -/
def makesliceLen : String := "runtime error: makeslice: len out of range"

/-- `ast.ContentType` and `ast.LibraryVersion` of a script. -/
structure ScriptHeader where
  content : UInt8
  library : UInt8

/-! ## Integers -/

/-- A read of the reader's bytes. -/
def liftRead {α : Type} (f : Bytes → Except String (α × Bytes)) : Parser α := fun st =>
  match f st.r with
  | .ok (a, rest) => (.ok a, { st with r := rest })
  | .error e => (.error e, st)

/-- `(*bytes.Reader).ReadByte`. -/
def readByte : Parser UInt8 := liftRead Reader.readByte

def readShortV1 : Parser Int16 := do
  let b ← liftRead (readFull 2)
  pure (Int16.ofNat (BigEndian.ofBytes b))

def readIntV1 : Parser Int32 := do
  let b ← liftRead (readFull 4)
  pure (Int32.ofNat (BigEndian.ofBytes b))

def readLongV1 : Parser Int64 := do
  let b ← liftRead (readFull 8)
  pure (Int64.ofNat (BigEndian.ofBytes b))

/-- `readShortV2`: the varint as an `int64` must lie in the `int16` range. -/
def readShortV2 : Parser Int16 := do
  let v ← liftRead readUvarint
  let vv := (Int64.ofNat v).toInt
  if vv < -2 ^ 15 ∨ 2 ^ 15 - 1 < vv then StOutcome.throw "value out of int16 range"
  else pure (Int16.ofNat v)

/-- `readIntV2`: the varint as an `int64` must lie in the `int32` range. -/
def readIntV2 : Parser Int32 := do
  let v ← liftRead readUvarint
  let vv := (Int64.ofNat v).toInt
  if vv < -2 ^ 31 ∨ 2 ^ 31 - 1 < vv then StOutcome.throw "value out of int32 range"
  else pure (Int32.ofNat v)

def readLongV2 : Parser Int64 := do
  let v ← liftRead readUvarint
  pure (Int64.ofNat v)

namespace Parser

/-- `p.readShort` as set by `newParserV1` / `newParserV2`. -/
def readShort : Mode → Parser Int16
  | .v1 => readShortV1
  | .v2 => readShortV2

/-- `p.readInt`. -/
def readInt : Mode → Parser Int32
  | .v1 => readIntV1
  | .v2 => readIntV2

/-- `p.readLong`. -/
def readLong : Mode → Parser Int64
  | .v1 => readLongV1
  | .v2 => readLongV2

/-- `make([]T, n)` and `n` reads into it. -/
def readCounted {α : Type} (n : Int32) (p : Parser α) : Parser (List α) :=
  if n < 0 then StOutcome.lift (.panic makesliceLen)
  else (List.replicate n.toNatClampNeg p).mapM id

/-- `readBytes`: a length, then a `Read` into a buffer of that length; a short read leaves the
end of the buffer zero. -/
def readBytes (m : Mode) : Parser Bytes := do
  let n ← readInt m
  if n < 0 then StOutcome.lift (.panic makesliceLen)
  else if n = 0 then pure []
  else do
    let bs ← liftRead (Reader.read n.toNatClampNeg)
    pure (bs ++ List.replicate (n.toNatClampNeg - bs.length) 0)

def readString (m : Mode) : Parser GoString := readBytes m

/-- `readFunctionName`: a native by its number in decimal (`strconv.Itoa`), a user function by
its name. -/
def readFunctionName (m : Mode) (ft : UInt8) : Parser Function :=
  if ft = functionTypeNative then do
    let id ← readShort m
    pure (.nativeFunction (Strconv.itoa id.toInt))
  else if ft = functionTypeUser then do
    let name ← readString m
    pure (.userFunction name)
  else StOutcome.throw ("unsupported function type " ++ toString ft.toNat)

/-! ## Nodes

`parseNext` and `readDeclaration` call `parseNext` for their sub-nodes: each is written once
over a parser `next` for the sub-nodes, and `parseNext` ties the knot with fuel. -/

/-- `ad.NewBlock = true` on a `let` read after `BLOCK_V2`; a function declaration has no such
flag. -/
def markNewBlock : Node → Node
  | .assignmentNode name e b _ => .assignmentNode name e b true
  | d => d

section Step

variable (m : Mode) (next : Parser Node)

/-- `readDeclaration`: a `let` or a function declaration, without a block. -/
def readDeclarationWith : Parser Node := do
  let dt ← readByte
  if dt = declarationTypeLet then do
    let name ← readString m
    let exp ← next
    pure (.assignmentNode name exp none false)
  else if dt = declarationTypeFunction then do
    let name ← readString m
    let ac ← readInt m
    let arguments ← readCounted ac (readString m)
    let body ← next
    pure (.functionDeclarationNode name arguments body none [])
  else StOutcome.throw ("unsupported declaration type " ++ toString dt.toNat)

/-- The `switch` of `parseNext` on its token. -/
def parseToken (t : UInt8) : Parser Node :=
  if t = tokenLong then do
    let v ← readLong m
    pure (.longNode v)
  else if t = tokenBytes then do
    let v ← readBytes m
    pure (.bytesNode v)
  else if t = tokenString then do
    let v ← readString m
    pure (.stringNode v)
  else if t = tokenIf then do
    let condition ← next
    let trueBranch ← next
    let falseBranch ← next
    pure (.conditionalNode condition trueBranch falseBranch)
  else if t = tokenBlockV1 then do
    let name ← readString m
    let expr ← next
    let block ← next
    pure (.assignmentNode name expr (some block) false)
  else if t = tokenRef then do
    let name ← readString m
    pure (.referenceNode name)
  else if t = tokenTrue then pure (.booleanNode true)
  else if t = tokenFalse then pure (.booleanNode false)
  else if t = tokenGetter then do
    let object ← next
    let field ← readString m
    pure (.propertyNode field object)
  else if t = tokenFunctionCall then do
    let ft ← readByte
    let function ← readFunctionName m ft
    let argumentsCount ← readInt m
    let arguments ← readCounted argumentsCount next
    pure (.functionCallNode function arguments)
  else if t = tokenBlockV2 then do
    StOutcome.modify fun st => { st with seenBlockV2 := true }
    let declaration ← readDeclarationWith m next
    let block ← next
    pure ((markNewBlock declaration).setBlock block)
  else StOutcome.throw ("unsupported token " ++ String.ofList (Nat.toDigits 16 t.toNat))

/-- One call of `parseNext`: the token, then its fields. -/
def parseNextWith : Parser Node := readByte >>= parseToken m next

end Step

/-- `parseNext`, with fuel for its recursion. -/
def parseNext (m : Mode) : Nat → Parser Node
  | 0 => StOutcome.exhausted
  | fuel + 1 => parseNextWith m (parseNext m fuel)

def readDeclaration (m : Mode) (fuel : Nat) : Parser Node :=
  readDeclarationWith m (parseNext m fuel)

/-- A callable or the verifier: the invocation parameter, then a function declaration. -/
def readCallable (m : Mode) (fuel : Nat) : Parser Node := do
  let invocationParameter ← readString m
  let node ← readDeclaration m fuel
  match node with
  | .functionDeclarationNode name args body block _ =>
    pure (.functionDeclarationNode name args body block invocationParameter)
  | node => StOutcome.throw ("unexpected type of declaration " ++ node.typeName)

/-- `readMetaV1` / `readMetaV2`: in `V1` a meta version that must be `0`, then the protobuf
bytes, decoded and converted. -/
def readMeta (m : Mode) : Parser Meta.DApp := do
  let v ← match m with
    | .v1 => readInt m
    | .v2 => pure 0
  let b ← readBytes m
  if v ≠ 0 then StOutcome.throw ("unsupported script meta version " ++ toString v.toInt)
  else do
    let pb ← StOutcome.lift (Meta.PbDAppMeta.unmarshalVT b)
    StOutcome.lift (Meta.liftExcept (Meta.convert pb))

/-- The name of a callable. -/
def callableName : Node → GoString
  | .functionDeclarationNode name .. => name
  | _ => []

/-- `parseDApp`: the meta, the declarations, the callables (whose names are written into the
meta's functions) and the verifier. -/
def parseDApp (m : Mode) (fuel : Nat) (header : ScriptHeader) (id : Digest) : Parser Tree := do
  let dAppMeta ← readMeta m
  let n ← readInt m
  let declarations ← readCounted n (readDeclaration m fuel)
  let n ← readInt m
  let functions ← readCounted n (readCallable m fuel)
  let n ← readInt m
  let verifier ← if n ≠ 0 then some <$> readCallable m fuel else pure none
  let st ← StOutcome.get
  pure { Tree.new header.content header.library with
    dAppMeta := { dAppMeta with
      functions := Meta.setNames dAppMeta.functions (functions.map callableName) }
    declarations := declarations
    functions := functions
    verifier := verifier
    hasBlockV2 := st.seenBlockV2
    digest := id.toList }

def parseExpression (m : Mode) (fuel : Nat) (header : ScriptHeader) (id : Digest) :
    Parser Tree := do
  let node ← parseNext m fuel
  let st ← StOutcome.get
  pure { Tree.new header.content header.library with
    verifier := some node
    hasBlockV2 := st.seenBlockV2
    digest := id.toList }

/-- `parser.parse`. -/
def parse (m : Mode) (fuel : Nat) (header : ScriptHeader) (id : Digest) : Parser Tree :=
  if header.content = contentTypeExpression then parseExpression m fuel header id
  else if header.content = contentTypeApplication then parseDApp m fuel header id
  else StOutcome.throw ("unsupported content type '" ++ toString header.content.toNat ++ "'")

end Parser

/-! ## The header and the checksum -/

/-- `parseHeader`: `00 ct lv` or `lv` below version 6 (format `V1`), `lv ct` from 6 on
(format `V2`). -/
def parseHeader (r : Bytes) : Except GoError (ScriptHeader × Mode × Bytes) := do
  let (b, r) ← Reader.readByte r
  if b < libV6 then
    if b = 0 then do
      let (b, r) ← Reader.readByte r
      let ct ← newContentType b
      let (b, r) ← Reader.readByte r
      let lv ← newLibraryVersion b
      .ok (⟨ct, lv⟩, .v1, r)
    else .ok (⟨contentTypeExpression, b⟩, .v1, r)
  else do
    let lv ← newLibraryVersion b
    let (b, r) ← Reader.readByte r
    let ct ← newContentType b
    .ok (⟨ct, lv⟩, .v2, r)

section Hash

variable (secureHash : Bytes → Digest)

/-- `verifyCheckSum`: the last four bytes are the first four of the `SecureHash` of the rest. -/
def verifyCheckSum (scr : Bytes) : Except GoError Bool :=
  let size : Int := scr.length - 4
  if size ≤ 0 then .error ("invalid source length " ++ toString size)
  else .ok ((secureHash (scr.take size.toNat)).toList.take 4 == scr.drop size.toNat)

/-- `Parse`, with `sha256` for the tree's digest; the parser reads the whole script, checksum
included, with one unit of fuel per byte. -/
def parse (sha256 : Bytes → Digest) (script : Bytes) : Outcome GoError Tree :=
  match verifyCheckSum secureHash script with
  | .error e => .error ("failed to parse script: " ++ e)
  | .ok false => .error "invalid script checksum"
  | .ok true =>
    match parseHeader script with
    | .error e => .error ("failed to parse script header: " ++ e)
    | .ok (header, m, r) => (Parser.parse m script.length header (sha256 script) ⟨r, false⟩).1

end Hash

end Gowaves.Ride.Serialization
