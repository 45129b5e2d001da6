import Gowaves.Ride.Natives
import Gowaves.GoLib.Heap

/-!
# List natives of RIDE over Go slices (`pkg/ride/functions_list.go`)

A `rideList` is a Go slice of `rideType`: a header into a backing array that other lists may
share.  The pure values of `RideType` cannot tell whether two lists share an array, so this
module keeps the evaluator's own view: a `Value` is an integer or the header of a list, and the
natives run over the heap of backing arrays (`GoLib.Heap`), returning the result and the heap
after the call.

* `limitedCreateList` (`cons`, version 6), `concatList`, `listRemoveByIndex` and
  `listReplaceByIndex` build their result in a new array;
* `appendToList` (`:+`) returns `append(list, e)`, which writes `e` into the argument's own array
  whenever its capacity is larger than its length — as it is after a growth that doubled it.

Result: `appendToList_shared` — two `:+` on one list with spare capacity return the same slice,
whose last element is the second one appended; so the calls of
`let a = [1] :+ 2 :+ 3; let b = a :+ 4; let c = a :+ 5; size(b) + size(c) == 8 && b[3] == 4`
(`sharedAppendScript`) find `b[3] = 5`.
-/

set_option autoImplicit false

namespace Gowaves.Ride

namespace Lists

open GoLib GoLib.Heap

/-- A RIDE value as the evaluator holds it: an integer, or a list as the header of its slice. -/
inductive Value where
  | int (v : Int64)
  | list (s : Header)
  deriving DecidableEq, Repr

/-- The cells past the length of a slice hold the zero value of `rideType`, `nil`; no native
reads them, so any value stands for it. -/
instance : Inhabited Value := ⟨.int 0⟩

/-- `instanceOf()`. -/
def Value.instanceOf : Value → GoString
  | .int _ => ascii "Int"
  | .list _ => ascii "List[Any]"

/-- The size in bytes of a `rideType` interface value on a 64-bit platform. -/
def rideTypeSize : Nat := 16

def maxListSize : Nat := 1000

/-- `rideList(nil)`, the constant `nil`. -/
def nilList : Value := .list ⟨0, 0, 0⟩

/-- The backing arrays of the lists. -/
abbrev ListHeap := Heap Value

/-- A list native: the arguments and the heap, to the result and the heap after the call. -/
abbrev Native := List Value → ListHeap → Except EvalError (Value × ListHeap)

/-- A fresh list holding `xs`, of capacity its length (`rideList{...}` or `make` and `copy`). -/
def fresh (h : ListHeap) (xs : List Value) : Value × ListHeap :=
  let (h', a) := alloc h xs
  (.list ⟨a, xs.length, xs.length⟩, h')

/-! ## Arguments -/

/-- `checkArgs`; no argument of the model is `nil`. -/
def checkArgs (args : List Value) (count : Nat) : Except GoString Unit :=
  if args.length ≠ count then
    .error (ascii (toString args.length) ++ ascii " is invalid number of arguments, expected " ++
      ascii (toString count))
  else .ok ()

def listArg (args : List Value) : Except GoString Header :=
  match checkArgs args 1, args with
  | .error e, _ => .error e
  | .ok (), [.list l] => .ok l
  | .ok (), [a] => .error (ascii "unexpected type of argument '" ++ a.instanceOf ++ ascii "'")
  | .ok (), _ => .error []

def listAndElementArgs (args : List Value) : Except GoString (Header × Value) :=
  match checkArgs args 2, args with
  | .error e, _ => .error e
  | .ok (), [.list l, e] => .ok (l, e)
  | .ok (), [a, _] => .error (ascii "unexpected type of argument 1 '" ++ a.instanceOf ++ ascii "'")
  | .ok (), _ => .error []

/-- The index checks of `listAndIntArgs` and `listAndIntAndElementArgs`. -/
def checkIndex (l : Header) (i : Int64) : Except GoString Nat :=
  if i.toInt < 0 then .error (ascii "negative index value " ++ ascii (toString i.toInt))
  else if l.len ≤ i.toInt then .error (ascii "index out of bounds")
  else .ok i.toInt.toNat

def listAndIntArgs (args : List Value) : Except GoString (Header × Nat) :=
  match checkArgs args 2, args with
  | .error e, _ => .error e
  | .ok (), [.list l, .int i] => (checkIndex l i).map (l, ·)
  | .ok (), [.list _, a] => .error (ascii "unexpected type of argument 2 '" ++ a.instanceOf ++ ascii "'")
  | .ok (), [a, _] => .error (ascii "unexpected type of argument 1 '" ++ a.instanceOf ++ ascii "'")
  | .ok (), _ => .error []

def listAndIntAndElementArgs (args : List Value) : Except GoString (Header × Nat × Value) :=
  match checkArgs args 3, args with
  | .error e, _ => .error e
  | .ok (), [.list l, .int i, e] => (checkIndex l i).map (l, ·, e)
  | .ok (), [.list _, a, _] =>
    .error (ascii "unexpected type of argument 2 '" ++ a.instanceOf ++ ascii "'")
  | .ok (), [a, _, _] => .error (ascii "unexpected type of argument 1 '" ++ a.instanceOf ++ ascii "'")
  | .ok (), _ => .error []

/-! ## The natives -/

/-- `errors.Wrap(err, name)` of a plain error. -/
def wrapPlain (name : String) (err : GoString) : EvalError := Natives.wrapPlain name err

def sizeList : Native := fun args h =>
  match listArg args with
  | .error e => .error (wrapPlain "sizeList" e)
  | .ok l => .ok (.int (Int64.ofNat l.len), h)

/-- `getList`: `l[i]`. -/
def getList : Native := fun args h =>
  match listAndIntArgs args with
  | .error e => .error (wrapPlain "getList" e)
  | .ok (l, i) => .ok ((read h l).getD i default, h)

/-- `append(rideList{head}, tail...)`. -/
def consSlice (h : ListHeap) (x : Value) (tail : Header) : Value × ListHeap :=
  let (h1, a) := alloc h [x]
  let (h2, s) := append rideTypeSize h1 ⟨a, 1, 1⟩ (read h1 tail)
  (.list s, h2)

/-- `limitedCreateList` (`cons` from version 6): `rideList{head}`, or
`append(rideList{head}, tail...)`. -/
def limitedCreateList : Native := fun args h =>
  match checkArgs args 2, args with
  | .error e, _ => .error (wrapPlain "limitedCreateList" e)
  | .ok (), [x, .list tail] =>
    if tail.len = maxListSize then
      .error (EvaluationErrorType.runtimeError.new
        (ascii "limitedCreateList: resulting list size exceeds 1000 elements"))
    else if tail.len = 0 then .ok (fresh h [x])
    else .ok (consSlice h x tail)
  | .ok (), [_, t] =>
    .error (.plain (ascii "limitedCreateList: unexpected argument type '" ++ t.instanceOf ++ ascii "'"))
  | .ok (), _ => .error (.plain [])

/-- `appendToList` (`:+`): `append(list, e)`, or `rideList{e}` for an empty list. -/
def appendToList : Native := fun args h =>
  match listAndElementArgs args with
  | .error e => .error (wrapPlain "appendToList" e)
  | .ok (l, e) =>
    if l.len = maxListSize then
      .error (.plain (ascii "appendToList: resulting list size exceeds 1000 elements"))
    else if l.len = 0 then .ok (fresh h [e])
    else
      let (h', s) := append rideTypeSize h l [e]
      .ok (.list s, h')

/-- `concatList` (`++`): a new slice of both lists.  Its type error formats the argument itself
with `%s`, which for an integer is `%!s(ride.rideInt=...)`. -/
def concatList : Native := fun args h =>
  match listAndElementArgs args with
  | .error e => .error (wrapPlain "concatList" e)
  | .ok (l1, .list l2) =>
    if maxListSize < l1.len + l2.len then
      .error (.plain (ascii "concatList: resulting list size exceeds 1000 elements"))
    else .ok (fresh h (read h l1 ++ read h l2))
  | .ok (_, .int v) =>
    .error (.plain (ascii "concatList: unexpected argument type '%!s(ride.rideInt=" ++
      ascii (toString v.toInt) ++ ascii ")'"))

/-- `listRemoveByIndex`: a new slice without the element at `i`. -/
def listRemoveByIndex : Native := fun args h =>
  match listAndIntArgs args with
  | .error e => .error (wrapPlain "listRemoveByIndex" e)
  | .ok (l, i) =>
    if l.len = 0 then
      .error (.plain (ascii "listRemoveByIndex: can't remove an element from empty list"))
    else .ok (fresh h ((read h l).take i ++ (read h l).drop (i + 1)))

/-- `listReplaceByIndex`: a new slice with `el` at `i`. -/
def listReplaceByIndex : Native := fun args h =>
  match listAndIntAndElementArgs args with
  | .error e => .error (wrapPlain "listReplaceByIndex" e)
  | .ok (l, i, el) =>
    if l.len = 0 then
      .error (.plain (ascii "listReplaceByIndex: can't replace an element in the empty list"))
    else .ok (fresh h ((read h l).set i el))

/-! ## `:+` -/

theorem appendToList_eq {l : Header} (h0 : l.len ≠ 0) (hmax : l.len ≠ maxListSize) (e : Value)
    (h : ListHeap) :
    appendToList [.list l, e] h =
      .ok (.list (append rideTypeSize h l [e]).2, (append rideTypeSize h l [e]).1) := by
  simp [appendToList, listAndElementArgs, checkArgs, h0, hmax]

/-- Two `:+` on one list with spare capacity return the same slice, and it ends with the
element of the second: the first result no longer holds its own element. -/
theorem appendToList_shared {h : ListHeap} {l : Header} (hl : WellFormed h l) (h0 : 0 < l.len)
    (hspare : l.len < l.cap) (hmax : l.len < maxListSize) (x y : Value) :
    ∃ b h1 h2, appendToList [.list l, x] h = .ok (.list b, h1) ∧
      appendToList [.list l, y] h1 = .ok (.list b, h2) ∧ read h2 b = read h l ++ [y] := by
  obtain ⟨hsame, hread⟩ := @append_append_alias Value _ rideTypeSize h l hl hspare x y
  refine ⟨_, _, _, appendToList_eq (Nat.pos_iff_ne_zero.mp h0) (Nat.ne_of_lt hmax) x h, ?_, hread⟩
  rw [appendToList_eq (Nat.pos_iff_ne_zero.mp h0) (Nat.ne_of_lt hmax) y, hsame]

/-- The heap after `[1] :+ 2 :+ 3`: the list `[1, 2, 3]` has capacity 4. -/
def heapOneTwoThree : ListHeap := [[.int 1], [.int 1, .int 2], [.int 1, .int 2, .int 3, default]]

theorem appendToList_shared_oneTwoThree :
    WellFormed heapOneTwoThree ⟨2, 3, 4⟩ ∧ 0 < 3 ∧ 3 < 4 ∧ 3 < maxListSize ∧
      ∃ b h1 h2, appendToList [.list ⟨2, 3, 4⟩, .int 4] heapOneTwoThree = .ok (.list b, h1) ∧
        appendToList [.list ⟨2, 3, 4⟩, .int 5] h1 = .ok (.list b, h2) ∧
        read h2 b = read heapOneTwoThree ⟨2, 3, 4⟩ ++ [.int 5] :=
  ⟨⟨by decide, by decide⟩, by decide, by decide, by decide,
    appendToList_shared ⟨by decide, by decide⟩ (by decide) (by decide) (by decide) (.int 4) (.int 5)⟩

/-! ## A script -/

/-- A run of natives over the heap. -/
abbrev Run (α : Type) := StateT ListHeap (Except EvalError) α

/-- Call a native. -/
def call (f : Native) (args : List Value) : Run Value := fun h => f args h

/-- The calls of `let a = [1] :+ 2 :+ 3; let b = a :+ 4; let c = a :+ 5;
size(b) + size(c) == 8 && b[3] == 4` in the order the evaluator makes them — a `let` is forced
where it is first used, `a` while forcing `b`, and each once — up to `size(b)`, `size(c)` and
`b[3]`. -/
def sharedAppendScript : Run (Value × Value × Value) := do
  let l ← call limitedCreateList [.int 1, nilList]
  let l ← call appendToList [l, .int 2]
  let a ← call appendToList [l, .int 3]
  let b ← call appendToList [a, .int 4]
  let sb ← call sizeList [b]
  let c ← call appendToList [a, .int 5]
  let sc ← call sizeList [c]
  let b3 ← call getList [b, .int 3]
  pure (sb, sc, b3)

/-- The script finds `size(b) = size(c) = 4` but `b[3] = 5`: the condition is false. -/
example : (sharedAppendScript []).map Prod.fst = .ok (.int 4, .int 4, .int 5) := rfl

end Lists

end Gowaves.Ride
