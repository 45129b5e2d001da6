import Gowaves.Ride.Natives
import Gowaves.GoLib.Strings

/-!
# String natives of RIDE (`pkg/ride/functions_strings.go`)

The natives on strings that count in runes: `size`, `take` and `drop` (`sizeString`,
`takeString`, `dropString`), and the four searches `indexOf` and `lastIndexOf`, with and without
an offset.  A RIDE string is a Go string, so the model works on its bytes with the decoding of
`GoLib.Utf8`; a valid string is `encode cs` for the runes `cs`.

`lastIndexOfSubstringWithOffset` loops until `strings.LastIndex` of a shrinking prefix is at
most the offset; it is the one native here that may not return, so it takes the fuel of the
loop and returns an `Outcome`.

Results:
* `runesIndex_encode`, `lastIndex_encode` — `indexOf` counts runes, `lastIndexOf` counts bytes:
  the first gives the rune offset of the first occurrence, the second the byte offset of the last;
* `indexOfSubstring_takeDrop` — so `take(drop(s, indexOf(s, sub)), size(sub)) == sub`;
* `lastIndexOfSubstring_multibyte` — but after a rune of two or more bytes, `lastIndexOf` points
  past the occurrence it found, and `take(drop(s, lastIndexOf(s, sub)), size(sub))` is empty;
* `lastIndexOfSubstringWithOffset_emptyDiverges` — `lastIndexOf(s, "", n)` loops forever for
  every offset `n` inside `s`, since `strings.LastIndex(s[:i], "")` is `i` itself.
-/

set_option autoImplicit false

namespace Gowaves.Ride

namespace Natives

open GoLib GoLib.Utf8

/-! ## Arguments -/

def twoStringsArgs (args : List RideType) : Except GoString (GoString × GoString) :=
  match args with
  | [.rideString s1, .rideString s2] => .ok (s1, s2)
  | [.rideString _, a2] => .error (ascii "unexpected type of argument 2 '" ++ a2.instanceOf ++ ascii "'")
  | [a1, _] => .error (ascii "unexpected type of argument 1 '" ++ a1.instanceOf ++ ascii "'")
  | _ => .error (ascii (toString args.length) ++ ascii " is invalid number of arguments, expected 2")

/-- `stringAndIntArgs`; `int(i)` of a `rideInt` is its value. -/
def stringAndIntArgs (args : List RideType) : Except GoString (GoString × Int) :=
  match args with
  | [.rideString s, .rideInt i] => .ok (s, i.toInt)
  | [.rideString _, a2] =>
    .error (ascii "argument 2 is not of type 'Int' but '" ++ a2.instanceOf ++ ascii "'")
  | [a1, _] => .error (ascii "argument 1 is not of type 'String' but '" ++ a1.instanceOf ++ ascii "'")
  | _ => .error (ascii (toString args.length) ++ ascii " is invalid number of arguments, expected 2")

def twoStringsAndIntArgs (args : List RideType) : Except GoString (GoString × GoString × Int) :=
  match args with
  | [.rideString s1, .rideString s2, .rideInt i] => .ok (s1, s2, i.toInt)
  | [.rideString _, .rideString _, a3] =>
    .error (ascii "unexpected type of argument 3 '" ++ a3.instanceOf ++ ascii "'")
  | [.rideString _, a2, _] => .error (ascii "unexpected type of argument 2 '" ++ a2.instanceOf ++ ascii "'")
  | [a1, _, _] => .error (ascii "unexpected type of argument 1 '" ++ a1.instanceOf ++ ascii "'")
  | _ => .error (ascii "invalid number of arguments " ++ ascii (toString args.length) ++
      ascii ", expected 3")

/-! ## Runes -/

/-- `runesIndex`: the rune count of the text before the first occurrence, as `strings.Cut`
finds it, or `-1`. -/
def runesIndex (s sub : GoString) : Int :=
  let (before, _, ok) := Strings.cut s sub
  if !ok then -1 else runeCountInString before

/-- `runesDrop`: the runes after the first `n`.  Its callers pass `0 ≤ n ≤ RuneCount`; past the
count, `make` would panic. -/
def runesDrop (s : GoString) (n : Nat) : GoString := encode ((runes s).drop n)

/-- `runesTake`: the first `n` runes, for `n ≤ RuneCount` as its caller passes. -/
def runesTake (s : GoString) (n : Nat) : GoString := encode ((runes s).take n)

/-- `takeRideString`, the `take` of the environment from library version 5 on. -/
def takeRideString (s : GoString) (n : Int) : GoString :=
  let l := runeCountInString s
  let t := max (min n l) 0
  runesTake s t.toNat

def dropRideString (s : GoString) (n : Int) : GoString :=
  let l := runeCountInString s
  let d := max (min n l) 0
  runesDrop s d.toNat

/-! ## The natives -/

def sizeString : RideFunction := fun args =>
  match stringArg args with
  | .error e => .error (wrapPlain "sizeString" e)
  | .ok s => .ok (.rideInt (Int64.ofInt (runeCountInString s)))

/-- `takeString`, without the limits of version 6, in an environment of version 5 or later. -/
def takeString : RideFunction := fun args =>
  match stringAndIntArgs args with
  | .error e => .error (wrapPlain "takeString" e)
  | .ok (s, n) => .ok (.rideString (takeRideString s n))

/-- `dropString`, without the limits of version 6. -/
def dropString : RideFunction := fun args =>
  match stringAndIntArgs args with
  | .error e => .error (wrapPlain "dropString" e)
  | .ok (s, n) => .ok (.rideString (dropRideString s n))

def indexOfSubstring : RideFunction := fun args =>
  match twoStringsArgs args with
  | .error e => .error (wrapPlain "indexOfSubstring" e)
  | .ok (s1, s2) =>
    let i := runesIndex s1 s2
    if i = -1 then .ok .rideUnit else .ok (.rideInt (Int64.ofInt i))

/-- `indexOfSubstringWithOffset`; the source wraps its argument errors with the name
`lastIndexOfSubstringWithOffset`. -/
def indexOfSubstringWithOffset : RideFunction := fun args =>
  match twoStringsAndIntArgs args with
  | .error e => .error (wrapPlain "lastIndexOfSubstringWithOffset" e)
  | .ok (s1, s2, n) =>
    if n < 0 ∨ runeCountInString s1 < n then .ok .rideUnit
    else
      let i := runesIndex (runesDrop s1 n.toNat) s2
      if i = -1 then .ok .rideUnit else .ok (.rideInt (Int64.ofInt (i + n)))

/-- `lastIndexOfSubstring`: the offset of `strings.LastIndex`, a byte offset. -/
def lastIndexOfSubstring : RideFunction := fun args =>
  match twoStringsArgs args with
  | .error e => .error (wrapPlain "lastIndexOfSubstring" e)
  | .ok (s1, s2) =>
    let i := Strings.lastIndex s1 s2
    if i = -1 then .ok .rideUnit else .ok (.rideInt (Int64.ofInt i))

/-- The loop `for i > n { i = strings.LastIndex(s1[:i], s2) }`, for at most `fuel` turns. -/
def lastIndexLoop (s1 s2 : GoString) (n : Int) : Nat → Int → Outcome EvalError Int
  | 0, i => if n < i then .exhausted else .ok i
  | fuel + 1, i =>
    if n < i then lastIndexLoop s1 s2 n fuel (Strings.lastIndex (s1.take i.toNat) s2) else .ok i

/-- `lastIndexOfSubstringWithOffset`, whose loop runs at most `fuel` turns. -/
def lastIndexOfSubstringWithOffset (fuel : Nat) (args : List RideType) :
    Outcome EvalError RideType :=
  match twoStringsAndIntArgs args with
  | .error e => .error (wrapPlain "lastIndexOfSubstringWithOffset" e)
  | .ok (s1, s2, n) =>
    if n < 0 then .ok .rideUnit
    else do
      let i ← lastIndexLoop s1 s2 n fuel (Strings.lastIndex s1 s2)
      if i = -1 then .ok .rideUnit else .ok (.rideInt (Int64.ofInt i))

/-- Occurrences that overlap the one found are missed: `"aa"` occurs in `"aaa"` at `0`, but the
loop goes from `1` to `strings.LastIndex("a", "aa") = -1`. -/
example : lastIndexOfSubstringWithOffset 2
    [.rideString (ascii "aaa"), .rideString (ascii "aa"), .rideInt 0] = .ok .rideUnit := rfl

/-! ## Searching encoded runes -/

theorem take_encode_take (cs : List Char) (m : Nat) :
    (encode cs).take (encode (cs.take m)).length = encode (cs.take m) := by
  have hsplit : encode cs = encode (cs.take m) ++ encode (cs.drop m) := by
    rw [← encode_append, List.take_append_drop]
  rw [hsplit, List.take_left' rfl]

/-- `runesIndex` of runes is the rune offset of the first occurrence. -/
theorem runesIndex_encode (cs ds : List Char) :
    runesIndex (encode cs) (encode ds) =
      match occursFirst ds cs with
      | some m => (m : Int)
      | none => -1 := by
  unfold runesIndex Strings.cut
  rw [occursFirst_encode]
  cases h : occursFirst ds cs with
  | none => rfl
  | some m =>
    have hm := occursFirst_le_length h
    simp only [Option.map_some, take_encode_take, runeCountInString_encode, List.length_take,
      Bool.not_true, Bool.false_eq_true, ↓reduceIte]
    omega

/-- `strings.LastIndex` of runes is the byte offset of their last occurrence. -/
theorem lastIndex_encode (cs ds : List Char) :
    Strings.lastIndex (encode cs) (encode ds) =
      match occursLast ds cs with
      | some m => ((encode (cs.take m)).length : Int)
      | none => -1 := by
  unfold Strings.lastIndex
  rw [occursLast_encode]
  cases occursLast ds cs <;> rfl

theorem takeRideString_encode (cs : List Char) (n : Int) :
    takeRideString (encode cs) n = encode (cs.take (max (min n cs.length) 0).toNat) := by
  simp only [takeRideString, runesTake, runeCountInString_encode, runes_encode]

theorem dropRideString_encode (cs : List Char) (n : Int) :
    dropRideString (encode cs) n = encode (cs.drop (max (min n cs.length) 0).toNat) := by
  simp only [dropRideString, runesDrop, runeCountInString_encode, runes_encode]

theorem indexOfSubstring_encode (cs ds : List Char) :
    indexOfSubstring [.rideString (encode cs), .rideString (encode ds)] =
      match occursFirst ds cs with
      | some m => .ok (.rideInt (Int64.ofInt m))
      | none => .ok .rideUnit := by
  simp only [indexOfSubstring, twoStringsArgs, runesIndex_encode]
  cases occursFirst ds cs with
  | none => rfl
  | some m => simp only [show ¬ ((m : Int) = -1) by omega, ↓reduceIte]

theorem lastIndexOfSubstring_encode (cs ds : List Char) :
    lastIndexOfSubstring [.rideString (encode cs), .rideString (encode ds)] =
      match occursLast ds cs with
      | some m => .ok (.rideInt (Int64.ofInt (encode (cs.take m)).length))
      | none => .ok .rideUnit := by
  simp only [lastIndexOfSubstring, twoStringsArgs, lastIndex_encode]
  cases occursLast ds cs with
  | none => rfl
  | some m => simp only [show ¬ (((encode (cs.take m)).length : Int) = -1) by omega, ↓reduceIte]

theorem toInt_ofInt_nat {k : Nat} (h : k < 2 ^ 63) : (Int64.ofInt k).toInt = k :=
  Int64.toInt_ofInt_of_le (by omega) (by omega)

/-- `take(drop(s, indexOf(s, sub)), size(sub)) == sub` for every occurring `sub`. -/
theorem indexOfSubstring_takeDrop {cs ds : List Char} (hocc : ds <:+: cs) (hlen : cs.length < 2 ^ 63) :
    ∃ i : Int64, indexOfSubstring [.rideString (encode cs), .rideString (encode ds)] = .ok (.rideInt i) ∧
      (do
        let d ← dropString [.rideString (encode cs), .rideInt i]
        let n ← sizeString [.rideString (encode ds)]
        takeString [d, n]) = .ok (.rideString (encode ds)) := by
  obtain ⟨m, hm⟩ := Option.isSome_iff_exists.mp (occursFirst_complete hocc)
  have hml := occursFirst_le_length hm
  have hpre := occursFirst_sound hm
  have hds : ds.length ≤ (cs.drop m).length := hpre.length_le
  refine ⟨Int64.ofInt m, by rw [indexOfSubstring_encode, hm], ?_⟩
  have hd : dropString [.rideString (encode cs), .rideInt (Int64.ofInt m)] =
      .ok (.rideString (encode (cs.drop m))) := by
    simp only [dropString, stringAndIntArgs, toInt_ofInt_nat (show m < 2 ^ 63 by omega),
      dropRideString_encode]
    congr 4
    omega
  have hs : sizeString [.rideString (encode ds)] = .ok (.rideInt (Int64.ofInt ds.length)) := by
    simp only [sizeString, stringArg, runeCountInString_encode]
  rw [hd, GoLib.Reader.except_ok_bind, hs, GoLib.Reader.except_ok_bind]
  simp only [takeString, stringAndIntArgs,
    toInt_ofInt_nat (show ds.length < 2 ^ 63 by simp at hds; omega), takeRideString_encode]
  rw [List.prefix_iff_eq_take.mp hpre]
  simp at hds ⊢
  congr 3
  omega

theorem indexOfSubstring_takeDrop_yo :
    ['a'] <:+: ['ё', 'a'] ∧ ['ё', 'a'].length < 2 ^ 63 ∧
      ∃ i : Int64, indexOfSubstring [.rideString (encode ['ё', 'a']), .rideString (encode ['a'])] =
          .ok (.rideInt i) ∧
        (do
          let d ← dropString [.rideString (encode ['ё', 'a']), .rideInt i]
          let n ← sizeString [.rideString (encode ['a'])]
          takeString [d, n]) = .ok (.rideString (encode ['a'])) :=
  ⟨by decide, by decide, indexOfSubstring_takeDrop (by decide) (by decide)⟩

theorem occurs_single_after {c a : Char} (hca : c ≠ a) :
    occursFirst [a] [c, a] = some 1 ∧ occursLast [a] [c, a] = some 1 := by
  constructor
  · simp [occursFirst, Ne.symm hca]
  · simp [occursLast]

/-- After a rune of two bytes or more, `lastIndexOf` points past the occurrence it finds: the
rune offset of `a` in `c a` is `1`, as `indexOf` says, but `lastIndexOf` answers with the
width of `c`, and `take(drop(s, lastIndexOf(s, sub)), size(sub))` is empty. -/
theorem lastIndexOfSubstring_multibyte {c a : Char} (hc : 2 ≤ c.utf8Size) (ha : a.utf8Size = 1) :
    indexOfSubstring [.rideString (encode [c, a]), .rideString (encode [a])] =
        .ok (.rideInt (Int64.ofInt 1)) ∧
      lastIndexOfSubstring [.rideString (encode [c, a]), .rideString (encode [a])] =
        .ok (.rideInt (Int64.ofInt c.utf8Size)) ∧
      (do
        let d ← dropString [.rideString (encode [c, a]), .rideInt (Int64.ofInt c.utf8Size)]
        let n ← sizeString [.rideString (encode [a])]
        takeString [d, n]) = .ok (.rideString []) := by
  have hca : c ≠ a := fun h => by rw [h, ha] at hc; omega
  obtain ⟨hf, hl⟩ := occurs_single_after hca
  have h4 := c.utf8Size_le_four
  refine ⟨by rw [indexOfSubstring_encode, hf]; rfl, ?_, ?_⟩
  · rw [lastIndexOfSubstring_encode, hl]
    simp
  · have hd : dropString [.rideString (encode [c, a]), .rideInt (Int64.ofInt c.utf8Size)] =
        .ok (.rideString []) := by
      simp only [dropString, stringAndIntArgs, toInt_ofInt_nat (show c.utf8Size < 2 ^ 63 by omega),
        dropRideString_encode]
      rw [List.drop_of_length_le (by simp; omega)]
      rfl
    rw [hd, GoLib.Reader.except_ok_bind]
    simp only [sizeString, stringArg, runeCountInString_encode, GoLib.Reader.except_ok_bind,
      takeString, stringAndIntArgs]
    rw [show ([] : GoString) = encode [] from rfl, takeRideString_encode]
    rfl

theorem lastIndexOfSubstring_multibyte_yo :
    2 ≤ 'ё'.utf8Size ∧ 'a'.utf8Size = 1 ∧
      lastIndexOfSubstring [.rideString (encode ['ё', 'a']), .rideString (encode ['a'])] =
        .ok (.rideInt (Int64.ofInt 'ё'.utf8Size)) :=
  ⟨by decide, by decide, (lastIndexOfSubstring_multibyte (by decide) (by decide)).2.1⟩

theorem lastIndexLoop_empty (s : GoString) {n : Int} (hn : n < s.length) :
    ∀ fuel, lastIndexLoop s [] n fuel s.length = .exhausted
  | 0 => by simp [lastIndexLoop, hn]
  | fuel + 1 => by
    have hlast : Strings.lastIndex (s.take (s.length : Int).toNat) [] = s.length := by
      simp [Strings.lastIndex]
    rw [lastIndexLoop, if_pos hn, hlast]
    exact lastIndexLoop_empty s hn fuel

/-- `lastIndexOf(s, "", n)` does not return for any offset `n` inside `s`, whatever the fuel. -/
theorem lastIndexOfSubstringWithOffset_emptyDiverges (s : GoString) {n : Int64} (h0 : 0 ≤ n.toInt)
    (hn : n.toInt < s.length) (fuel : Nat) :
    lastIndexOfSubstringWithOffset fuel [.rideString s, .rideString [], .rideInt n] = .exhausted := by
  have hlast : Strings.lastIndex s [] = s.length := by simp [Strings.lastIndex]
  simp only [lastIndexOfSubstringWithOffset, twoStringsAndIntArgs, show ¬ n.toInt < 0 by omega,
    ↓reduceIte, hlast, lastIndexLoop_empty s hn fuel]
  rfl

theorem lastIndexOfSubstringWithOffset_emptyDiverges_ab :
    lastIndexOfSubstringWithOffset 100 [.rideString (ascii "ab"), .rideString [], .rideInt 0] =
      .exhausted :=
  lastIndexOfSubstringWithOffset_emptyDiverges (ascii "ab") (by decide) (by decide) 100

end Natives

end Gowaves.Ride
