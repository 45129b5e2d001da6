import Mathlib.Logic.Basic
import Mathlib.Algebra.Group.Nat.Defs

/-!
# Decimal integers: `strconv.ParseUint` and `strconv.Itoa`

`strconv.ParseUint(s, 10, bitSize)` reads an unsigned decimal.  Its loop stops at the first
byte that is not a digit (a syntax error) or at the first prefix whose value no longer fits in
`bitSize` bits (a range error), so which of the two errors a string gets depends on where its
first bad byte stands.  The error text quotes the whole input.  `strconv.Itoa` writes an
integer in decimal, with a minus sign when it is negative.

Leading zeros are accepted (`"007"` is `7`), so `Itoa` is only a right inverse:
`parseUint_itoa` — `ParseUint` reads back every value `Itoa` writes that fits the bit size.
-/

set_option autoImplicit false

namespace GoLib.Strconv

/-- The bytes of an ASCII text, one byte per character. -/
def bytesOfChars (cs : List Char) : List UInt8 := cs.map fun c => c.toNat.toUInt8

/-- `strconv.Itoa`. -/
def itoa (i : Int) : List UInt8 := bytesOfChars (toString i).toList

/-- Why `ParseUint` failed: `strconv.ErrSyntax` or `strconv.ErrRange`. -/
inductive NumError where
  | invalid
  | outOfRange
  deriving DecidableEq, Repr

/-- The text of `ErrSyntax` and `ErrRange`. -/
def NumError.text : NumError → String
  | .invalid => "invalid syntax"
  | .outOfRange => "value out of range"

/-- `strconv.Quote` of a text, for the ASCII texts the model meets. -/
def quote (s : List UInt8) : String :=
  "\"" ++ String.ofList (s.map fun b => Char.ofNat b.toNat) ++ "\""

/-- `(*strconv.NumError).Error()` of `ParseUint`. -/
def numError (s : List UInt8) (e : NumError) : String :=
  "strconv.ParseUint: parsing " ++ quote s ++ ": " ++ e.text

/-- `cutoff` of `ParseUint` in base 10: the least `n` whose tenfold overflows 64 bits. -/
def cutoff : Nat := (2 ^ 64 - 1) / 10 + 1

/-- The digit loop of `ParseUint` in base 10, `n` the value of the bytes before `s`.  A letter
is a digit of value at least ten, which base 10 refuses like any other byte. -/
def parseUintLoop (maxVal : Nat) (n : Nat) : List UInt8 → Except NumError Nat
  | [] => .ok n
  | c :: s =>
    if c.toNat < 48 ∨ 57 < c.toNat then .error .invalid
    else if cutoff ≤ n then .error .outOfRange
    -- `n1 < n` (a wrap of `n*10 + d`) implies `n1 > maxVal` for `maxVal < 2^64`
    else if maxVal < 10 * n + (c.toNat - 48) then .error .outOfRange
    else parseUintLoop maxVal (10 * n + (c.toNat - 48)) s

/-- `strconv.ParseUint(s, 10, bitSize)`, for `0 < bitSize ≤ 64`. -/
def parseUint (s : List UInt8) (bitSize : Nat) : Except String Nat :=
  if s = [] then .error (numError s .invalid)
  else
    match parseUintLoop (2 ^ bitSize - 1) 0 s with
    | .ok n => .ok n
    | .error e => .error (numError s e)

theorem toList_toString_ofNat (k : Nat) : (toString (k : Int)).toList = Nat.toDigits 10 k := by
  show (Int.repr (Int.ofNat k)).toList = _
  simp [Int.repr]

theorem itoa_ofNat (k : Nat) : itoa k = bytesOfChars (Nat.toDigits 10 k) := by
  rw [itoa, toList_toString_ofNat]

theorem parseUintLoop_digits {maxVal : Nat} (hmax : maxVal < 2 ^ 64) :
    ∀ (cs : List Char) (n : Nat), (∀ c ∈ cs, c.isDigit = true) →
      Nat.ofDigitChars 10 cs n ≤ maxVal →
      parseUintLoop maxVal n (bytesOfChars cs) = .ok (Nat.ofDigitChars 10 cs n)
  | [], n, _, _ => by simp [bytesOfChars, parseUintLoop]
  | c :: cs, n, hd, hle => by
    have hc : 48 ≤ c.toNat ∧ c.toNat ≤ 57 := by
      have := hd c (by simp)
      simp only [Char.isDigit, Bool.and_eq_true, decide_eq_true_eq] at this
      exact ⟨this.1, this.2⟩
    have hb : c.toNat.toUInt8.toNat = c.toNat := by simp; omega
    have hzero : ('0' : Char).toNat = 48 := rfl
    rw [Nat.ofDigitChars_cons, hzero] at hle ⊢
    have hstep : 10 * n + (c.toNat - 48) ≤ Nat.ofDigitChars 10 cs (10 * n + (c.toNat - 48)) := by
      rw [Nat.ofDigitChars_eq_ofDigitChars_zero]
      have : 1 ≤ 10 ^ cs.length := Nat.one_le_pow _ _ (by omega)
      have := Nat.le_mul_of_pos_left (10 * n + (c.toNat - 48)) this
      omega
    have hcut : ¬ cutoff ≤ n := by
      unfold cutoff
      omega
    have hrest := parseUintLoop_digits hmax cs (10 * n + (c.toNat - 48))
      (fun c' hc' => hd c' (by simp [hc'])) hle
    simp only [bytesOfChars, List.map_cons] at hrest ⊢
    rw [parseUintLoop, hb, if_neg (by omega), if_neg hcut, if_neg (by omega)]
    exact hrest

/-- **`ParseUint` inverts `Itoa`** on every value that fits the bit size. -/
theorem parseUint_itoa {bitSize k : Nat} (hb : bitSize ≤ 64) (hk : k < 2 ^ bitSize) :
    parseUint (itoa k) bitSize = .ok k := by
  have hmax : 2 ^ bitSize - 1 < 2 ^ 64 := by
    have := Nat.pow_le_pow_right (by omega : 0 < 2) hb
    omega
  have hdigits : ∀ c ∈ Nat.toDigits 10 k, c.isDigit = true :=
    fun c hc => Nat.isDigit_of_mem_toDigits (by omega) (by omega) hc
  have hloop := parseUintLoop_digits hmax (Nat.toDigits 10 k) 0 hdigits
    (by rw [Nat.ofDigitChars_ten_toDigits]; omega)
  have hne : bytesOfChars (Nat.toDigits 10 k) ≠ [] := by simp [bytesOfChars]
  rw [Nat.ofDigitChars_ten_toDigits] at hloop
  rw [parseUint, itoa_ofNat, if_neg hne, hloop]

example : parseUint (itoa 1020) 16 = .ok 1020 := by rfl
example : parseUint [48, 55] 16 = .ok 7 := by rfl

end GoLib.Strconv
