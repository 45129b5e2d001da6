import Mathlib.Data.Nat.Bitwise
import Gowaves.Lib.TwosComplement

/-!
# Two's-complement bytes of a `big.Int` (`pkg/util/common/util.go`)

`Decode2CBigInt` reads a byte string as a two's-complement integer: when the top bit of the
first byte is set it inverts every byte, reads the magnitude, adds one and negates; otherwise it
reads the magnitude.  `Encode2CBigInt` writes an integer by its sign: a positive one as its
magnitude (`big.Int.Bytes`), with `0x00` in front when the top bit of the first byte is set;
zero as the single byte `0x00`; a negative one as the magnitude of `-n - 1` with every byte
xored with `0xFF`, with `0xFF` in front when there is no byte or the top bit of the first one is
clear.  The `default` case of the switch, a panic, is unreachable and is left out.

* `decode2CBigInt_eq_value` — decoding reads the two's-complement value of the string;
* `value_encode2CBigInt` and `canonical_encode2CBigInt` — encoding writes a canonical string of
  the integer: with no redundant leading `0x00` or `0xFF`, and zero as one byte.

The properties of canonical strings (the shortest, and the only one of their value) are those of
`Gowaves.Lib.TwosComplement`.
-/

set_option autoImplicit false

namespace Gowaves.Util

open GoLib.BigEndian TwosComplement

/-- `padBytes`: `p` in front of `bytes`. -/
def padBytes (p : UInt8) (bytes : List UInt8) : List UInt8 := p :: bytes

def decode2CBigInt (bytes : List UInt8) : Int :=
  if bytes.length > 0 ∧ bytes.headD 0 &&& 0x80 = 0x80 then
    -- a negative number: invert every byte (`notBytes`), read, add one, negate
    -((ofBytes (bytes.map (~~~ ·)) : Int) + 1)
  else ofBytes bytes

/-- `Encode2CBigInt`; `n.Sign()` is `Int.sign`. -/
def encode2CBigInt (n : Int) : List UInt8 :=
  let sign := n.sign
  if sign > 0 then
    let bts := bytes n.toNat
    if bts.length > 0 ∧ bts.headD 0 &&& 0x80 ≠ 0 then padBytes 0x00 bts else bts
  else if sign = 0 then [0x00]
  else
    -- subtract one and invert; pad with `0xFF` to keep the number negative
    let nMinus1 := -n - 1
    let bts := (bytes nMinus1.toNat).map (· ^^^ 0xff)
    if bts.length = 0 ∨ bts.headD 0 &&& 0x80 = 0 then padBytes 0xff bts else bts

/-! ## The top-bit tests -/

theorem toNat_and_0x80 (b : UInt8) : (b &&& 0x80).toNat = if b.toNat < 128 then 0 else 128 := by
  rw [UInt8.toNat_and, show (0x80 : UInt8).toNat = 2 ^ 7 from rfl, Nat.and_two_pow,
    Nat.testBit_eq_decide_div_mod_eq]
  have := b.toNat_lt
  split
  · have : b.toNat / 128 % 2 = 0 := by omega
    simp [this]
  · have : b.toNat / 128 % 2 = 1 := by omega
    simp [this]

theorem and_0x80_eq_0x80_iff (b : UInt8) : b &&& 0x80 = 0x80 ↔ 128 ≤ b.toNat := by
  rw [← UInt8.toNat_inj, toNat_and_0x80]
  split <;> simp <;> omega

theorem and_0x80_eq_zero_iff (b : UInt8) : b &&& 0x80 = 0 ↔ b.toNat < 128 := by
  rw [← UInt8.toNat_inj, toNat_and_0x80]
  split <;> simp <;> omega

theorem xor_0xff (b : UInt8) : b ^^^ 0xff = ~~~b := by
  rw [← UInt8.toBitVec_inj, UInt8.toBitVec_xor, UInt8.toBitVec_not]
  exact BitVec.xor_allOnes

theorem bytes_cons_of_pos {m : Nat} (hm : 0 < m) :
    ∃ c rest, bytes m = c :: rest ∧ c.toNat ≠ 0 := by
  cases h : bytes m with
  | nil => exact absurd (bytes_eq_nil_iff.mp h) (by omega)
  | cons c rest =>
    refine ⟨c, rest, rfl, fun h0 => bytes_ne_zero_cons m rest ?_⟩
    rw [h, UInt8.toNat_inj.mp (h0.trans UInt8.toNat_zero.symm)]

/-! ## Decoding and encoding -/

/-- **Decoding reads the two's-complement value.** -/
theorem decode2CBigInt_eq_value (bytes : List UInt8) : decode2CBigInt bytes = value bytes := by
  match bytes with
  | [] => rfl
  | b :: bs =>
    have hsum := congrArg (Nat.cast (R := Int)) (ofBytes_map_not (b :: bs))
    push_cast [List.length_cons] at hsum
    unfold decode2CBigInt
    simp only [List.length_cons, List.headD_cons, and_0x80_eq_0x80_iff]
    rw [value]
    by_cases hb : b.toNat < 128
    · rw [if_neg (by omega), if_pos hb]
    · rw [if_pos ⟨by omega, by omega⟩, if_neg hb]
      omega

theorem encode2CBigInt_spec_pos {n : Int} (hn : 0 < n) :
    value (encode2CBigInt n) = n ∧ Canonical (encode2CBigInt n) := by
  obtain ⟨c, rest, hbts, hc0⟩ := bytes_cons_of_pos (m := n.toNat) (by omega)
  have hval : (ofBytes (c :: rest) : Int) = n := by
    rw [← hbts, ofBytes_bytes]
    omega
  unfold encode2CBigInt
  simp only [Int.sign_eq_one_of_pos hn, hbts, List.length_cons, List.headD_cons, ne_eq,
    and_0x80_eq_zero_iff]
  by_cases hc : c.toNat < 128
  · rw [if_pos (by decide), if_neg (by omega)]
    exact ⟨by rw [value_cons_of_lt rest hc, hval], canonical_cons hc0 (by omega) rest⟩
  · rw [if_pos (by decide), if_pos ⟨by omega, hc⟩, padBytes]
    exact ⟨by rw [value_zero_cons, hval], canonical_zero_cons (by omega) rest⟩

theorem encode2CBigInt_spec_neg {n : Int} (hn : n < 0) :
    value (encode2CBigInt n) = n ∧ Canonical (encode2CBigInt n) := by
  have hinv : ∀ l : List UInt8, l.map (· ^^^ 0xff) = l.map (~~~ ·) :=
    fun l => List.map_congr_left (fun b _ => xor_0xff b)
  unfold encode2CBigInt
  simp only [Int.sign_eq_neg_one_of_neg hn, hinv]
  rw [if_neg (by decide), if_neg (by decide)]
  by_cases hm : (-n - 1).toNat = 0
  · have hn1 : n = -1 := by omega
    subst hn1
    rw [hm, show bytes 0 = [] from rfl]
    exact ⟨rfl, trivial⟩
  · obtain ⟨c, rest, hbts, hc0⟩ := bytes_cons_of_pos (m := (-n - 1).toNat) (by omega)
    have hval : (ofBytes (c :: rest) : Int) = -n - 1 := by
      rw [← hbts, ofBytes_bytes]
      omega
    have hc := c.toNat_lt
    rw [hbts]
    simp only [List.map_cons, List.length_cons, List.headD_cons, and_0x80_eq_zero_iff,
      toNat_not]
    by_cases hc128 : c.toNat < 128
    · rw [if_neg (by omega), ← List.map_cons, value_map_not (List.cons_ne_nil _ _),
        value_cons_of_lt rest hc128, hval, canonical_map_not]
      exact ⟨by omega, canonical_cons hc0 (by omega) rest⟩
    · rw [if_pos (by omega), padBytes, show (0xff : UInt8) = ~~~0 from rfl, ← List.map_cons,
        ← List.map_cons, value_map_not (List.cons_ne_nil _ _), value_zero_cons, hval,
        canonical_map_not]
      exact ⟨by omega, canonical_zero_cons (by omega) rest⟩

theorem encode2CBigInt_spec (n : Int) :
    value (encode2CBigInt n) = n ∧ Canonical (encode2CBigInt n) := by
  rcases lt_trichotomy n 0 with hn | rfl | hn
  · exact encode2CBigInt_spec_neg hn
  · exact ⟨rfl, trivial⟩
  · exact encode2CBigInt_spec_pos hn

@[simp] theorem value_encode2CBigInt (n : Int) : value (encode2CBigInt n) = n :=
  (encode2CBigInt_spec n).1

theorem canonical_encode2CBigInt (n : Int) : Canonical (encode2CBigInt n) :=
  (encode2CBigInt_spec n).2

/-- Around the flips of the top bit: `-129` needs a `0xFF`, `128` a `0x00`, `-128` neither. -/
example : encode2CBigInt (-129) = [0xFF, 0x7F] ∧ encode2CBigInt 128 = [0x00, 0x80] ∧
    encode2CBigInt (-128) = [0x80] := by
  refine ⟨?_, ?_, ?_⟩ <;> simp [encode2CBigInt, bytes, padBytes] <;> decide

end Gowaves.Util
