import Mathlib.Tactic.Ring
import Mathlib.Data.List.Induction
import Mathlib.Data.Nat.Digits.Lemmas

/-!
# Big-endian byte strings

`encoding/binary.BigEndian` reads and writes fixed-width unsigned integers most significant
byte first.  We state both directions over natural numbers:

* `ofBytes bs` — the number a byte string denotes (`Uint16`, `Uint32`, `Uint64` read their
  first 2, 4 or 8 bytes this way);
* `toBytes w n` — the `w` low-order bytes of `n` (`PutUint16`, `PutUint32`, `PutUint64`).

Results: `ofBytes_toBytes` (reading back what was written gives `n mod 256^w`),
`toBytes_ofBytes` (a byte string is the encoding of its value), `ofBytes_append` and
`ofBytes_lt`, which the decoders use to bound what they read.

`math/big` writes the magnitude of a `big.Int` in the same order but with no fixed width:
`bytes n` (`Int.Bytes`) is the shortest big-endian string of `n`, the reversed base-256 digits
of `n`, and `SetBytes` reads a string back as `ofBytes` does.  `ofBytes_bytes` reads it back,
and `bytes_ne_zero_cons` says that it has no leading zero byte.
-/

set_option autoImplicit false

namespace GoLib.BigEndian

/-- The number denoted by a big-endian byte string. -/
def ofBytes (bs : List UInt8) : Nat := bs.foldl (fun acc b => acc * 256 + b.toNat) 0

/-- The `w` low-order bytes of `n`, most significant first. -/
def toBytes : Nat → Nat → List UInt8
  | 0, _ => []
  | w + 1, n => toBytes w (n / 256) ++ [(n % 256).toUInt8]

theorem foldl_acc (bs : List UInt8) (a : Nat) :
    bs.foldl (fun acc b => acc * 256 + b.toNat) a = a * 256 ^ bs.length + ofBytes bs := by
  induction bs generalizing a with
  | nil => simp [ofBytes]
  | cons b bs ih =>
    simp only [List.foldl_cons, ofBytes, List.length_cons]
    rw [ih, ih (0 * 256 + b.toNat)]
    ring

@[simp] theorem ofBytes_nil : ofBytes [] = 0 := rfl

theorem ofBytes_cons (b : UInt8) (bs : List UInt8) :
    ofBytes (b :: bs) = b.toNat * 256 ^ bs.length + ofBytes bs := by
  simp only [ofBytes, List.foldl_cons]
  rw [foldl_acc]
  simp [ofBytes]

theorem ofBytes_append (as bs : List UInt8) :
    ofBytes (as ++ bs) = ofBytes as * 256 ^ bs.length + ofBytes bs := by
  simp only [ofBytes, List.foldl_append]
  exact foldl_acc bs _

/-- A byte string of length `k` denotes a number below `256^k`. -/
theorem ofBytes_lt (bs : List UInt8) : ofBytes bs < 256 ^ bs.length := by
  induction bs with
  | nil => simp
  | cons b bs ih =>
    rw [ofBytes_cons, List.length_cons, Nat.pow_succ]
    have hb : b.toNat < 256 := b.toNat_lt
    have hb' : b.toNat ≤ 255 := by omega
    calc b.toNat * 256 ^ bs.length + ofBytes bs
        < b.toNat * 256 ^ bs.length + 256 ^ bs.length := by omega
      _ ≤ 255 * 256 ^ bs.length + 256 ^ bs.length := by
          have := Nat.mul_le_mul_right (256 ^ bs.length) hb'
          omega
      _ = 256 ^ bs.length * 256 := by ring

@[simp] theorem length_toBytes (w n : Nat) : (toBytes w n).length = w := by
  induction w generalizing n with
  | zero => rfl
  | succ w ih => simp [toBytes, ih]

/-- Reading back a written number gives it modulo `256^w`. -/
theorem ofBytes_toBytes (w n : Nat) : ofBytes (toBytes w n) = n % 256 ^ w := by
  induction w generalizing n with
  | zero => simp [toBytes, Nat.mod_one]
  | succ w ih =>
    have hm : (n % 256).toUInt8.toNat = n % 256 := by
      simp [Nat.mod_eq_of_lt (Nat.mod_lt n (by norm_num : 0 < 256))]
    simp only [toBytes, ofBytes_append, ih, List.length_singleton, pow_one]
    simp only [ofBytes, List.foldl_cons, List.foldl_nil, Nat.zero_mul, Nat.zero_add, hm]
    rw [Nat.pow_succ, Nat.mul_comm (256 ^ w) 256, Nat.mod_mul]
    ring

theorem ofBytes_toBytes_of_lt {w n : Nat} (h : n < 256 ^ w) : ofBytes (toBytes w n) = n := by
  rw [ofBytes_toBytes, Nat.mod_eq_of_lt h]

/-- A byte string is the encoding of its own value. -/
theorem toBytes_ofBytes (bs : List UInt8) : toBytes bs.length (ofBytes bs) = bs := by
  induction bs using List.reverseRecOn with
  | nil => rfl
  | append_singleton bs b ih =>
    have hb : b.toNat < 256 := b.toNat_lt
    have hdiv : (ofBytes bs * 256 + b.toNat) / 256 = ofBytes bs := by omega
    have hmod : (ofBytes bs * 256 + b.toNat) % 256 = b.toNat := by omega
    simp only [List.length_append, List.length_singleton, ofBytes_append, pow_one, toBytes]
    simp only [ofBytes, List.foldl_cons, List.foldl_nil, Nat.zero_mul, Nat.zero_add]
    simp only [ofBytes] at hdiv hmod ih
    rw [hdiv, hmod, ih]
    simp

/-! ## `math/big`: `Bytes` and `SetBytes` -/

/-- `big.Int.Bytes` of a magnitude: its base-256 digits, most significant first, with no
leading zero byte (the empty slice for zero). -/
def bytes (n : Nat) : List UInt8 := ((Nat.digits 256 n).map Nat.toUInt8).reverse

theorem ofBytes_reverse (l : List UInt8) :
    ofBytes l.reverse = Nat.ofDigits 256 (l.map UInt8.toNat) := by
  induction l with
  | nil => rfl
  | cons d ds ih =>
    rw [List.reverse_cons, ofBytes_append, ih, List.map_cons, Nat.ofDigits_cons]
    simp only [ofBytes, List.foldl_cons, List.foldl_nil, List.length_singleton]
    ring

theorem map_toNat_digits (n : Nat) :
    ((Nat.digits 256 n).map Nat.toUInt8).map UInt8.toNat = Nat.digits 256 n := by
  rw [List.map_map]
  conv_rhs => rw [← List.map_id (Nat.digits 256 n)]
  apply List.map_congr_left
  intro d hd
  have hlt : d < 256 := Nat.digits_lt_base (by norm_num) hd
  simp [Nat.mod_eq_of_lt hlt]

@[simp] theorem ofBytes_bytes (n : Nat) : ofBytes (bytes n) = n := by
  rw [bytes, ofBytes_reverse, map_toNat_digits, Nat.ofDigits_digits]

@[simp] theorem bytes_eq_nil_iff {n : Nat} : bytes n = [] ↔ n = 0 := by
  simp [bytes, Nat.digits_eq_nil_iff_eq_zero]

/-- `Bytes` has no leading zero byte: its first byte is the last base-256 digit. -/
theorem bytes_ne_zero_cons (n : Nat) (rest : List UInt8) : bytes n ≠ 0 :: rest := by
  intro h
  have hn : n ≠ 0 := by
    rintro rfl
    simp [bytes] at h
  have hne : Nat.digits 256 n ≠ [] := mt Nat.digits_eq_nil_iff_eq_zero.mp hn
  have hlast := Nat.getLast_digit_ne_zero 256 hn
  have hlt : (Nat.digits 256 n).getLast hne < 256 :=
    Nat.digits_lt_base (by norm_num) (List.getLast_mem hne)
  have hhead := congrArg List.head? h
  rw [bytes, List.head?_reverse, List.getLast?_map, List.getLast?_eq_some_getLast hne] at hhead
  simp only [Option.map_some, List.head?_cons, Option.some.injEq] at hhead
  have h0 := congrArg UInt8.toNat hhead
  simp [Nat.mod_eq_of_lt hlt] at h0
  exact hlast h0

end GoLib.BigEndian
