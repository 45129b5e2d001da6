import Gowaves.Util.BigIntCodec
import Gowaves.Ride.Numeric

/-!
# `BigInt` to bytes and back (`pkg/ride/functions_bigint.go`)

`bigIntToBytes` writes a `BigInt` with `common.Encode2CBigInt`; `bytesToBigInt` refuses more
than 64 bytes, reads the rest with `common.Decode2CBigInt` and refuses a result outside
`[MinBigInt, MaxBigInt]`.  As in `Gowaves.Ride.Numeric`, a `BigInt` argument is taken as its
integer and a byte vector as its bytes, the type checks of their `rideType`s being left to the
caller.

* `encode2CBigInt_roundTrip` — decoding the encoding of any integer returns it; the encoding
  is canonical and no longer than any non-empty string of the same value; encoding the value of
  a non-empty string gives the string without its redundant sign bytes (`TwosComplement.trim`);
  and `bytesToBigInt (bigIntToBytes x) = x` for every `BigInt` of RIDE, since a canonical string
  of a value in `[MinBigInt, MaxBigInt]` has at most 64 bytes;
* `bytesToBigInt_of_length_le` — the range check of `bytesToBigInt` never fails: 64 bytes hold
  no value outside `[MinBigInt, MaxBigInt]`;
* `encode2CBigInt_decode2CBigInt_empty` — the empty string decodes to zero, which is written as
  the byte `0x00`: no removal of bytes gives it back.
-/

set_option autoImplicit false

namespace Gowaves.Ride

open Gowaves.Util TwosComplement

namespace Numeric

/-- `bigIntToBytes` on its `BigInt` argument (copied, then encoded). -/
def bigIntToBytes (v : Int) : List UInt8 := encode2CBigInt v

/-- `bytesToBigInt` on its byte-vector argument. -/
def bytesToBigInt (bts : List UInt8) : Except GoString Int :=
  let l := bts.length
  -- no more than 64 bytes: the largest `BigInt` has 512 bits
  if l > 64 then
    .error (ascii "bytesToBigInt: bytes array is too long (" ++ ascii (toString l) ++
      ascii ") for a BigInt")
  else
    let r := decode2CBigInt bts
    if r < Math.minBigInt ∨ r > Math.maxBigInt then
      .error (ascii "bytesToBigInt: " ++ ascii (toString r) ++ ascii " result is out of range")
    else .ok r

theorem bigInt_range :
    Math.minBigInt = -(128 * 256 ^ 63) ∧ Math.maxBigInt = 128 * 256 ^ 63 - 1 := by
  have h : (2 : Int) ^ 511 = 128 * 256 ^ 63 := by
    rw [show (511 : Nat) = 7 + 8 * 63 from rfl, pow_add, pow_mul]
    norm_num
  have hmax : Math.maxBigInt = 128 * 256 ^ 63 - 1 := by rw [Math.maxBigInt, h]
  refine ⟨?_, hmax⟩
  rw [Math.minBigInt, hmax]
  omega

theorem length_bigIntToBytes_le {x : Int} (h1 : Math.minBigInt ≤ x) (h2 : x ≤ Math.maxBigInt) :
    (bigIntToBytes x).length ≤ 64 := by
  obtain ⟨hmin, hmax⟩ := bigInt_range
  unfold bigIntToBytes
  exact length_le_of_mem_range (k := 63) (canonical_encode2CBigInt x)
    ⟨by rw [value_encode2CBigInt]; omega, by rw [value_encode2CBigInt]; omega⟩

/-- **Two's-complement `BigInt` bytes round-trip**: decoding an encoding returns the integer;
the encoding is canonical and the shortest non-empty string of its value; re-encoding a
non-empty string drops its redundant sign bytes; and `bytesToBigInt` reads back what
`bigIntToBytes` writes, for every `BigInt` of RIDE. -/
theorem encode2CBigInt_roundTrip :
    (∀ n : Int, decode2CBigInt (encode2CBigInt n) = n) ∧
    (∀ n : Int, Canonical (encode2CBigInt n) ∧
      ∀ bs : List UInt8, bs ≠ [] → decode2CBigInt bs = n →
        (encode2CBigInt n).length ≤ bs.length) ∧
    (∀ bs : List UInt8, bs ≠ [] → encode2CBigInt (decode2CBigInt bs) = trim bs) ∧
    (∀ x : Int, Math.minBigInt ≤ x → x ≤ Math.maxBigInt →
      bytesToBigInt (bigIntToBytes x) = .ok x) := by
  have hdec : ∀ n, decode2CBigInt (encode2CBigInt n) = n := fun n => by
    rw [decode2CBigInt_eq_value, value_encode2CBigInt]
  refine ⟨hdec, fun n => ⟨canonical_encode2CBigInt n, fun bs hbs hbn => ?_⟩,
    fun bs hbs => ?_, fun x h1 h2 => ?_⟩
  · apply length_le_of_canonical (canonical_encode2CBigInt n) hbs
    rw [value_encode2CBigInt, ← hbn, decode2CBigInt_eq_value]
  · apply canonical_unique (canonical_encode2CBigInt _) (canonical_trim hbs)
    rw [value_encode2CBigInt, value_trim, decode2CBigInt_eq_value]
  · have hlen := length_bigIntToBytes_le h1 h2
    unfold bytesToBigInt bigIntToBytes at *
    rw [if_neg (by omega), hdec, if_neg (by omega)]

theorem encode2CBigInt_roundTrip_minus129 :
    ([0xFF, 0xFF, 0x7F] : List UInt8) ≠ [] ∧
      encode2CBigInt (decode2CBigInt [0xFF, 0xFF, 0x7F]) = trim [0xFF, 0xFF, 0x7F] ∧
    Math.minBigInt ≤ -129 ∧ -129 ≤ Math.maxBigInt ∧
      bytesToBigInt (bigIntToBytes (-129)) = .ok (-129) :=
  have hmin : Math.minBigInt ≤ -129 := by rw [bigInt_range.1]; norm_num
  have hmax : -129 ≤ Math.maxBigInt := by rw [bigInt_range.2]; norm_num
  ⟨by decide, encode2CBigInt_roundTrip.2.2.1 _ (by decide), hmin, hmax,
    encode2CBigInt_roundTrip.2.2.2 _ hmin hmax⟩

/-- **The range check of `bytesToBigInt` never fails**: at most 64 bytes always decode into
`[MinBigInt, MaxBigInt]`, so the function returns the decoded value exactly when the length
check passes. -/
theorem bytesToBigInt_of_length_le (bts : List UInt8) (h : bts.length ≤ 64) :
    bytesToBigInt bts = .ok (decode2CBigInt bts) := by
  obtain ⟨hmin, hmax⟩ := bigInt_range
  have hr : Math.minBigInt ≤ decode2CBigInt bts ∧ decode2CBigInt bts ≤ Math.maxBigInt := by
    rw [decode2CBigInt_eq_value]
    match bts, h with
    | [], _ => rw [hmin, hmax]; decide
    | b :: rest, h =>
      have hv := value_mem_range b rest
      have hpow : (256 : Int) ^ rest.length ≤ 256 ^ 63 :=
        pow_le_pow_right₀ (by norm_num) (by simp at h; omega)
      omega
  unfold bytesToBigInt
  rw [if_neg (by omega), if_neg (by omega)]

theorem bytesToBigInt_of_length_le_minus129 : ([0xFF, 0x7F] : List UInt8).length ≤ 64 ∧
    bytesToBigInt [0xFF, 0x7F] = .ok (decode2CBigInt [0xFF, 0x7F]) :=
  ⟨by decide, bytesToBigInt_of_length_le _ (by decide)⟩

/-- The empty string decodes to zero, and zero is written as `0x00`, which is no removal of
bytes from the empty string. -/
theorem encode2CBigInt_decode2CBigInt_empty :
    encode2CBigInt (decode2CBigInt []) = [0x00] ∧ ¬ List.Sublist [(0x00 : UInt8)] [] :=
  ⟨rfl, by simp⟩

end Numeric

end Gowaves.Ride
