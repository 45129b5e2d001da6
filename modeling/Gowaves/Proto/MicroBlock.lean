import Gowaves.Proto.Transfer
import Gowaves.Proto.MessageCodec

/-!
# Binary microblocks (`pkg/proto/microblock.go`, `pkg/libs/deserializer`)

`MicroBlock.UnmarshalBinary` reads a microblock with a `deserializer.Deserializer`: the version,
the reference (a digest from the protobuf version 5 on, a signature before), the total block
signature, the length of the transactions section plus 4, the transaction count, the
transactions, the sender's public key and the signature.  The node applies it to the body of
every `MicroBlockMessage` a peer sends (`MicroBlockAction`), with no `recover`.

The deserializer hands out its bytes as reslices of the input, so the transactions section is
a slice whose capacity reaches to the end of the input.  Before version 5, `BytesToTransactions`
reads each transaction's length as `txs[0:4]` before it checks that four bytes are there: on
an empty section that reslice reads the public key's bytes when they follow, and panics when
fewer than four bytes are left.

## Results

* `unmarshalBinary_shortTransactions` — every binary microblock (version below 5) that
  announces at least one transaction in a section of length 0 and ends less than four bytes
  later makes `UnmarshalBinary` panic, instead of returning an error;
* `microBlock_unmarshalBinary_marshalBinary` — for every microblock of a binary version whose
  reference is a signature, whose count is its number of transactions and whose sections fit
  their `uint32` lengths, decoding its encoding returns it, when each transaction's bytes
  decode to it.

The reads are one lemma per field of the encoding (`byte_cons`, `signature_append`,
`uint32_append`, `bytes_append`, `publicKey_append`); the transactions loop is an induction
over the transactions with the slice generalized (`bytesToTransactions_flatMap`).
-/

set_option autoImplicit false

namespace Gowaves.Proto

open GoLib GoLib.Reader

/-- `deserializer.Deserializer`: the bytes not read yet, a reslice of the input. -/
structure Deserializer where
  b : Slice UInt8

namespace Deserializer

def byte (d : Deserializer) : Outcome String (UInt8 × Deserializer) :=
  if 0 < d.b.len then do
    let out ← d.b.index 0
    let b ← d.b.sliceFrom 1
    pure (out, ⟨b⟩)
  else .error "not enough bytes, expected at least 1, found 0"

/-- The length check and the reslices of `Digest` and `Signature`: the first `n` bytes, after
an error naming `what` when they are not there. -/
def fixed (d : Deserializer) (n : Nat) (what : String) : Outcome String (Bytes × Deserializer) :=
  if d.b.len < n then
    .error ("not enough bytes to deserialize " ++ what ++ ", expected at least " ++ toString n ++
      ", found " ++ toString d.b.len)
  else do
    let out ← d.b.sliceTo n
    let b ← d.b.sliceFrom n
    pure (out.toList, ⟨b⟩)

def digest (d : Deserializer) : Outcome String (Vector UInt8 32 × Deserializer) := do
  let (out, d) ← d.fixed digestSize "digest"
  pure (arrayOf 32 out, d)

def signature (d : Deserializer) : Outcome String (Vector UInt8 64 × Deserializer) := do
  let (out, d) ← d.fixed signatureSize "signature"
  pure (arrayOf 64 out, d)

def uint32 (d : Deserializer) : Outcome String (UInt32 × Deserializer) :=
  if d.b.len < 4 then
    .error ("not enough bytes to deserialize uint32, expected at least 4, found " ++
      toString d.b.len)
  else do
    let s ← d.b.sliceTo 4
    let out ← s.uint32
    let b ← d.b.sliceFrom 4
    pure (out, ⟨b⟩)

/-- `Bytes`: the first `length` bytes, as a reslice whose capacity is the rest of the input. -/
def bytes (d : Deserializer) (length : Nat) : Outcome String (Slice UInt8 × Deserializer) :=
  if length > d.b.len then
    .error ("not enough bytes to deserialize Bytes, expected " ++ toString length ++
      ", found " ++ toString d.b.len)
  else do
    let out ← d.b.sliceTo length
    let b ← d.b.sliceFrom length
    pure (out, ⟨b⟩)

def publicKey (d : Deserializer) : Outcome String (Vector UInt8 32 × Deserializer) := do
  let l := d.b.len
  let (bts, d) ← (d.bytes publicKeySize).mapError fun e =>
    "not enough bytes to deserialize PublicKey, expected 32, found " ++ toString l ++ ": " ++ e
  pure (arrayOf 32 bts.toList, d)

/-! ### Reading the fields of an encoding -/

section Reads

variable (rest : Bytes)

theorem byte_cons (x : UInt8) :
    (⟨Slice.ofList (x :: rest)⟩ : Deserializer).byte = .ok (x, ⟨Slice.ofList rest⟩) := by
  simp [byte, Slice.index, Slice.sliceFrom_ofList]

theorem fixed_append {n : Nat} (what : String) (bs : Bytes) (h : bs.length = n) :
    (⟨Slice.ofList (bs ++ rest)⟩ : Deserializer).fixed n what = .ok (bs, ⟨Slice.ofList rest⟩) := by
  subst h
  have hto := @Slice.sliceTo_ok UInt8 String (Slice.ofList (bs ++ rest)) bs.length
    (by simp)
  have hfrom := @Slice.sliceFrom_ofList UInt8 String (bs ++ rest) bs.length (by simp)
  simp only [List.drop_left] at hfrom
  simp [fixed, hto, hfrom, Slice.toList]

theorem signature_append (sig : Vector UInt8 64) :
    (⟨Slice.ofList (sig.toList ++ rest)⟩ : Deserializer).signature =
      .ok (sig, ⟨Slice.ofList rest⟩) := by
  simp [signature, fixed_append rest (n := signatureSize) _ sig.toList (by simp [signatureSize])]

theorem uint32_append (x : UInt32) :
    (⟨Slice.ofList (BigEndian.toBytes 4 x.toNat ++ rest)⟩ : Deserializer).uint32 =
      .ok (x, ⟨Slice.ofList rest⟩) := by
  have hto := @Slice.sliceTo_ok UInt8 String
    (Slice.ofList (BigEndian.toBytes 4 x.toNat ++ rest)) 4 (by simp)
  have hfrom := @Slice.sliceFrom_ofList UInt8 String (BigEndian.toBytes 4 x.toNat ++ rest)
    (BigEndian.toBytes 4 x.toNat).length (by simp)
  simp only [BigEndian.length_toBytes] at hfrom
  have ht : (BigEndian.toBytes 4 x.toNat).take 4 = BigEndian.toBytes 4 x.toNat :=
    List.take_of_length_le (by simp)
  have hx : BigEndian.ofBytes (BigEndian.toBytes 4 x.toNat) = x.toNat :=
    BigEndian.ofBytes_toBytes_of_lt (by have := x.toNat_lt; omega)
  simp [uint32, hto, hfrom, Slice.uint32, Slice.toList, ht, hx]

/-- `Bytes` hands out the bytes asked for as a reslice whose capacity runs to the end. -/
theorem bytes_append (bs : Bytes) :
    (⟨Slice.ofList (bs ++ rest)⟩ : Deserializer).bytes bs.length =
      .ok (⟨bs ++ rest, bs.length, by simp⟩, ⟨Slice.ofList rest⟩) := by
  have hto := @Slice.sliceTo_ok UInt8 String (Slice.ofList (bs ++ rest)) bs.length
    (by simp)
  have hfrom := @Slice.sliceFrom_ofList UInt8 String (bs ++ rest) bs.length (by simp)
  simp only [List.drop_left] at hfrom
  simp [bytes, hto, hfrom]

theorem publicKey_append (pk : Vector UInt8 32) :
    (⟨Slice.ofList (pk.toList ++ rest)⟩ : Deserializer).publicKey =
      .ok (pk, ⟨Slice.ofList rest⟩) := by
  have h := bytes_append rest pk.toList
  simp only [Vector.length_toList] at h
  simp [publicKey, publicKeySize, h, Slice.toList]

end Reads

end Deserializer

def protobufBlockVersion : UInt8 := 5

/-- `proto.MicroBlock`, over a type of transactions. -/
structure MicroBlock (T : Type) where
  versionField : UInt8
  reference : BlockID
  totalResBlockSigField : Vector UInt8 64
  transactionCount : UInt32
  transactions : List T
  senderPK : Vector UInt8 32
  signature : Vector UInt8 64

namespace MicroBlock

variable {T : Type}

/-- `MicroBlock.UnmarshalBinary`, with the registries of `BytesToTransaction` and
`Transactions.UnmarshalFromProtobuf`. -/
def unmarshalBinary (v1 v2 : TransactionType → Option (Slice UInt8 → Outcome String T))
    (unmarshalFromProtobuf : Slice UInt8 → Except String (List T)) (b : Slice UInt8) :
    Outcome String (MicroBlock T) := do
  let d : Deserializer := ⟨b⟩
  let (versionField, d) ← d.byte.mapError ("failed to unmarshal microblock version: " ++ ·)
  let proto := decide (protobufBlockVersion ≤ versionField)
  let (reference, d) ← if proto then do
      let (ref, d) ← d.digest.mapError ("failed to unmarshal reference: " ++ ·)
      pure (newBlockIDFromDigest ref, d)
    else do
      let (sig, d) ← d.signature.mapError ("failed to unmarshal reference: " ++ ·)
      pure (newBlockIDFromSignature sig, d)
  let (totalResBlockSigField, d) ← d.signature.mapError
    ("failed to unmarshal microblock totalResBlockSigField: " ++ ·)
  let (tBytesLength, d) ← d.uint32.mapError
    ("failed to unmarshal microblock transaction bytes len: " ++ ·)
  let (transactionCount, d) ← d.uint32.mapError
    ("failed to unmarshal microblock transaction count: " ++ ·)
  -- `uint(tBytesLength) - 4`, in 64 bits
  let (bts, d) ← (d.bytes (tBytesLength.toUInt64 - 4).toNat).mapError
    ("failed to unmarshal microblock transaction bytes: " ++ ·)
  let transactions ← if proto then
      (Outcome.ofExcept (unmarshalFromProtobuf bts)).mapError
        ("failed to unmarshal transactions from protobuf: " ++ ·)
    else
      (bytesToTransactions v1 v2 transactionCount.toNat bts).mapError
        ("failed to unmarshal transactions: " ++ ·)
  let (senderPK, d) ← d.publicKey.mapError ("failed to unmarshal microblock public key: " ++ ·)
  let (signature, _) ← d.signature.mapError ("failed to unmarshal microblock signature: " ++ ·)
  pure ⟨versionField, reference, totalResBlockSigField, transactionCount, transactions, senderPK,
    signature⟩

/-- The transactions section of a binary version (`Transactions.WriteToBinary`): each
transaction's bytes after their `uint32` length. -/
def transactionsBytes (marshal : T → Bytes) (txs : List T) : Bytes :=
  txs.flatMap fun t => BigEndian.toBytes 4 (marshal t).length ++ marshal t

/-- `MicroBlock.MarshalBinary` of a binary version without a state hash. -/
def marshalBinary (marshal : T → Bytes) (m : MicroBlock T) : Bytes :=
  let txs := transactionsBytes marshal m.transactions
  m.versionField :: m.reference.bytes ++ m.totalResBlockSigField.toList ++
    BigEndian.toBytes 4 (txs.length + 4) ++ BigEndian.toBytes 4 m.transactionCount.toNat ++ txs ++
    m.senderPK.toList ++ m.signature.toList

/-! ### Round trip -/

/-- Each transaction after its `uint32` length reads back, whatever the slice holds after the
section and whatever its capacity: the reads stay within the length.  The induction runs over
the transactions with the slice generalized. -/
theorem bytesToTransactions_flatMap (v1 v2 : TransactionType → Option (Slice UInt8 → Outcome String T))
    (marshal : T → Bytes) :
    ∀ txs : List T, (∀ t ∈ txs, (marshal t).length < 2 ^ 32) →
      (∀ t ∈ txs, ∀ s : Slice UInt8, s.toList = marshal t → bytesToTransaction v1 v2 s = .ok t) →
      ∀ s : Slice UInt8, transactionsBytes marshal txs <+: s.toList →
        bytesToTransactions v1 v2 txs.length s = .ok txs
  | [], _, _, _, _ => rfl
  | t :: ts, hlen, hdec, s, hpre => by
    obtain ⟨more, hs⟩ := hpre
    have hL := hlen t (by simp)
    have hs' : s.toList = BigEndian.toBytes 4 (marshal t).length ++
        (marshal t ++ (transactionsBytes marshal ts ++ more)) := by
      rw [← hs]
      simp [transactionsBytes]
    have hlenS : 4 + (marshal t).length + (transactionsBytes marshal ts).length ≤ s.len := by
      have := congrArg List.length hs'
      simp only [Slice.length_toList, List.length_append, BigEndian.length_toBytes] at this
      omega
    have hcap : (marshal t).length + 4 ≤ s.cap := by
      have := s.len_le
      simp only [Slice.cap]
      omega
    obtain ⟨lb, h1, hlb, hlbLen, -⟩ := Slice.slice_ok (ε := String) s (Nat.zero_le 4) (by omega)
    rw [Slice.toList_slice_of_le_len s (by omega), hs'] at hlb
    have hlb4 : lb.toList.take 4 = BigEndian.toBytes 4 (marshal t).length := by
      rw [hlb]
      simp [List.take_of_length_le]
    have hn : (lb.uint32 : Outcome String UInt32) = .ok (marshal t).length.toUInt32 := by
      simp [Slice.uint32, hlbLen, hlb4, BigEndian.ofBytes_toBytes_of_lt (show _ < 256 ^ 4 by omega)]
    have hnNat : (marshal t).length.toUInt32.toNat = (marshal t).length := by
      simp only [Nat.toUInt32_eq]
      exact UInt32.toNat_ofNat_of_lt' (by simpa [UInt32.size] using hL)
    obtain ⟨tb, h2, htb, -, -⟩ := Slice.slice_ok (ε := String) s
      (show 4 ≤ (marshal t).length + 4 by omega) hcap
    rw [Slice.toList_slice_of_le_len s (by omega), hs'] at htb
    have htb' : tb.toList = marshal t := by
      rw [htb]
      simp [List.take_append]
    obtain ⟨s', h3, hs'', -, -⟩ := Slice.sliceFrom_ok (ε := String) s
      (show 4 + (marshal t).length ≤ s.len by omega)
    rw [hs'] at hs''
    have hpre' : transactionsBytes marshal ts <+: s'.toList :=
      ⟨more, by rw [hs'']; simp [List.drop_append]⟩
    have hrest := bytesToTransactions_flatMap v1 v2 marshal ts
      (fun u hu => hlen u (by simp [hu])) (fun u hu => hdec u (by simp [hu])) s' hpre'
    simp only [List.length_cons, bytesToTransactions, h1, Outcome.bind_ok, hn, hnNat]
    rw [if_neg (by omega), h2, Outcome.bind_ok, hdec t (by simp) tb htb', Outcome.bind_ok, h3,
      Outcome.bind_ok, hrest]
    rfl

/-- **Binary microblocks read back.**  For every microblock of a version below 5 whose
reference is a signature, whose count is its number of transactions and whose transactions
section fits its `uint32` length, `UnmarshalBinary` of its `MarshalBinary` returns it, as long as
the bytes of each transaction decode to it. -/
theorem microBlock_unmarshalBinary_marshalBinary
    (v1 v2 : TransactionType → Option (Slice UInt8 → Outcome String T))
    (unmarshalFromProtobuf : Slice UInt8 → Except String (List T)) (marshal : T → Bytes)
    (m : MicroBlock T) (hv : m.versionField < protobufBlockVersion) (sig : Vector UInt8 64)
    (href : m.reference = newBlockIDFromSignature sig)
    (hcount : m.transactionCount.toNat = m.transactions.length)
    (hsize : (transactionsBytes marshal m.transactions).length + 4 < 2 ^ 32)
    (hdec : ∀ t ∈ m.transactions, ∀ s : Slice UInt8, s.toList = marshal t →
      bytesToTransaction v1 v2 s = .ok t) :
    unmarshalBinary v1 v2 unmarshalFromProtobuf (Slice.ofList (marshalBinary marshal m)) =
      .ok m := by
  set txs := transactionsBytes marshal m.transactions with htxs
  set x : UInt32 := (txs.length + 4).toUInt32 with hx
  have hxNat : x.toNat = txs.length + 4 := by
    simp only [hx, Nat.toUInt32_eq]
    exact UInt32.toNat_ofNat_of_lt' (by simpa [UInt32.size] using hsize)
  have hsection : (x.toUInt64 - 4).toNat = txs.length := by
    have h4 : (4 : UInt64) ≤ x.toUInt64 := by
      rw [UInt64.le_iff_toNat_le]
      simp [hxNat]
    rw [UInt64.toNat_sub_of_le _ _ h4]
    simp [hxNat]
  have hb : marshalBinary marshal m = m.versionField :: (sig.toList ++
      (m.totalResBlockSigField.toList ++ (BigEndian.toBytes 4 x.toNat ++
        (BigEndian.toBytes 4 m.transactionCount.toNat ++ (txs ++
          (m.senderPK.toList ++ (m.signature.toList ++ []))))))) := by
    simp [marshalBinary, href, newBlockIDFromSignature, BlockID.bytes, hxNat, htxs]
  have hproto : decide (protobufBlockVersion ≤ m.versionField) = false := by
    simpa [UInt8.not_le] using hv
  have hlen : ∀ t ∈ m.transactions, (marshal t).length < 2 ^ 32 := by
    intro t ht
    have : (marshal t).length ≤ txs.length := by
      have hsub := List.sublist_flatten_of_mem (List.mem_map_of_mem
        (f := fun t => BigEndian.toBytes 4 (marshal t).length ++ marshal t) ht)
      rw [htxs, transactionsBytes, List.flatMap_def]
      exact (hsub.length_le).trans' (by simp)
    omega
  have htx := bytesToTransactions_flatMap v1 v2 marshal m.transactions hlen hdec
    ⟨txs ++ (m.senderPK.toList ++ (m.signature.toList ++ [])), txs.length, by simp⟩
    ⟨[], by simp [Slice.toList, htxs]⟩
  rw [hb]
  simp only [unmarshalBinary, Deserializer.byte_cons, hproto, Deserializer.signature_append,
    Deserializer.uint32_append, Outcome.mapError_ok, Outcome.pure_eq, Outcome.bind_ok,
    Bool.false_eq_true, if_false]
  rw [hsection, Deserializer.bytes_append]
  simp only [Outcome.mapError_ok, Outcome.bind_ok, hcount, htx, Deserializer.publicKey_append,
    Deserializer.signature_append]
  rw [← href]

theorem microBlock_unmarshalBinary_marshalBinary_oneTransaction :
    let v1 : TransactionType → Option (Slice UInt8 → Outcome String Unit) :=
      fun _ => some fun _ => .ok ()
    let m : MicroBlock Unit := ⟨3, newBlockIDFromSignature (Vector.replicate 64 7),
      Vector.replicate 64 8, 1, [()], Vector.replicate 32 9, Vector.replicate 64 10⟩
    unmarshalBinary v1 (fun _ => none) (fun _ => .ok [])
        (Slice.ofList (marshalBinary (fun _ => [1, 2]) m)) = .ok m :=
  microBlock_unmarshalBinary_marshalBinary _ (fun _ => none) (fun _ => .ok []) (fun _ => [1, 2]) _
    (by decide) _ rfl (by decide) (by decide) fun _ _ s hs => by
      have hlen : s.len = 2 := by rw [← Slice.length_toList, hs]; rfl
      simp [bytesToTransaction, hlen, hs]

/-! ### A transactions section too short for its count -/

theorem bytesToTransactions_short (v1 v2 : TransactionType → Option (Slice UInt8 → Outcome String T))
    (count : Nat) (s : Slice UInt8) (h : s.cap < 4) :
    bytesToTransactions v1 v2 (count + 1) s = .panic (Slice.sliceCapPanic 4 s.cap) := by
  simp [bytesToTransactions, Slice.slice_cap_panic s h]

/-- **A microblock whose transactions section is empty but announces transactions panics.**
For every version below 5, references and count other than zero, the bytes of a microblock
whose transactions length field is 4 (a section of zero bytes) and which ends less than four
bytes after the count make `UnmarshalBinary` panic in `BytesToTransactions`: the section is
an empty reslice whose capacity is what is left, and `txs[0:4]` reaches past it. -/
theorem unmarshalBinary_shortTransactions
    (v1 v2 : TransactionType → Option (Slice UInt8 → Outcome String T))
    (unmarshalFromProtobuf : Slice UInt8 → Except String (List T)) {version : UInt8}
    (hv : version < protobufBlockVersion) (reference totalResBlockSig : Vector UInt8 64)
    {count : UInt32} (hc : count ≠ 0) (rest : Bytes) (hrest : rest.length < 4) :
    unmarshalBinary v1 v2 unmarshalFromProtobuf (Slice.ofList
        (version :: reference.toList ++ totalResBlockSig.toList ++ BigEndian.toBytes 4 4 ++
          BigEndian.toBytes 4 count.toNat ++ rest)) =
      .panic (Slice.sliceCapPanic 4 rest.length) := by
  have hb : version :: reference.toList ++ totalResBlockSig.toList ++ BigEndian.toBytes 4 4 ++
      BigEndian.toBytes 4 count.toNat ++ rest =
      version :: (reference.toList ++ (totalResBlockSig.toList ++
        (BigEndian.toBytes 4 (4 : UInt32).toNat ++ (BigEndian.toBytes 4 count.toNat ++
          ([] ++ rest))))) := by
    simp
  have hproto : decide (protobufBlockVersion ≤ version) = false := by
    simpa [UInt8.not_le] using hv
  have hzero : ((4 : UInt32).toUInt64 - 4).toNat = ([] : Bytes).length := by decide
  obtain ⟨k, hk⟩ : ∃ k, count.toNat = k + 1 :=
    Nat.exists_eq_succ_of_ne_zero (by simpa [← UInt32.toNat_inj] using hc)
  rw [hb]
  simp only [unmarshalBinary, Deserializer.byte_cons, hproto, Deserializer.signature_append,
    Deserializer.uint32_append, Outcome.mapError_ok, Outcome.pure_eq, Outcome.bind_ok,
    Bool.false_eq_true, if_false]
  rw [hzero, Deserializer.bytes_append]
  simp only [Outcome.mapError_ok, Outcome.bind_ok, hk]
  have hcap : (⟨[] ++ rest, ([] : Bytes).length, by simp⟩ : Slice UInt8).cap = rest.length := by
    simp [Slice.cap]
  rw [bytesToTransactions_short v1 v2 k _ (by rw [hcap]; exact hrest), hcap]
  rfl

/-- The 137 bytes of a version 3 microblock with zero references, transactions length 4 and
count 1, and nothing after. -/
def emptyTransactionsMicroBlock : Bytes :=
  3 :: List.replicate 64 0 ++ List.replicate 64 0 ++ [0, 0, 0, 4] ++ [0, 0, 0, 1]

theorem unmarshalBinary_shortTransactions_v3 :
    unmarshalBinary (T := Unit) (fun _ => none) (fun _ => none) (fun _ => .ok [])
        (Slice.ofList emptyTransactionsMicroBlock) =
      .panic "runtime error: slice bounds out of range [:4] with capacity 0" :=
  unmarshalBinary_shortTransactions (fun _ => none) (fun _ => none) (fun _ => .ok [])
    (show (3 : UInt8) < protobufBlockVersion by decide) (Vector.replicate 64 0)
    (Vector.replicate 64 0) (show (1 : UInt32) ≠ 0 by decide) [] (by decide)

end MicroBlock

end Gowaves.Proto
