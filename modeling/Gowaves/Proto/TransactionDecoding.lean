import Gowaves.Proto.Transfer

/-!
# Decoding proofs and transfers

* `proofsV1_unmarshalBinary_marshalBinary` — `ProofsV1.UnmarshalBinary` reads back every valid
  `ProofsV1` from the bytes of its `MarshalBinary`, whatever follows them;
* `proofsV1_unmarshalBinary_truncated` — and panics on every truncation of those bytes that
  keeps the version and the count: the loop reads each length and each proof without checking
  that it is there;
* `bytesToTransaction_shortProofs` — so `BytesToTransaction` panics on a transfer with proofs
  whose proofs section is `[1, 0, 1]` (version 1, one proof, nothing after).

The proofs follow the loop of the decoder: `unmarshalProof_append` reads one proof of a
well-formed section, `unmarshalProof_short` fails on a proof cut short, and the loop lemmas are
inductions over the proofs with these two as the step.
-/

set_option autoImplicit false

namespace Gowaves.Proto

open GoLib GoLib.Reader

/-! ## The encoding of a proof -/

/-- A proof after its `uint16` length. -/
def proofBytes (e : Bytes) : Bytes := BigEndian.toBytes 2 e.length ++ e

theorem length_proofBytes (e : Bytes) : (proofBytes e).length = 2 + e.length := by
  simp [proofBytes, BigEndian.length_toBytes]

theorem ProofsV1.marshalBinary_eq (p : ProofsV1) :
    p.marshalBinary = proofsVersion :: BigEndian.toBytes 2 p.proofs.length ++ p.proofs.flatMap proofBytes :=
  rfl

theorem ProofsV1.valid_eq_ok {p : ProofsV1} :
    p.valid = .ok () ↔ p.version = proofsVersion ∧ p.proofs.length ≤ proofsMaxCount ∧
      ∀ e ∈ p.proofs, e.length ≤ proofMaxSize := by
  unfold ProofsV1.valid
  split_ifs with hv hc
  · simp [hv]
  · simp [hc]
  · split
    · rename_i e i hf
      have hm := List.mem_of_find?_eq_some hf
      have hp := List.find?_some hf
      simp only [decide_eq_true_eq] at hp
      simp only [reduceCtorEq, false_iff, not_and, not_forall, not_le]
      exact fun _ _ => ⟨e, List.fst_mem_of_mem_zipIdx hm, hp⟩
    · rename_i hf
      rw [List.find?_eq_none] at hf
      refine ⟨fun _ => ⟨by simpa using hv, by omega, fun e he => ?_⟩, fun _ => rfl⟩
      obtain ⟨i, hi⟩ := List.mem_iff_getElem.mp he
      have := hf (e, i) (List.mem_zipIdx_iff_getElem?.mpr (by simp [← hi.2, hi.1]))
      simpa using this

/-! ## One proof -/

theorem uint16_toBytes {ε : Type} {n : Nat} (hn : n < 2 ^ 16) (rest : Bytes) :
    ((Slice.ofList (BigEndian.toBytes 2 n ++ rest)).uint16 : Outcome ε UInt16) =
      .ok (UInt16.ofNat n) := by
  have h2 : (BigEndian.toBytes 2 n).length = 2 := BigEndian.length_toBytes 2 _
  rw [Slice.uint16, if_pos (by simp [h2]), Slice.toList_ofList, List.take_left' h2,
    BigEndian.ofBytes_toBytes_of_lt (by omega)]

theorem uint16_proofBytes {ε : Type} {e : Bytes} (he : e.length ≤ proofMaxSize) (rest : Bytes) :
    ((Slice.ofList (proofBytes e ++ rest)).uint16 : Outcome ε UInt16) =
      .ok (UInt16.ofNat e.length) := by
  rw [proofBytes, List.append_assoc]
  exact uint16_toBytes (by unfold proofMaxSize at he; omega) _

/-- One turn of the loop on a well-formed proof: the proof, and the slice after it. -/
theorem unmarshalProof_append {e : Bytes} (he : e.length ≤ proofMaxSize) (rest : Bytes) :
    unmarshalProof (Slice.ofList (proofBytes e ++ rest)) = .ok (e, Slice.ofList rest) := by
  have hel : (UInt16.ofNat e.length).toNat = e.length := by
    unfold proofMaxSize at he
    simp
    omega
  have h2 : (BigEndian.toBytes 2 e.length).length = 2 := BigEndian.length_toBytes 2 _
  unfold unmarshalProof
  rw [uint16_proofBytes he, Outcome.bind_ok, hel, if_neg (by omega),
    Slice.sliceFrom_ofList _ (by simp [length_proofBytes]; omega), Outcome.bind_ok]
  rw [show (proofBytes e ++ rest).drop 2 = e ++ rest by
    rw [proofBytes, List.append_assoc, List.drop_left' h2]]
  obtain ⟨src, hs, hsl, -, -⟩ := @Slice.slice_ok UInt8 String (Slice.ofList (e ++ rest)) 0
    e.length (Nat.zero_le _) (by simp)
  rw [hs, Outcome.bind_ok, Slice.sliceFrom_ofList _ (by simp), Outcome.bind_ok, hsl]
  simp [Slice.ofList]

/-- A proof cut short panics: at its length when that is cut, else at `data[0:el]`, which
reaches past the capacity. -/
theorem unmarshalProof_short {e : Bytes} (he : e.length ≤ proofMaxSize) {k : Nat}
    (hk : k < (proofBytes e).length) :
    (unmarshalProof (Slice.ofList ((proofBytes e).take k))).IsPanic := by
  have h2 : (BigEndian.toBytes 2 e.length).length = 2 := BigEndian.length_toBytes 2 _
  rw [length_proofBytes] at hk
  unfold unmarshalProof
  by_cases hk2 : k < 2
  · rw [Slice.uint16_panic _ (by simp [length_proofBytes]; omega)]
    exact Outcome.IsPanic.bind (Outcome.isPanic_panic _) _
  · have hel : (UInt16.ofNat e.length).toNat = e.length := by
      unfold proofMaxSize at he
      simp
      omega
    have htake : (proofBytes e).take k = BigEndian.toBytes 2 e.length ++ e.take (k - 2) := by
      rw [proofBytes, List.take_append, List.take_of_length_le (by omega), h2]
    rw [htake, uint16_toBytes (by unfold proofMaxSize at he; omega), Outcome.bind_ok, hel,
      if_neg (by omega), Slice.sliceFrom_ofList _ (by simp [h2]), Outcome.bind_ok,
      List.drop_left' h2, Slice.slice_cap_panic _ (by simp; omega)]
    exact Outcome.IsPanic.bind (Outcome.isPanic_panic _) _

/-! ## The loop -/

theorem unmarshalProofs_flatMap : ∀ (ps : List Bytes) (rest : Bytes),
    (∀ e ∈ ps, e.length ≤ proofMaxSize) →
    unmarshalProofs ps.length (Slice.ofList (ps.flatMap proofBytes ++ rest)) = .ok ps
  | [], _, _ => rfl
  | e :: ps, rest, h => by
    have ih := unmarshalProofs_flatMap ps rest fun e' he' => h e' (by simp [he'])
    rw [List.length_cons, unmarshalProofs, List.flatMap_cons, List.append_assoc,
      unmarshalProof_append (h e (by simp)), Outcome.bind_ok]
    simp only [ih, Outcome.bind_ok]
    rfl

theorem unmarshalProofs_truncated : ∀ (ps : List Bytes) (k : Nat),
    (∀ e ∈ ps, e.length ≤ proofMaxSize) → k < (ps.flatMap proofBytes).length →
    (unmarshalProofs ps.length (Slice.ofList ((ps.flatMap proofBytes).take k))).IsPanic
  | [], k, _, hk => by simp at hk
  | e :: ps, k, h, hk => by
    have he := h e (by simp)
    rw [List.length_cons, unmarshalProofs, List.flatMap_cons]
    by_cases hke : k < (proofBytes e).length
    · rw [List.take_append_of_le_length (le_of_lt hke)]
      exact Outcome.IsPanic.bind (unmarshalProof_short he hke) _
    · rw [List.take_append, List.take_of_length_le (by omega), unmarshalProof_append he,
        Outcome.bind_ok]
      have ih := unmarshalProofs_truncated ps (k - (proofBytes e).length)
        (fun e' he' => h e' (by simp [he'])) (by simp only [List.flatMap_cons, List.length_append] at hk; omega)
      exact Outcome.IsPanic.bind ih _

/-! ## `ProofsV1` -/

theorem proofsV1_unmarshalBinary_header {p : ProofsV1} (hv : p.valid = .ok ()) (body : Bytes) :
    ProofsV1.unmarshalBinary
        (Slice.ofList (proofsVersion :: (BigEndian.toBytes 2 p.proofs.length ++ body))) =
      (unmarshalProofs p.proofs.length (Slice.ofList body)).bind fun proofs =>
        .ok ⟨proofsVersion, proofs⟩ := by
  obtain ⟨-, hcount, -⟩ := ProofsV1.valid_eq_ok.mp hv
  have h2 : (BigEndian.toBytes 2 p.proofs.length).length = 2 := BigEndian.length_toBytes 2 _
  have hc : (UInt16.ofNat p.proofs.length).toNat = p.proofs.length := by
    unfold proofsMaxCount at hcount
    simp
    omega
  unfold ProofsV1.unmarshalBinary
  rw [if_neg (by simp [h2, proofsMinLen])]
  simp only [Slice.toList_ofList, List.getD_cons_zero, ne_eq, not_true_eq_false, if_false]
  rw [Slice.sliceFrom_ofList _ (by simp), List.drop_one, List.tail_cons, Outcome.bind_ok,
    uint16_toBytes (by unfold proofsMaxCount at hcount; omega), Outcome.bind_ok, hc,
    if_neg (by omega), Slice.sliceFrom_ofList _ (by simp [h2]), Outcome.bind_ok,
    List.drop_left' h2]
  rfl

/-- `ProofsV1.UnmarshalBinary` reads back every valid `ProofsV1` from its `MarshalBinary`,
whatever bytes follow. -/
theorem proofsV1_unmarshalBinary_marshalBinary {p : ProofsV1} (hv : p.valid = .ok ())
    (rest : Bytes) : ProofsV1.unmarshalBinary (Slice.ofList (p.marshalBinary ++ rest)) = .ok p := by
  obtain ⟨hver, -, hsize⟩ := ProofsV1.valid_eq_ok.mp hv
  rw [ProofsV1.marshalBinary_eq, List.append_assoc, List.cons_append,
    proofsV1_unmarshalBinary_header hv, unmarshalProofs_flatMap _ rest hsize]
  rw [← hver]
  rfl

theorem proofsV1_unmarshalBinary_marshalBinary_two :
    ProofsV1.unmarshalBinary (Slice.ofList (ProofsV1.marshalBinary ⟨1, [[7, 7], []]⟩ ++ [9])) =
      .ok ⟨1, [[7, 7], []]⟩ :=
  proofsV1_unmarshalBinary_marshalBinary (by decide) [9]

/-- `ProofsV1.UnmarshalBinary` panics on every truncation of the bytes of a valid `ProofsV1` that
keeps its version and count. -/
theorem proofsV1_unmarshalBinary_truncated {p : ProofsV1} (hv : p.valid = .ok ()) {k : Nat}
    (h3 : proofsMinLen ≤ k) (hk : k < p.marshalBinary.length) :
    (ProofsV1.unmarshalBinary (Slice.ofList (p.marshalBinary.take k))).IsPanic := by
  obtain ⟨-, -, hsize⟩ := ProofsV1.valid_eq_ok.mp hv
  unfold proofsMinLen at h3
  have h2 : (BigEndian.toBytes 2 p.proofs.length).length = 2 := BigEndian.length_toBytes 2 _
  have hlen : p.marshalBinary.length = 3 + (p.proofs.flatMap proofBytes).length := by
    rw [ProofsV1.marshalBinary_eq]
    simp only [List.length_cons, List.length_append, h2]
  have htake : p.marshalBinary.take k = proofsVersion :: (BigEndian.toBytes 2 p.proofs.length ++
      (p.proofs.flatMap proofBytes).take (k - 3)) := by
    obtain ⟨j, rfl⟩ : ∃ j, k = j + 1 := ⟨k - 1, by omega⟩
    rw [ProofsV1.marshalBinary_eq, List.cons_append, List.take_succ_cons, List.take_append, h2,
      List.take_of_length_le (by omega)]
    congr 3
  rw [htake, proofsV1_unmarshalBinary_header hv]
  exact Outcome.IsPanic.bind
    (unmarshalProofs_truncated p.proofs (k - 3) hsize (by rw [hlen] at hk; omega)) _

theorem proofsV1_unmarshalBinary_truncated_one :
    (ProofsV1.unmarshalBinary (Slice.ofList ((ProofsV1.marshalBinary ⟨1, [[7, 7]]⟩).take 4))).IsPanic :=
  proofsV1_unmarshalBinary_truncated (by decide) (by decide) (by decide)

/-! ## A transfer whose proof is missing -/

/-- A transfer with proofs, version 2, to the alias `abcd`, whose proofs section `01 00 01`
announces one proof and ends. -/
def shortProofsTransfer : Bytes :=
  [0, transferTransaction, 2] ++ List.replicate 32 0 ++ [0, 0] ++ List.replicate 24 0 ++
    [aliasVersion, 87, 0, 4, 97, 98, 99, 100] ++ [0, 0] ++ [proofsVersion, 0, 1]

theorem bytesToTransaction_shortProofs {T : Type}
    (v1 v2 : TransactionType → Option (Slice UInt8 → Outcome String T))
    (wrap : TransferWithProofs → T) (secureHash fastHash : Bytes → Digest)
    (marshalToProtobuf : TransferWithProofs → Except String Bytes)
    (hv2 : v2 transferTransaction = some fun b =>
      wrap <$> TransferWithProofs.unmarshalBinary secureHash fastHash marshalToProtobuf b) :
    bytesToTransaction v1 v2 (Slice.ofList shortProofsTransfer) =
      .panic "runtime error: index out of range [1] with length 0" := by
  have hd : TransferWithProofs.unmarshalBinary secureHash fastHash marshalToProtobuf
      (Slice.ofList shortProofsTransfer) = .panic (Slice.indexPanic 1 0) := rfl
  unfold bytesToTransaction
  rw [if_neg (by decide)]
  simp only [Slice.toList_ofList]
  rw [show shortProofsTransfer.getD 0 0 = 0 from rfl, if_pos rfl,
    show shortProofsTransfer.getD 1 0 = transferTransaction from rfl]
  dsimp only
  rw [hv2]
  show (wrap <$> TransferWithProofs.unmarshalBinary secureHash fastHash marshalToProtobuf
    (Slice.ofList shortProofsTransfer)).mapError _ = _
  rw [hd]
  rfl

theorem bytesToTransaction_shortProofs_registered :
    bytesToTransaction (fun _ => none)
        (fun _ => some fun b => id <$> TransferWithProofs.unmarshalBinary
          (fun _ => Vector.replicate 32 0) (fun _ => Vector.replicate 32 0) (fun _ => .ok []) b)
        (Slice.ofList shortProofsTransfer) =
      .panic "runtime error: index out of range [1] with length 0" :=
  bytesToTransaction_shortProofs (fun _ => none) _ id _ _ _ rfl

end Gowaves.Proto
