import Gowaves.Crypto.MerkleTree
import Gowaves.Ride.Numeric

/-!
# Rebuilding a Merkle root in RIDE (`pkg/ride/functions_proto.go`)

`rebuildMerkleRoot(proofs, leaf, index)` takes the audit path of a leaf from the leaf up, as a
list of at most 16 byte vectors, the leaf's digest and its index.  It converts the proofs into
digests from the last one back, so that they stand from the root down, checks the leaf, and
calls `RebuildRoot` of a fresh `crypto.MerkleTree` at the index taken as a `uint64`.

Result: `rebuildMerkleRoot_transactionsRoot` — for every tree built by `Push` (as a block's
transactions root is) whose padded height is at most 16, and every leaf of it, the native given
the leaf's digest, its audit path read from the leaf up and its index returns the tree's
`Root`: the two agree on every tree, not only on sizes that are powers of two.
-/

set_option autoImplicit false

namespace Gowaves.Ride

open Crypto Natives Numeric

namespace FunctionsProto

/-- `crypto.NewDigestFromBytes`. -/
def newDigestFromBytes (b : List UInt8) : Except GoString Digest :=
  if h : b.length = 32 then .ok ⟨b.toArray, by simpa using h⟩
  else .error (ascii "invalid digest len")

/-- One iteration of `rebuildMerkleRoot`'s loop over the proofs: the proof at position `i` must be
a byte vector of a digest's length. -/
def proofDigest (x : RideType) (i : Nat) : Except EvalError Digest :=
  match x with
  | .rideByteVector b =>
    match newDigestFromBytes b with
    | .ok d => .ok d
    | .error e => .error (wrapPlain "rebuildMerkleRoot" e)
  | x => .error (.plain (ascii "rebuildMerkleRoot: unexpected proof type '" ++ x.instanceOf ++
      ascii "' at position " ++ ascii (toString i)))

/-- The loop over the proofs, from the last one back (`slices.Backward`). -/
def proofDigests (proofsLeafsToRootOrder : List RideType) : Except EvalError (List Digest) :=
  proofsLeafsToRootOrder.zipIdx.reverse.mapM fun p => proofDigest p.1 p.2

/-- `rebuildMerkleRoot`, over the hash of `crypto.NewMerkleTree`. -/
def rebuildMerkleRoot (h : List UInt8 → Digest) : RideFunction := fun args =>
  match checkArgs args 3, args with
  | .error e, _ => .error (wrapPlain "rebuildMerkleRoot" e)
  | .ok (), [a0, a1, a2] =>
    match a0 with
    | .rideList proofsLeafsToRootOrder =>
      if proofsLeafsToRootOrder.length > 16 then
        .error (.plain (ascii "rebuildMerkleRoot: no more than 16 proofs is allowed"))
      else
        match proofDigests proofsLeafsToRootOrder with
        | .error e => .error e
        | .ok proofsRootToLeafsOrder =>
          match a1 with
          | .rideByteVector leaf =>
            match newDigestFromBytes leaf with
            | .error e => .error (wrapPlain "rebuildMerkleRoot" e)
            | .ok lf =>
              match a2 with
              | .rideInt index =>
                .ok (.rideByteVector
                  ((newMerkleTree h).rebuildRoot lf proofsRootToLeafsOrder index.toUInt64).toList)
              | a => .error (unexpectedArgument "rebuildMerkleRoot" a)
          | a => .error (unexpectedArgument "rebuildMerkleRoot" a)
    | a => .error (unexpectedArgument "rebuildMerkleRoot" a)
  | .ok (), _ => .error (wrapPlain "rebuildMerkleRoot" [])

theorem newDigestFromBytes_toList (d : Digest) : newDigestFromBytes d.toList = .ok d := by
  unfold newDigestFromBytes
  rw [dif_pos (by simp)]
  congr 1

theorem mapM_proofDigest : ∀ l : List (Digest × Nat),
    (l.map (Prod.map (fun d => RideType.rideByteVector d.toList) id)).mapM
        (fun p => proofDigest p.1 p.2) = .ok (l.map Prod.fst)
  | [] => rfl
  | (d, i) :: l => by
    have hd : proofDigest (.rideByteVector d.toList) i = .ok d := by
      simp only [proofDigest, newDigestFromBytes_toList]
    simp only [List.map_cons, Prod.map, id, List.mapM_cons, hd, mapM_proofDigest l]
    rfl

theorem proofDigests_byteVectors (ds : List Digest) :
    proofDigests (ds.map fun d => .rideByteVector d.toList) = .ok ds.reverse := by
  rw [proofDigests, List.zipIdx_map, ← List.map_reverse, mapM_proofDigest, List.map_reverse,
    List.zipIdx_map_fst]

/-- **RIDE's `rebuildMerkleRoot` agrees with the block's transactions root**: for a tree built by
`Push` over any leaves, of padded height at most 16, and every index of a leaf, the native given
the leaf's digest, its audit path from the leaf up and the index returns the tree's `Root`. -/
theorem rebuildMerkleRoot_transactionsRoot (h : List UInt8 → Digest) (leaves : List (List UInt8))
    (index : Int64) (h0 : 0 ≤ index) (hi : index.toNatClampNeg < leaves.length)
    (h16 : Merkle.treeHeight leaves.length ≤ 16) :
    rebuildMerkleRoot h
        [.rideList ((Merkle.path (newMerkleTree h).nodeDigest zeroDigest
            (Merkle.treeHeight leaves.length) (leaves.map h) index.toNatClampNeg).reverse.map
              fun d => .rideByteVector d.toList),
          .rideByteVector (h leaves[index.toNatClampNeg]).toList, .rideInt index] =
      .ok (.rideByteVector (leaves.foldl MerkleTree.push (newMerkleTree h)).root.toList) := by
  obtain ⟨hnode, hinv⟩ := MerkleTree.foldl_push_new h leaves
  have hidx : index.toUInt64.toNat = index.toNatClampNeg := Int64.toNat_toUInt64_of_le h0
  have hi' : index.toUInt64.toNat < (leaves.map h).length := by
    rw [hidx, List.length_map]; exact hi
  have hpath := MerkleTree.rebuildRoot_path _ hinv index.toUInt64 hi'
  rw [MerkleTree.rebuildRoot_eq, hnode, ← MerkleTree.rebuildRoot_eq] at hpath
  simp only [List.length_map, List.getElem_map, hidx] at hpath
  have hlen : ¬((Merkle.path (newMerkleTree h).nodeDigest zeroDigest
      (Merkle.treeHeight leaves.length) (leaves.map h) index.toNatClampNeg).reverse.map
        fun d => RideType.rideByteVector d.toList).length > 16 := by
    simp only [List.length_map, List.length_reverse, Merkle.length_path]
    omega
  simp only [rebuildMerkleRoot, checkArgs, List.length_cons, List.length_nil, ne_eq,
    not_true_eq_false, if_false, hlen, proofDigests_byteVectors, List.reverse_reverse,
    newDigestFromBytes_toList, hpath]

theorem rebuildMerkleRoot_transactionsRoot_three :
    let h : List UInt8 → Digest := fun data => Vector.replicate 32 (data.foldl (· + ·) 0)
    let leaves : List (List UInt8) := [[1], [2], [3]]
    ∃ hi : (2 : Int64).toNatClampNeg < leaves.length,
      0 ≤ (2 : Int64) ∧ Merkle.treeHeight leaves.length ≤ 16 ∧
      rebuildMerkleRoot h
          [.rideList ((Merkle.path (newMerkleTree h).nodeDigest zeroDigest
              (Merkle.treeHeight leaves.length) (leaves.map h) (2 : Int64).toNatClampNeg).reverse.map
                fun d => .rideByteVector d.toList),
            .rideByteVector (h leaves[(2 : Int64).toNatClampNeg]).toList, .rideInt 2] =
        .ok (.rideByteVector (leaves.foldl MerkleTree.push (newMerkleTree h)).root.toList) :=
  ⟨by decide, by decide, by decide,
    rebuildMerkleRoot_transactionsRoot _ _ 2 (by decide) (by decide) (by decide)⟩

end FunctionsProto

end Gowaves.Ride
