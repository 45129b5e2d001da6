import Gowaves.Lib.Merkle

/-!
# The incremental Merkle tree (`pkg/crypto/merkle.go`)

`MerkleTree` computes the transactions root of a block: `Push` hashes a leaf and puts it on a
stack of perfect subtrees, joining the two top subtrees while they are of one height, so that
the stack is a binary counter of the leaves pushed; `Root` folds the stack from the top down,
lifting the running subtree with `ZeroDigest` siblings until it is as high as the next one, and
joins a single leaf with `ZeroDigest`.  `RebuildRoot` climbs from a leaf digest along an audit
path, the index's low bit at each level saying on which side the running digest goes.

## Model

Digests are 32 bytes; the hash (`blake2b-256`) is a parameter `h`, so every result holds for
every hash function.  The stack is Go's slice with its top (last element) first.  The abstract
tree is `Merkle.rootAt` over the leaf digests, with `nodeDigest` as the inner node and
`ZeroDigest` as the empty subtree at every level.

## Results

* `Inv` — the stack holds perfect subtrees over consecutive blocks of the leaves, strictly
  higher towards the bottom; `push_inv` — every `Push` keeps it;
* `root_eq` — from a stack with the invariant, `Root` is the padded root of the leaves;
* `rebuildRoot_eq` — `RebuildRoot` is the abstract climb `Merkle.rootOfPath` at the index;
* `root_paddedMerkle` — after any sequence of pushes into a fresh tree, `Root` is the padded
  root of the leaf digests, and the audit path of every leaf rebuilds it.
-/

set_option autoImplicit false

namespace Gowaves.Crypto

/-- `crypto.Digest`. -/
abbrev Digest := Vector UInt8 32

/-- `ZeroDigest`: the digest of an absent subtree, at every level. -/
def zeroDigest : Digest := ⟨#[
  0x03, 0x17, 0x0a, 0x2e, 0x75, 0x97, 0xb7, 0xb7, 0xe3, 0xd8, 0x4c, 0x05, 0x39, 0x1d, 0x13, 0x9a,
  0x62, 0xb1, 0x57, 0xe7, 0x87, 0x86, 0xd8, 0xc0, 0x82, 0xf2, 0x9d, 0xcf, 0x4c, 0x11, 0x13, 0x14],
  rfl⟩

/-- `subTree`: a perfect subtree of `2 ^ height` leaves, by its root. -/
structure SubTree where
  height : Nat
  digest : Digest

/-- `MerkleTree`: the hash and the stack of subtrees, top first. -/
structure MerkleTree where
  h : List UInt8 → Digest
  stack : List SubTree

/-- `NewMerkleTree`, over the hash `h`. -/
def newMerkleTree (h : List UInt8 → Digest) : MerkleTree := ⟨h, []⟩

namespace MerkleTree

variable (t : MerkleTree)

def leafDigest (data : List UInt8) : Digest := t.h data

/-- `nodeDigest`: the hash of the two digests written one after the other. -/
def nodeDigest (a b : Digest) : Digest := t.h (a.toList ++ b.toList)

def joinSubTrees (a b : SubTree) : SubTree := ⟨a.height + 1, t.nodeDigest a.digest b.digest⟩

/-- `joinAllSubTrees`, on the stack: while the two top subtrees are of one height, they are
replaced by their join, the older one on the left. -/
def joinAllSubTrees : List SubTree → List SubTree
  | b :: a :: rest =>
    if b.height = a.height then joinAllSubTrees (t.joinSubTrees a b :: rest) else b :: a :: rest
  | stack => stack
termination_by stack => stack.length

def push (data : List UInt8) : MerkleTree :=
  { t with stack := t.joinAllSubTrees (⟨0, t.leafDigest data⟩ :: t.stack) }

/-- The inner loop of `Root`: the running subtree is joined with `ZeroDigest` until it is `h`
high. -/
def lift (h : Nat) (current : SubTree) : SubTree :=
  if current.height < h then lift h (t.joinSubTrees current ⟨0, zeroDigest⟩) else current
termination_by h - current.height
decreasing_by simp only [joinSubTrees]; omega

/-- The outer loop of `Root`, over the subtrees below the top, from the top down. -/
def rootLoop (current : SubTree) : List SubTree → SubTree
  | [] => current
  | s :: rest => rootLoop (t.joinSubTrees s (t.lift s.height current)) rest

def root : Digest :=
  match t.stack with
  | [] => zeroDigest
  | [s] => if s.height = 0 then (t.joinSubTrees s ⟨0, zeroDigest⟩).digest else s.digest
  | s :: s' :: rest => (t.rootLoop s (s' :: rest)).digest

/-- One iteration of `RebuildRoot`'s loop, on the running digest and index. -/
def rebuildStep (acc : Digest × UInt64) (p : Digest) : Digest × UInt64 :=
  (if acc.2 % 2 = 0 then t.nodeDigest acc.1 p else t.nodeDigest p acc.1, acc.2 / 2)

/-- `RebuildRoot`: the proofs are given from the root down and read from the leaf up. -/
def rebuildRoot (leaf : Digest) (proofsRootToLeafsOrder : List Digest) (index : UInt64) :
    Digest :=
  (proofsRootToLeafsOrder.reverse.foldl t.rebuildStep (leaf, index)).1

@[simp] theorem push_h (data : List UInt8) : (t.push data).h = t.h := rfl

@[simp] theorem h_newMerkleTree (h : List UInt8 → Digest) : (newMerkleTree h).h = h := rfl

/-! ## The stack as a binary counter -/

/-- `Represents node stack ds`: the subtrees of `stack` are perfect trees over consecutive
blocks of `ds`, the top one over the last block. -/
inductive Represents (node : Digest → Digest → Digest) : List SubTree → List Digest → Prop
  | nil : Represents node [] []
  | cons {stack : List SubTree} {ds es : List Digest} (s : SubTree) :
      Represents node stack ds → es.length = 2 ^ s.height →
      s.digest = Merkle.rootAt node zeroDigest s.height es → Represents node (s :: stack) (ds ++ es)

/-- The invariant of the tree over the leaf digests `ds`: its stack represents them, with
heights strictly growing from the top down. -/
structure Inv (ds : List Digest) : Prop where
  represents : Represents t.nodeDigest t.stack ds
  ascending : t.stack.Pairwise (·.height < ·.height)

theorem inv_new (h : List UInt8 → Digest) : (newMerkleTree h).Inv [] :=
  ⟨.nil, List.Pairwise.nil⟩

theorem represents_nil {node : Digest → Digest → Digest} {ds : List Digest}
    (h : Represents node [] ds) : ds = [] := by
  cases h
  rfl

theorem joinAllSubTrees_cons_cons (a b : SubTree) (rest : List SubTree) :
    t.joinAllSubTrees (b :: a :: rest) =
      if b.height = a.height then t.joinAllSubTrees (t.joinSubTrees a b :: rest)
      else b :: a :: rest := by
  rw [joinAllSubTrees]

theorem joinAllSubTrees_singleton (s : SubTree) : t.joinAllSubTrees [s] = [s] := by
  rw [joinAllSubTrees]
  intro b a rest h
  simp at h

theorem joinSubTrees_perfect {a b : SubTree} {ea eb : List Digest} (hab : b.height = a.height)
    (hea : ea.length = 2 ^ a.height) (hda : a.digest = Merkle.rootAt t.nodeDigest zeroDigest a.height ea)
    (heb : eb.length = 2 ^ b.height) (hdb : b.digest = Merkle.rootAt t.nodeDigest zeroDigest b.height eb) :
    (ea ++ eb).length = 2 ^ (t.joinSubTrees a b).height ∧
      (t.joinSubTrees a b).digest =
        Merkle.rootAt t.nodeDigest zeroDigest (t.joinSubTrees a b).height (ea ++ eb) := by
  rw [hab] at heb hdb
  refine ⟨?_, ?_⟩
  · simp only [joinSubTrees, List.length_append, hea, heb, Nat.pow_succ]
    omega
  · simp only [joinSubTrees, Merkle.rootAt_append t.nodeDigest zeroDigest a.height eb hea, hda, hdb]

theorem joinAllSubTrees_inv : ∀ (rest : List SubTree) (top : SubTree) (ds : List Digest),
    Represents t.nodeDigest (top :: rest) ds → rest.Pairwise (·.height < ·.height) →
    (∀ s ∈ rest, top.height ≤ s.height) →
    Represents t.nodeDigest (t.joinAllSubTrees (top :: rest)) ds ∧
      (t.joinAllSubTrees (top :: rest)).Pairwise (·.height < ·.height)
  | [], top, ds, hrep, _, _ => by
    rw [joinAllSubTrees_singleton]
    exact ⟨hrep, List.pairwise_singleton _ _⟩
  | a :: rest, top, ds, hrep, hasc, hle => by
    rw [joinAllSubTrees_cons_cons]
    obtain ⟨ha, hasc'⟩ := List.pairwise_cons.mp hasc
    split
    · rename_i heq
      rcases hrep with _ | ⟨_, hrep', het, hdt⟩
      rcases hrep' with _ | ⟨_, hrest, hea, hda⟩
      obtain ⟨hlen, hdig⟩ := t.joinSubTrees_perfect heq hea hda het hdt
      have hrep'' := Represents.cons (t.joinSubTrees a top) hrest hlen hdig
      rw [List.append_assoc]
      exact joinAllSubTrees_inv rest _ _ hrep'' hasc'
        (fun s hs => by simp only [joinSubTrees]; exact ha s hs)
    · rename_i hne
      have htop : top.height < a.height := lt_of_le_of_ne (hle a (by simp)) hne
      refine ⟨hrep, List.pairwise_cons.mpr ⟨?_, hasc⟩⟩
      intro s hs
      rcases List.mem_cons.mp hs with rfl | hs
      · exact htop
      · exact lt_trans htop (ha s hs)

/-- **`Push` keeps the invariant**, with the new leaf's digest at the end of the leaves. -/
theorem push_inv {ds : List Digest} (hinv : t.Inv ds) (data : List UInt8) :
    (t.push data).Inv (ds ++ [t.leafDigest data]) := by
  have hleaf : Represents t.nodeDigest (⟨0, t.leafDigest data⟩ :: t.stack)
      (ds ++ [t.leafDigest data]) :=
    Represents.cons _ hinv.represents rfl rfl
  obtain ⟨hrep, hasc⟩ :=
    t.joinAllSubTrees_inv t.stack _ _ hleaf hinv.ascending (fun _ _ => Nat.zero_le _)
  exact ⟨hrep, hasc⟩

theorem foldl_push_inv : ∀ (leaves : List (List UInt8)) (t : MerkleTree) (ds : List Digest),
    t.Inv ds → (leaves.foldl push t).h = t.h ∧ (leaves.foldl push t).Inv (ds ++ leaves.map t.h)
  | [], t, ds, hinv => ⟨rfl, by simpa using hinv⟩
  | data :: leaves, t, ds, hinv => by
    obtain ⟨hh, hinv'⟩ := foldl_push_inv leaves (t.push data) _ (t.push_inv hinv data)
    refine ⟨hh, ?_⟩
    simpa [leafDigest] using hinv'

/-! ## `Root` -/

/-- The running subtree of `Root` over the leaves `ys`: they are not empty, and they fit in its
`2 ^ height` slots. -/
structure Covers (c : SubTree) (ys : List Digest) : Prop where
  ne_nil : ys ≠ []
  length_le : ys.length ≤ 2 ^ c.height
  digest_eq : c.digest = Merkle.rootAt t.nodeDigest zeroDigest c.height ys

theorem lift_covers (h : Nat) (c : SubTree) (ys : List Digest) (hc : t.Covers c ys)
    (hh : c.height ≤ h) : (t.lift h c).height = h ∧ t.Covers (t.lift h c) ys := by
  induction c using lift.induct t h with
  | case1 c hlt ih =>
    rw [lift, if_pos hlt]
    have hc' : t.Covers (t.joinSubTrees c ⟨0, zeroDigest⟩) ys := by
      refine ⟨hc.ne_nil, ?_, ?_⟩
      · simp only [joinSubTrees, Nat.pow_succ]
        have := hc.length_le
        omega
      · simp only [joinSubTrees, hc.digest_eq]
        rw [Merkle.rootAt_succ_of_length_le t.nodeDigest zeroDigest c.height hc.ne_nil hc.length_le]
    exact ih hc' (by simp only [joinSubTrees]; omega)
  | case2 c hge =>
    rw [lift, if_neg hge]
    exact ⟨by omega, hc⟩

theorem joinSubTrees_lift_covers {s c : SubTree} {es ys : List Digest}
    (hes : es.length = 2 ^ s.height)
    (hds : s.digest = Merkle.rootAt t.nodeDigest zeroDigest s.height es) (hc : t.Covers c ys)
    (hh : c.height ≤ s.height) :
    (t.joinSubTrees s (t.lift s.height c)).height = s.height + 1 ∧
      t.Covers (t.joinSubTrees s (t.lift s.height c)) (es ++ ys) ∧
      2 ^ s.height < (es ++ ys).length := by
  obtain ⟨hlh, hlc⟩ := t.lift_covers s.height c ys hc hh
  have hys : 0 < ys.length := List.length_pos_iff.mpr hc.ne_nil
  have hyle : ys.length ≤ 2 ^ s.height :=
    le_trans hc.length_le (Nat.pow_le_pow_right (by omega) hh)
  refine ⟨rfl, ⟨?_, ?_, ?_⟩, ?_⟩
  · simp [hc.ne_nil]
  · simp only [joinSubTrees, List.length_append, hes, Nat.pow_succ]
    omega
  · simp only [joinSubTrees, Merkle.rootAt_append t.nodeDigest zeroDigest s.height ys hes, hds,
      hlc.digest_eq, hlh]
  · simp only [List.length_append, hes]
    omega

theorem rootLoop_digest : ∀ (rest : List SubTree) (ds : List Digest) (c : SubTree)
    (ys : List Digest), rest ≠ [] → Represents t.nodeDigest rest ds →
    rest.Pairwise (·.height < ·.height) → t.Covers c ys → (∀ s ∈ rest, c.height ≤ s.height) →
    (t.rootLoop c rest).digest = Merkle.root t.nodeDigest zeroDigest (ds ++ ys)
  | [], _, _, _, hne, _, _, _, _ => absurd rfl hne
  | s :: rest, _, c, ys, _, @Represents.cons _ _ ds es _ hrest hes hds, hasc, hc, hle => by
    obtain ⟨hh, hc', hlo⟩ := t.joinSubTrees_lift_covers hes hds hc (hle s (by simp))
    obtain ⟨hs, hasc'⟩ := List.pairwise_cons.mp hasc
    rw [rootLoop, List.append_assoc]
    rcases rest with _ | ⟨s', rest⟩
    · rw [represents_nil hrest, List.nil_append, rootLoop, hc'.digest_eq, hh, Merkle.root,
        Merkle.treeHeight_eq_succ hlo (hh ▸ hc'.length_le)]
    · exact rootLoop_digest (s' :: rest) ds _ (es ++ ys) (by simp) hrest hasc' hc'
        (fun u hu => by rw [hh]; exact hs u hu)

/-- **`Root` is the padded root of the leaves** that the stack represents. -/
theorem root_eq {ds : List Digest} (hinv : t.Inv ds) :
    t.root = Merkle.root t.nodeDigest zeroDigest ds := by
  obtain ⟨hrep, hasc⟩ := hinv
  unfold root
  generalize t.stack = stack at hrep hasc ⊢
  rcases hrep with _ | ⟨s, hrest, hes, hds⟩
  · simp [Merkle.root]
  rename_i below ds es
  rcases below with _ | ⟨s', rest⟩
  · -- one perfect subtree: a single leaf is joined with `ZeroDigest`, a larger one is the tree
    rw [represents_nil hrest, List.nil_append]
    dsimp only
    split
    · rename_i h0
      obtain ⟨d, rfl⟩ : ∃ d, es = [d] := List.length_eq_one_iff.mp (by simp [hes, h0])
      have hd : s.digest = d := by rw [hds, h0]; rfl
      simp only [joinSubTrees, hd, Merkle.root, List.length_singleton, Merkle.treeHeight_one]
      rw [Merkle.rootAt_succ_of_length_le t.nodeDigest zeroDigest 0 (List.cons_ne_nil d [])
        (by simp), Merkle.rootAt_singleton_zero]
    · rename_i h0
      rw [Merkle.root, hes, Merkle.treeHeight_pow (by omega), hds]
  · dsimp only
    have hpos : 0 < es.length := by rw [hes]; exact Nat.two_pow_pos _
    obtain ⟨hs, hasc'⟩ := List.pairwise_cons.mp hasc
    exact t.rootLoop_digest (s' :: rest) ds s es (by simp) hrest hasc'
      ⟨List.ne_nil_of_length_pos hpos, le_of_eq hes, hds⟩ (fun u hu => le_of_lt (hs u hu))

/-! ## `RebuildRoot` -/

theorem foldr_rebuildStep (leaf : Digest) (index : UInt64) : ∀ ps : List Digest,
    (ps.foldr (fun p acc => t.rebuildStep acc p) (leaf, index)).1 =
        Merkle.rootOfPath t.nodeDigest leaf ps index.toNat ∧
      (ps.foldr (fun p acc => t.rebuildStep acc p) (leaf, index)).2.toNat =
        index.toNat / 2 ^ ps.length
  | [] => ⟨rfl, by simp⟩
  | p :: ps => by
    obtain ⟨h1, h2⟩ := foldr_rebuildStep leaf index ps
    -- the index halves at every level, so its low bit here is the bit of the level
    have hbit : (ps.foldr (fun p acc => t.rebuildStep acc p) (leaf, index)).2 % 2 = 0 ↔
        index.toNat / 2 ^ ps.length % 2 = 0 := by
      simp [← UInt64.toNat_inj, UInt64.toNat_mod, h2]
    rw [List.foldr_cons]
    generalize ps.foldr (fun p acc => t.rebuildStep acc p) (leaf, index) = acc at h1 h2 hbit
    refine ⟨?_, ?_⟩
    · simp only [rebuildStep, Merkle.rootOfPath, h1, hbit]
    · simp only [rebuildStep, UInt64.toNat_div, h2, List.length_cons, Nat.pow_succ,
        Nat.div_div_eq_div_mul]
      rfl

/-- **`RebuildRoot` climbs the audit path** as `Merkle.rootOfPath` does, at the index's value. -/
theorem rebuildRoot_eq (leaf : Digest) (ps : List Digest) (index : UInt64) :
    t.rebuildRoot leaf ps index = Merkle.rootOfPath t.nodeDigest leaf ps index.toNat := by
  rw [rebuildRoot, List.foldl_reverse]
  exact (t.foldr_rebuildStep leaf index ps).1

theorem rebuildRoot_path {ds : List Digest} (hinv : t.Inv ds) (i : UInt64)
    (hi : i.toNat < ds.length) :
    t.rebuildRoot ds[i.toNat]
        (Merkle.path t.nodeDigest zeroDigest (Merkle.treeHeight ds.length) ds i.toNat) i =
      t.root := by
  rw [rebuildRoot_eq, t.root_eq hinv, Merkle.root]
  exact Merkle.rootOfPath_path _ _ _ _ _ hi (Merkle.le_pow_treeHeight _)

/-! ## The tree of a block -/

theorem foldl_push_new (h : List UInt8 → Digest) (leaves : List (List UInt8)) :
    (leaves.foldl push (newMerkleTree h)).nodeDigest = (newMerkleTree h).nodeDigest ∧
      (leaves.foldl push (newMerkleTree h)).Inv (leaves.map h) := by
  obtain ⟨hh, hinv⟩ := foldl_push_inv leaves (newMerkleTree h) [] (inv_new h)
  refine ⟨?_, by simpa using hinv⟩
  funext a b
  simp only [nodeDigest, hh]

/-- **The incremental tree computes the padded Merkle root, and its audit paths verify**: after
pushing any leaves into a fresh tree, `Root` is the padded root of their digests (empty
subtrees are `ZeroDigest` at every level), and for every index `i` below the number of leaves,
`RebuildRoot` of leaf `i`'s digest along its audit path, at `i`, gives `Root` again. -/
theorem root_paddedMerkle (h : List UInt8 → Digest) (leaves : List (List UInt8)) :
    (leaves.foldl push (newMerkleTree h)).root =
        Merkle.root (newMerkleTree h).nodeDigest zeroDigest (leaves.map h) ∧
      ∀ (i : UInt64) (hi : i.toNat < leaves.length),
        (leaves.foldl push (newMerkleTree h)).rebuildRoot (h leaves[i.toNat])
            (Merkle.path (newMerkleTree h).nodeDigest zeroDigest
              (Merkle.treeHeight leaves.length) (leaves.map h) i.toNat) i =
          (leaves.foldl push (newMerkleTree h)).root := by
  obtain ⟨hnode, hinv⟩ := foldl_push_new h leaves
  refine ⟨by rw [root_eq _ hinv, hnode], fun i hi => ?_⟩
  have hi' : i.toNat < (leaves.map h).length := by rw [List.length_map]; exact hi
  have hpath := rebuildRoot_path _ hinv i hi'
  rw [hnode, List.length_map, List.getElem_map] at hpath
  exact hpath

theorem root_paddedMerkle_three :
    let h : List UInt8 → Digest := fun data => Vector.replicate 32 (data.foldl (· + ·) 0)
    let leaves : List (List UInt8) := [[1], [2], [3]]
    ∃ hi : (2 : UInt64).toNat < leaves.length,
      (leaves.foldl push (newMerkleTree h)).rebuildRoot (h leaves[(2 : UInt64).toNat])
          (Merkle.path (newMerkleTree h).nodeDigest zeroDigest (Merkle.treeHeight leaves.length)
            (leaves.map h) (2 : UInt64).toNat) 2 =
        (leaves.foldl push (newMerkleTree h)).root :=
  ⟨by decide, (root_paddedMerkle _ _).2 2 _⟩

end MerkleTree

end Gowaves.Crypto
