import Mathlib.Data.Nat.Log
import Mathlib.Algebra.Group.Nat.Defs

/-!
# Padded binary Merkle trees and their audit paths

A binary Merkle tree over a list of leaf digests, padded on the right up to a power of two: a
subtree with no leaves in it, at any level, is the empty digest `zero`, and an inner node
combines its two children with `node`.  Nothing here fixes the hash: `node` and `zero` are
parameters, so the results hold for every hash function.

* `rootAt h ds` — the root of the subtree of height `h` over the leaves `ds`;
* `treeHeight n` and `root ds` — the smallest height `≥ 1` whose `2 ^ h` leaves hold `n`, and
  the root of the tree of that height;
* `path h ds i` — the audit path of leaf `i`, its siblings from the root down;
* `rootOfPath d ps i` — the root an audit path leads to from the leaf digest `d`, the bit of `i`
  at each level saying on which side the running digest goes.

Results: `rootAt_append` — a tree whose left half is full splits at the boundary;
`rootAt_succ_of_length_le` — a tree that fits in its left half is that half joined with `zero`;
`treeHeight_eq_succ`, `treeHeight_pow` and `le_pow_treeHeight` — the height of the padded tree; `rootOfPath_mod` —
a path reads only the low bits of the index; `rootOfPath_path` — every audit path leads back to
the root.
-/

set_option autoImplicit false

namespace Merkle

section Tree

variable {α : Type*} (node : α → α → α) (zero : α)

/-- The root of the subtree of height `h` over `ds` (at most `2 ^ h` leaves), padded on the
right: a subtree with no leaves is `zero`. -/
def rootAt : Nat → List α → α
  | _, [] => zero
  | 0, d :: _ => d
  | h + 1, d :: ds => node (rootAt h ((d :: ds).take (2 ^ h))) (rootAt h ((d :: ds).drop (2 ^ h)))

/-- The height of the padded tree over `n` leaves: the least `h ≥ 1` with `n ≤ 2 ^ h`. -/
def treeHeight (n : Nat) : Nat := max 1 (Nat.clog 2 n)

/-- The root of the padded tree over the leaves `ds`. -/
def root (ds : List α) : α := rootAt node zero (treeHeight ds.length) ds

/-- The audit path of leaf `i` in the subtree of height `h` over `ds`: the sibling at each
level, from the root down. -/
def path : Nat → List α → Nat → List α
  | 0, _, _ => []
  | h + 1, ds, i =>
    if i < 2 ^ h then rootAt node zero h (ds.drop (2 ^ h)) :: path h (ds.take (2 ^ h)) i
    else rootAt node zero h (ds.take (2 ^ h)) :: path h (ds.drop (2 ^ h)) (i - 2 ^ h)

/-- The root an audit path `ps` (siblings from the root down) leads to from the leaf digest
`d` at index `i`. -/
def rootOfPath (d : α) : List α → Nat → α
  | [], _ => d
  | p :: ps, i =>
    if i / 2 ^ ps.length % 2 = 0 then node (rootOfPath d ps i) p else node p (rootOfPath d ps i)

@[simp] theorem rootAt_nil (h : Nat) : rootAt node zero h [] = zero := by
  cases h <;> rfl

@[simp] theorem rootAt_singleton_zero (d : α) : rootAt node zero 0 [d] = d := rfl

theorem rootAt_succ (h : Nat) {ds : List α} (hne : ds ≠ []) :
    rootAt node zero (h + 1) ds =
      node (rootAt node zero h (ds.take (2 ^ h))) (rootAt node zero h (ds.drop (2 ^ h))) := by
  obtain ⟨d, ds, rfl⟩ := List.exists_cons_of_ne_nil hne
  rfl

/-- A tree whose left half is full is the node of the two halves. -/
theorem rootAt_append (h : Nat) {es : List α} (ys : List α) (hes : es.length = 2 ^ h) :
    rootAt node zero (h + 1) (es ++ ys) = node (rootAt node zero h es) (rootAt node zero h ys) := by
  have hne : es ++ ys ≠ [] := by
    intro he
    have := congrArg List.length he
    simp only [List.length_append, List.length_nil] at this
    have := Nat.two_pow_pos h
    omega
  rw [rootAt_succ node zero h hne, List.take_left' hes, List.drop_left' hes]

/-- **Padding one level up**: leaves that fit in the left half leave the right half empty. -/
theorem rootAt_succ_of_length_le (h : Nat) {ds : List α} (hne : ds ≠ [])
    (hle : ds.length ≤ 2 ^ h) : rootAt node zero (h + 1) ds = node (rootAt node zero h ds) zero := by
  rw [rootAt_succ node zero h hne, List.take_of_length_le hle, List.drop_of_length_le hle,
    rootAt_nil]

/-! ## The height of the padded tree -/

/-- Between two consecutive powers of two the tree is one level above the lower one. -/
theorem treeHeight_eq_succ {n h : Nat} (hlo : 2 ^ h < n) (hhi : n ≤ 2 ^ (h + 1)) :
    treeHeight n = h + 1 := by
  have hle : Nat.clog 2 n ≤ h + 1 := Nat.clog_le_of_le_pow hhi
  have hlt : h < Nat.clog 2 n := (Nat.lt_clog_iff_pow_lt (by omega)).mpr hlo
  unfold treeHeight
  omega

/-- A power of two `2 ^ h` with `h ≥ 1` fills the tree of height `h` exactly. -/
theorem treeHeight_pow {h : Nat} (hh : 1 ≤ h) : treeHeight (2 ^ h) = h := by
  unfold treeHeight
  rw [Nat.clog_pow 2 h (by omega)]
  omega

theorem treeHeight_one : treeHeight 1 = 1 := by
  simp [treeHeight, Nat.clog_one_right]

/-- The padded tree has room for all the leaves. -/
theorem le_pow_treeHeight (n : Nat) : n ≤ 2 ^ treeHeight n :=
  le_trans (Nat.le_pow_clog (by omega) n) (Nat.pow_le_pow_right (by omega) (le_max_right 1 _))

/-! ## Audit paths -/

@[simp] theorem length_path : ∀ (h : Nat) (ds : List α) (i : Nat),
    (path node zero h ds i).length = h
  | 0, _, _ => rfl
  | h + 1, ds, i => by
    unfold path
    split <;> simp [length_path h]

/-- A path of `k` levels reads only the low `k` bits of the index. -/
theorem rootOfPath_mod (d : α) : ∀ (ps : List α) {i j : Nat},
    i % 2 ^ ps.length = j % 2 ^ ps.length → rootOfPath node d ps i = rootOfPath node d ps j
  | [], _, _, _ => rfl
  | p :: ps, i, j, hij => by
    have hk : 2 ^ (p :: ps).length = 2 ^ ps.length * 2 := by
      simp [List.length_cons, Nat.pow_succ]
    rw [hk] at hij
    have hbit : i / 2 ^ ps.length % 2 = j / 2 ^ ps.length % 2 := by
      rw [← Nat.mod_mul_right_div_self, ← Nat.mod_mul_right_div_self, hij]
    have hlow : i % 2 ^ ps.length = j % 2 ^ ps.length := by
      rw [← Nat.mod_mul_right_mod i (2 ^ ps.length) 2, ← Nat.mod_mul_right_mod j (2 ^ ps.length) 2,
        hij]
    simp only [rootOfPath, hbit, rootOfPath_mod d ps hlow]

/-- **Every audit path leads back to the root**: from leaf `i` of a tree of height `h` over
`ds`, the siblings of `path h ds i` rebuild `rootAt h ds`. -/
theorem rootOfPath_path : ∀ (h : Nat) (ds : List α) (i : Nat) (hi : i < ds.length),
    ds.length ≤ 2 ^ h → rootOfPath node ds[i] (path node zero h ds i) i = rootAt node zero h ds
  | 0, ds, i, hi, hle => by
    obtain ⟨d, rfl⟩ : ∃ d, ds = [d] := List.length_eq_one_iff.mp (by simp at hle; omega)
    obtain rfl : i = 0 := by simp at hi; omega
    rfl
  | h + 1, ds, i, hi, hle => by
    have hne : ds ≠ [] := List.ne_nil_of_length_pos (by omega)
    have hpow : 2 ^ (h + 1) = 2 ^ h * 2 := by rw [Nat.pow_succ]
    rw [rootAt_succ node zero h hne]
    unfold path
    split
    · rename_i hleft
      have hbit : i / 2 ^ h = 0 := Nat.div_eq_of_lt hleft
      have hit : i < (ds.take (2 ^ h)).length := by simp; omega
      have ih := rootOfPath_path h (ds.take (2 ^ h)) i hit (by simp only [List.length_take]; omega)
      simp only [List.getElem_take] at ih
      simp only [rootOfPath, length_path, hbit, Nat.zero_mod, if_true, ih]
    · rename_i hright
      have hbit : i / 2 ^ h = 1 :=
        Nat.div_eq_of_lt_le (by omega) (by omega)
      have hit : i - 2 ^ h < (ds.drop (2 ^ h)).length := by simp; omega
      have ih := rootOfPath_path h (ds.drop (2 ^ h)) (i - 2 ^ h) hit (by simp; omega)
      have hget : (ds.drop (2 ^ h))[i - 2 ^ h] = ds[i] := by
        simp only [List.getElem_drop]
        congr 1
        omega
      rw [hget] at ih
      -- the levels below read the index modulo `2 ^ h`, where `i` and `i - 2 ^ h` agree
      have hmod : rootOfPath node ds[i] (path node zero h (ds.drop (2 ^ h)) (i - 2 ^ h)) i =
          rootOfPath node ds[i] (path node zero h (ds.drop (2 ^ h)) (i - 2 ^ h)) (i - 2 ^ h) :=
        rootOfPath_mod node ds[i] _ (by rw [length_path, Nat.mod_eq_sub_mod (by omega)])
      simp only [rootOfPath, length_path, hbit, Nat.one_mod, Nat.one_ne_zero, if_false, hmod, ih]

end Tree

end Merkle
