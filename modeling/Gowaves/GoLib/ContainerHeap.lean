import Mathlib.Data.List.FinRange
import Mathlib.Logic.Equiv.Basic
import Gowaves.GoLib.Outcome

/-!
# Go's container/heap

The algorithms of the package over `heap.Interface`: `Push`, `Pop` and `Remove`, with the sifts
`up` and `down`.  An implementation of the interface is a state `σ` with `Len`, `Less`, `Swap`
and its own `Push` and `Pop`; the package reads and changes the state only through them.  The
loops of `up` and `down` are well-founded recursions on the position they move, which is how
the Go loops end.  `exchange` is the `a[i], a[j] = a[j], a[i]` that a `Swap` on a slice does.

Results: `exchange_perm` and `drop_exchange`, and the induction rules `up_induction`, `down_induction`,
`pop_induction` and `remove_induction` — a property that every `Swap` below a bound keeps holds
of the state the package hands to the implementation's `Pop`.
-/

set_option autoImplicit false

namespace GoLib.ContainerHeap

open GoLib

section Exchange

variable {α : Type}

/-- `a[i], a[j] = a[j], a[i]` on a slice.  Out of range Go panics; the model leaves the slice
as it is, and the heap calls it in range only. -/
def exchange (l : List α) (i j : Nat) : List α :=
  match l[i]?, l[j]? with
  | some a, some b => (l.set i b).set j a
  | _, _ => l

theorem exchange_of_lt {l : List α} {i j : Nat} (hi : i < l.length) (hj : j < l.length) :
    exchange l i j = (l.set i l[j]).set j l[i] := by
  simp [exchange, List.getElem?_eq_getElem hi, List.getElem?_eq_getElem hj]

theorem exchange_of_not_lt {l : List α} {i j : Nat} (h : ¬ (i < l.length ∧ j < l.length)) :
    exchange l i j = l := by
  unfold exchange
  split
  · rename_i a b ha hb
    exact absurd ⟨(List.getElem?_eq_some_iff.1 ha).1, (List.getElem?_eq_some_iff.1 hb).1⟩ h
  · rfl

@[simp] theorem length_exchange (l : List α) (i j : Nat) : (exchange l i j).length = l.length := by
  unfold exchange
  split <;> simp

theorem getElem?_exchange (l : List α) {i j : Nat} (hi : i < l.length) (hj : j < l.length) (k : Nat) :
    (exchange l i j)[k]? = if k = j then l[i]? else if k = i then l[j]? else l[k]? := by
  rw [exchange_of_lt hi hj]
  by_cases hkj : k = j
  · subst hkj; simp [hj, hi]
  · by_cases hki : k = i
    · subst hki; simp [hkj, Ne.symm hkj, hi]
    · simp [Ne.symm hkj, Ne.symm hki, hkj, hki]

theorem exchange_perm (l : List α) (i j : Nat) : (exchange l i j).Perm l := by
  by_cases h : i < l.length ∧ j < l.length
  · obtain ⟨hi, hj⟩ := h
    let e := Equiv.swap (⟨i, hi⟩ : Fin l.length) ⟨j, hj⟩
    have hfn : exchange l i j = List.ofFn (fun k : Fin l.length => l[(e k : Nat)]) := by
      apply List.ext_getElem?
      intro k
      rw [getElem?_exchange l hi hj, List.getElem?_ofFn]
      by_cases hk : k < l.length
      · simp only [hk, dite_true, e, Equiv.swap_apply_def]
        by_cases hkj : k = j
        · subst hkj; by_cases hki : k = i <;> simp [hi, hki]
        · by_cases hki : k = i
          · subst hki; simp [hj, hkj]
          · simp [hk, hkj, hki, Fin.ext_iff]
      · simp only [hk, dite_false]
        have : l.length ≤ k := Nat.le_of_not_lt hk
        split_ifs <;> simp_all
    rw [hfn]
    exact (e.ofFn_comp_perm (fun k : Fin l.length => l[(k : Nat)])).trans (by rw [List.ofFn_getElem])
  · rw [exchange_of_not_lt h]

/-- An exchange below `m` leaves the slice from `m` on alone. -/
theorem drop_exchange {l : List α} {i j m : Nat} (hi : i < m) (hj : j < m) :
    (exchange l i j).drop m = l.drop m := by
  by_cases hl : i < l.length ∧ j < l.length
  · apply List.ext_getElem?
    intro k
    rw [List.getElem?_drop, List.getElem?_drop, getElem?_exchange l hl.1 hl.2]
    simp only [show m + k ≠ j by omega, show m + k ≠ i by omega, if_false]
  · rw [exchange_of_not_lt hl]

end Exchange

/-- `heap.Interface`: `sort.Interface` and the implementation's own `Push` and `Pop`, as
functions of the state `σ` that holds the collection.  Elements pushed and popped are of type
`α`; an implementation's `Push` may panic, so it returns an `Outcome`. -/
structure Interface (σ α ε : Type) where
  len : σ → Nat
  less : σ → Nat → Nat → Bool
  swap : σ → Nat → Nat → σ
  push : σ → α → Outcome ε σ
  pop : σ → σ × Option α

variable {σ α ε : Type} (h : Interface σ α ε)

/-- `up(h, j)`: while the element at `j` is less than its parent, swap the two.  `(j - 1) / 2`
is the parent; at `j = 0` it is `0` in Go's truncating division as in `Nat`'s, and the loop
stops. -/
def up (s : σ) (j : Nat) : σ :=
  let i := (j - 1) / 2
  if i = j ∨ h.less s j i = false then s else up (h.swap s i j) i
termination_by j
decreasing_by omega

/-- The loop of `down(h, i0, n)`, from position `i`: while the lesser child (the right one only
when it exists and is less than the left) is less than the element at `i`, swap the two.  It
returns the state and the position the element ended at.  Go also stops when `2*i + 1`
overflows, which no `Nat` does. -/
def downFrom (s : σ) (i n : Nat) : σ × Nat :=
  let j1 := 2 * i + 1
  if hj1 : n ≤ j1 then (s, i) else
    let j := if j1 + 1 < n ∧ h.less s (j1 + 1) j1 = true then j1 + 1 else j1
    if h.less s j i = false then (s, i) else downFrom (h.swap s i j) j n
termination_by n - i
decreasing_by split <;> omega

/-- `down(h, i0, n)`: the state, and whether the element at `i0` moved. -/
def down (s : σ) (i0 n : Nat) : σ × Bool :=
  let r := downFrom h s i0 n
  (r.1, decide (i0 < r.2))

/-- `heap.Push(h, x)`. -/
def push (s : σ) (x : α) : Outcome ε σ := do
  let s ← h.push s x
  pure (up h s (h.len s - 1))

/-- `heap.Pop(h)`, for a non-empty heap: on an empty one Go's `Swap(0, -1)` panics, and the
callers check `Len()` first. -/
def pop (s : σ) : σ × Option α :=
  let n := h.len s - 1
  h.pop (down h (h.swap s 0 n) 0 n).1

/-- `heap.Remove(h, i)`. -/
def remove (s : σ) (i : Nat) : σ × Option α :=
  let n := h.len s - 1
  if n = i then h.pop s
  else
    let r := down h (h.swap s i n) i n
    h.pop (if r.2 then r.1 else up h r.1 i)

/-! ## Induction rules

The package changes the state only by `Swap`s, between the implementation's `Push` and `Pop`.
A property that every `Swap` below a bound keeps therefore survives a sift that stays below
it: `up` from `j` swaps only positions up to `j`, `down` with bound `n` only positions below
`n`. -/

/-- `P` is kept by every `Swap` of two positions below `m`. -/
def SwapStable (P : σ → Prop) (m : Nat) : Prop :=
  ∀ s i j, i < m → j < m → P s → P (h.swap s i j)

variable {h} {P : σ → Prop}

theorem up_induction {m : Nat} (hP : SwapStable h P m) (s : σ) (j : Nat) (hj : j < m)
    (hs : P s) : P (up h s j) := by
  fun_induction up h s j with
  | case1 s j i hij => exact hs
  | case2 s j i hij ih => exact ih (by omega) (hP s i j (by omega) hj hs)

theorem downFrom_induction {n : Nat} (hP : SwapStable h P n) (s : σ) (i : Nat) (hs : P s) :
    P (downFrom h s i n).1 := by
  fun_induction downFrom h s i n with
  | case1 s i j1 hj1 => exact hs
  | case2 s i j1 hj1 j hless => exact hs
  | case3 s i j1 hj1 j hless ih =>
    apply ih
    apply hP s i j (by omega) _ hs
    simp only [j]
    split <;> omega

theorem down_induction {n : Nat} (hP : SwapStable h P n) (s : σ) (i0 : Nat) (hs : P s) :
    P (down h s i0 n).1 :=
  downFrom_induction hP s i0 hs

/-- `heap.Pop` hands the implementation's `Pop` a state that `P` holds of, when `P` holds after
the first `Swap` and every later `Swap` keeps it. -/
theorem pop_induction (s : σ) (hP : SwapStable h P (h.len s - 1))
    (hs : P (h.swap s 0 (h.len s - 1))) : ∃ s', P s' ∧ pop h s = h.pop s' :=
  ⟨_, down_induction hP _ 0 hs, rfl⟩

/-- `heap.Remove(h, i)` likewise, for the `Swap` of `i` with the last position when they
differ, and for the state itself when `i` is the last. -/
theorem remove_induction (s : σ) {i : Nat} (hi : i < h.len s) (hP : SwapStable h P (h.len s - 1))
    (hlast : i = h.len s - 1 → P s) (hswap : i ≠ h.len s - 1 → P (h.swap s i (h.len s - 1))) :
    ∃ s', P s' ∧ remove h s i = h.pop s' := by
  unfold remove
  dsimp only
  split
  · rename_i heq
    exact ⟨s, hlast heq.symm, rfl⟩
  · rename_i hne
    have hd := down_induction hP _ i (hswap (Ne.symm hne))
    refine ⟨_, ?_, rfl⟩
    split
    · exact hd
    · exact up_induction hP _ i (by omega) hd

end GoLib.ContainerHeap
