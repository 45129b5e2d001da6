import Gowaves.GoLib.ContainerHeap
import Gowaves.GoLib.GoMap
import Gowaves.Proto.Header
import Mathlib.Data.List.Nodup
import Mathlib.Algebra.Order.BigOperators.Group.List

/-!
# The UTX pool (`pkg/miner/utxpool/pool.go`)

`UtxImpl` keeps the unconfirmed transactions in three places that have to move together: the
heap `transactions` of `*heapItem` ordered by fee per byte (each item records its position in
`index`), the set `transactionIds`, and the byte counter `curSize` under `sizeLimit`.

The heap is `container/heap` over `transactionsHeap` (`GoLib.ContainerHeap`).  Its items are
pointers, and `Swap`, `Push` and `Pop` write the `index` of the item they move, so the model
keeps the memory the pointers point into beside the slice (`TransactionsHeap`).  Of a
`proto.Transaction` the pool reads its ID and its fee.

`addWithBytesOptValidation` and `Pop` update all three places; `Clean` calls `heap.Remove`
only.  The consistency of the three is `UtxImpl.Consistent`.

Results:

* `remove_spec` and `pop_spec`: `heap.Remove` takes out exactly the item at the position it is
  given, `heap.Pop` some item, and both keep every other item's `index` equal to its position;
* `addWithBytesOptValidation_consistent` and `pop_consistent`: adding and popping keep the pool
  consistent, and `pop_addWithBytesRaw`: what `Pop` returns can be added again;
* `clean_keepsDroppedIds`: after `Clean` drops a transaction its ID is still in
  `transactionIds` and its bytes still in `curSize`, so the pool is no longer consistent and
  the transaction cannot be added again.

`Clean` releases the lock while it runs the predicate; the model runs it as one step.  The
`GetID` and `NewDigestFromBytes` failures, which no transaction type produces once its ID is
generated, are not modelled.
-/

set_option autoImplicit false

namespace Gowaves.Utxpool

open GoLib GoLib.ContainerHeap

/-- What the pool reads of a `proto.Transaction`: the ID that `GetID` returns once `GenerateID`
has run, and `GetFee()`. -/
structure Transaction where
  id : Proto.Digest
  fee : Nat
  deriving DecidableEq, Inhabited

/-- `types.TransactionWithBytes`. -/
structure TransactionWithBytes where
  t : Transaction
  b : List UInt8
  deriving DecidableEq, Inhabited

/-- `heapItem`: `index` is the item's position in the heap, `-1` when it is in none. -/
structure HeapItem where
  tx : TransactionWithBytes
  index : Int
  deriving DecidableEq, Inhabited

/-- The errors of `Add`, `AddWithBytes` and `AddWithBytesRaw`. -/
inductive UtxError where
  /-- `failed to put transaction to UTX: ` and the marshalling error. -/
  | marshal (err : String)
  /-- `transaction with empty bytes`. -/
  | emptyBytes
  /-- `size overflow, curSize: %d, limit: %d`. -/
  | sizeOverflow (curSize limit : UInt64)
  /-- `transaction with id %s exists`, the ID in base58, as a `proto.InfoMsg`. -/
  | txExists (id : Proto.Digest)
  /-- `transaction with id %s failed validation: ` and the validator's error. -/
  | failedValidation (id : Proto.Digest) (err : String)
  deriving DecidableEq

/-! ## Memory -/

/-- `*p`: the item at address `p`. -/
def deref (mem : List HeapItem) (p : Nat) : HeapItem := mem.getD p default

/-- `it.index = k` for the item at address `p`. -/
def setIndex (mem : List HeapItem) (p : Nat) (k : Int) : List HeapItem :=
  mem.modify p fun it => { it with index := k }

@[simp] theorem length_setIndex (mem : List HeapItem) (p : Nat) (k : Int) :
    (setIndex mem p k).length = mem.length := by
  simp [setIndex]

@[simp] theorem tx_deref_setIndex (mem : List HeapItem) (p : Nat) (k : Int) (q : Nat) :
    (deref (setIndex mem p k) q).tx = (deref mem q).tx := by
  simp only [deref, setIndex, List.getD_eq_getElem?_getD, List.getElem?_modify]
  cases mem[q]? with
  | none => rfl
  | some it => by_cases h : p = q <;> simp [h]

theorem deref_setIndex_of_ne (mem : List HeapItem) {p q : Nat} (k : Int) (h : q ≠ p) :
    deref (setIndex mem p k) q = deref mem q := by
  simp only [deref, setIndex, List.getD_eq_getElem?_getD, List.getElem?_modify, Ne.symm h,
    if_false]
  cases mem[q]? <;> rfl

theorem index_deref_setIndex_self (mem : List HeapItem) {p : Nat} (k : Int) (h : p < mem.length) :
    (deref (setIndex mem p k) p).index = k := by
  simp [deref, setIndex, List.getD_eq_getElem?_getD, h]

theorem tx_deref_eq (mem : List HeapItem) (q : Nat) :
    (deref mem q).tx = (mem.map (·.tx)).getD q default := by
  simp only [deref, List.getD_eq_getElem?_getD, List.getElem?_map]
  cases mem[q]? <;> rfl

@[simp] theorem map_tx_setIndex (mem : List HeapItem) (p : Nat) (k : Int) :
    (setIndex mem p k).map (·.tx) = mem.map (·.tx) := by
  apply List.ext_getElem?
  intro q
  simp only [setIndex, List.getElem?_map, List.getElem?_modify]
  cases mem[q]? with
  | none => rfl
  | some it => by_cases h : p = q <;> simp [h]

theorem deref_append_of_lt (mem : List HeapItem) (it : HeapItem) {p : Nat} (h : p < mem.length) :
    deref (mem ++ [it]) p = deref mem p := by
  simp [deref, List.getD_eq_getElem?_getD, List.getElem?_append_left h]

theorem deref_append_self (mem : List HeapItem) (it : HeapItem) :
    deref (mem ++ [it]) mem.length = it := by
  simp [deref, List.getD_eq_getElem?_getD]

/-! ## The heap -/

/-- `transactionsHeap`, a slice of `*heapItem`, with the memory its pointers point into: `mem`
holds every `heapItem` the pool allocated, at its address. -/
structure TransactionsHeap where
  mem : List HeapItem
  slice : List Nat
  deriving DecidableEq

namespace TransactionsHeap

def len (h : TransactionsHeap) : Nat := h.slice.length

/-- `Fee/len(B)` in `uint64` division.  The pool admits no empty `B`, so the division by zero
that would panic in Go does not arise. -/
def feePerByte (it : HeapItem) : Nat := it.tx.t.fee / it.tx.b.length

/-- `Less`: the greater fee per byte comes first. -/
def less (h : TransactionsHeap) (i j : Nat) : Bool :=
  decide (feePerByte (deref h.mem (h.slice.getD j 0)) < feePerByte (deref h.mem (h.slice.getD i 0)))

/-- `Swap`: exchange the pointers, then record their new positions in the two items. -/
def swap (h : TransactionsHeap) (i j : Nat) : TransactionsHeap :=
  let slice := exchange h.slice i j
  { mem := setIndex (setIndex h.mem (slice.getD i 0) i) (slice.getD j 0) j, slice := slice }

/-- `Push`: the item gets the next position; an item already in a heap is a panic. -/
def push (h : TransactionsHeap) (p : Nat) : Outcome UtxError TransactionsHeap :=
  if (deref h.mem p).index ≠ -1 then .panic "transactionsHeap.Push: item already in heap"
  else .ok { mem := setIndex h.mem p h.slice.length, slice := h.slice ++ [p] }

/-- `Pop`: the last pointer, its item marked as in no heap; `nil` on an empty heap. -/
def pop (h : TransactionsHeap) : TransactionsHeap × Option Nat :=
  match h.slice.getLast? with
  | none => (h, none)
  | some p => ({ mem := setIndex h.mem p (-1), slice := h.slice.dropLast }, some p)

/-- `transactionsHeap` as a `heap.Interface`. -/
def heap : Interface TransactionsHeap Nat UtxError := ⟨len, less, swap, push, pop⟩

/-- The transactions in the heap, in slice order. -/
def txs (h : TransactionsHeap) : List TransactionWithBytes := h.slice.map fun p => (deref h.mem p).tx

/-! ## The `index` bookkeeping -/

/-- What `Swap`, `Push` and `Pop` keep of `index`: every pointer in the slice is to allocated
memory, the item at position `k` records `k`, and every other allocated item records `-1`. -/
structure Indexed (h : TransactionsHeap) : Prop where
  alloc : ∀ p ∈ h.slice, p < h.mem.length
  index : ∀ (k p : Nat), h.slice[k]? = some p → (deref h.mem p).index = k
  outside : ∀ p, p < h.mem.length → p ∉ h.slice → (deref h.mem p).index = -1

variable {h : TransactionsHeap}

theorem Indexed.pos_inj (hi : h.Indexed) {k k' p : Nat} (hk : h.slice[k]? = some p)
    (hk' : h.slice[k']? = some p) : k = k' := by
  have e1 := hi.index k p hk
  have e2 := hi.index k' p hk'
  omega

theorem Indexed.nodup (hi : h.Indexed) : h.slice.Nodup := by
  rw [List.nodup_iff_getElem?_ne_getElem?]
  intro i j hij hj heq
  obtain ⟨p, hp⟩ := Option.isSome_iff_exists.1 (by simp; omega : (h.slice[j]?).isSome)
  have := hi.pos_inj (heq.trans hp) hp
  omega

@[simp] theorem slice_swap (i j : Nat) : (h.swap i j).slice = exchange h.slice i j := rfl

@[simp] theorem length_mem_swap (i j : Nat) : (h.swap i j).mem.length = h.mem.length := by
  simp [swap]

@[simp] theorem tx_deref_swap (i j q : Nat) : (deref (h.swap i j).mem q).tx = (deref h.mem q).tx := by
  simp [swap]

theorem Indexed.swap (hi : h.Indexed) {i j : Nat} (hi' : i < h.len) (hj : j < h.len) :
    (h.swap i j).Indexed := by
  unfold len at hi' hj
  have hex := getElem?_exchange h.slice hi' hj
  have hmem : ∀ p, p ∈ exchange h.slice i j ↔ p ∈ h.slice := fun p => (exchange_perm _ _ _).mem_iff
  have hsi : h.slice[i]? = some h.slice[i] := List.getElem?_eq_getElem hi'
  have hsj : h.slice[j]? = some h.slice[j] := List.getElem?_eq_getElem hj
  have hgi : (exchange h.slice i j).getD i 0 = h.slice[j] := by
    rw [List.getD_eq_getElem?_getD, hex]
    by_cases hij : i = j
    · subst hij; simp [hsi]
    · simp [hij, hsj]
  have hgj : (exchange h.slice i j).getD j 0 = h.slice[i] := by
    rw [List.getD_eq_getElem?_getD, hex]; simp [hsi]
  have hai := hi.alloc _ (List.getElem_mem hi')
  have haj := hi.alloc _ (List.getElem_mem hj)
  simp only [TransactionsHeap.swap, hgi, hgj]
  constructor
  · intro p hp
    simpa using hi.alloc p ((hmem p).1 hp)
  · intro k p hk
    rw [hex] at hk
    by_cases hkj : k = j
    · simp only [hkj, if_true, hsi, Option.some.injEq] at hk
      subst hk hkj
      exact index_deref_setIndex_self _ _ (by simpa using hai)
    · by_cases hki : k = i
      · subst hki
        simp only [hkj, if_true, if_false, hsj, Option.some.injEq] at hk
        subst hk
        have hne : h.slice[j] ≠ h.slice[k] := fun e => hkj (hi.pos_inj hsi (e ▸ hsj))
        rw [deref_setIndex_of_ne _ _ hne, index_deref_setIndex_self _ _ haj]
      · simp only [hkj, hki, if_false] at hk
        have hne_i : p ≠ h.slice[i] := fun e => hki (hi.pos_inj hk (e ▸ hsi))
        have hne_j : p ≠ h.slice[j] := fun e => hkj (hi.pos_inj hk (e ▸ hsj))
        rw [deref_setIndex_of_ne _ _ hne_i, deref_setIndex_of_ne _ _ hne_j]
        exact hi.index k p hk
  · intro p hp hnot
    have hnot' : p ∉ h.slice := fun hm => hnot ((hmem p).2 hm)
    have hne_i : p ≠ h.slice[i] := fun e => hnot' (e ▸ List.getElem_mem hi')
    have hne_j : p ≠ h.slice[j] := fun e => hnot' (e ▸ List.getElem_mem hj)
    rw [deref_setIndex_of_ne _ _ hne_i, deref_setIndex_of_ne _ _ hne_j]
    exact hi.outside p (by simpa using hp) hnot'

/-- What a sift keeps while it swaps positions below `m`: the bookkeeping, the pointers up to
order (`S`), the transactions in memory (`M`), and the pointers from `m` on (`t`). -/
structure Keeps (S : List Nat) (M : List TransactionWithBytes) (m : Nat) (t : List Nat)
    (h : TransactionsHeap) : Prop where
  indexed : h.Indexed
  perm : h.slice.Perm S
  mem : h.mem.map (·.tx) = M
  tail : h.slice.drop m = t

theorem keeps_swapStable {S : List Nat} {M : List TransactionWithBytes} {m : Nat} {t : List Nat}
    (hm : m ≤ S.length) : SwapStable heap (Keeps S M m t) m := by
  intro h i j hi hj hk
  have hlen : h.len = S.length := hk.perm.length_eq
  show Keeps S M m t (h.swap i j)
  exact ⟨hk.indexed.swap (by omega) (by omega), (exchange_perm _ _ _).trans hk.perm,
    by simp [swap, hk.mem], by rw [slice_swap, drop_exchange hi hj, hk.tail]⟩

theorem drop_eq_singleton {l : List Nat} {n x : Nat} (hl : l.length = n + 1) :
    l.drop n = [x] ↔ l[n]? = some x := by
  constructor
  · intro hd
    have h0 := congrArg (·[0]?) hd
    simp only [List.getElem?_drop, Nat.add_zero, List.getElem?_cons_zero] at h0
    exact h0
  · intro hx
    apply List.ext_getElem?
    intro j
    rw [List.getElem?_drop]
    cases j with
    | zero => simpa using hx
    | succ j => simp [List.getElem?_eq_none (show l.length ≤ n + (j + 1) by omega)]

theorem pop_of_getLast? {p : Nat} (hp : h.slice.getLast? = some p) :
    h.pop = ({ mem := setIndex h.mem p (-1), slice := h.slice.dropLast }, some p) := by
  simp [TransactionsHeap.pop, hp]

theorem Indexed.popLast (hi : h.Indexed) {p : Nat} (hp : h.slice.getLast? = some p) :
    Indexed { mem := setIndex h.mem p (-1), slice := h.slice.dropLast } := by
  have hsplit := List.dropLast_append_getLast? p hp
  have hn : h.slice[h.slice.length - 1]? = some p := by rwa [← List.getLast?_eq_getElem?]
  have hpm : p ∈ h.slice := by rw [← hsplit]; simp
  constructor
  · intro q hq
    simpa using hi.alloc q (List.dropLast_subset _ hq)
  · intro k q hk
    rw [List.getElem?_dropLast] at hk
    split_ifs at hk with hlt
    have hne : q ≠ p := fun e => by have := hi.pos_inj hk (e ▸ hn); omega
    rw [deref_setIndex_of_ne _ _ hne]
    exact hi.index k q hk
  · intro q hq hnot
    by_cases hqp : q = p
    · subst hqp
      exact index_deref_setIndex_self _ _ (hi.alloc q hpm)
    · rw [deref_setIndex_of_ne _ _ hqp]
      apply hi.outside q (by simpa using hq)
      rw [← hsplit]
      simp [hnot, hqp]

theorem Indexed.not_mem (hi : h.Indexed) {p : Nat} (hout : (deref h.mem p).index = -1) :
    p ∉ h.slice := by
  intro hm
  obtain ⟨k, hk⟩ := List.mem_iff_getElem?.1 hm
  have := hi.index k p hk
  omega

theorem push_of_index {p : Nat} (hout : (deref h.mem p).index = -1) :
    h.push p = .ok { mem := setIndex h.mem p h.slice.length, slice := h.slice ++ [p] } := by
  simp [TransactionsHeap.push, hout]

theorem Indexed.pushed (hi : h.Indexed) {p : Nat} (hp : p < h.mem.length)
    (hout : (deref h.mem p).index = -1) :
    Indexed { mem := setIndex h.mem p h.slice.length, slice := h.slice ++ [p] } := by
  have hnot := hi.not_mem hout
  constructor
  · intro q hq
    simp only [List.mem_append, List.mem_singleton] at hq
    rcases hq with hq | rfl
    · simpa using hi.alloc q hq
    · simpa using hp
  · intro k q hk
    rw [List.getElem?_append] at hk
    split_ifs at hk with hlt
    · have hne : q ≠ p := fun e => hnot (e ▸ List.mem_of_getElem? hk)
      rw [deref_setIndex_of_ne _ _ hne]
      exact hi.index k q hk
    · have hk0 : k - h.slice.length = 0 := by
        by_contra hne
        simp [List.getElem?_eq_none (show [p].length ≤ k - h.slice.length by simp; omega)] at hk
      simp only [hk0, List.getElem?_cons_zero, Option.some.injEq] at hk
      subst hk
      rw [index_deref_setIndex_self _ _ hp]
      omega
  · intro q hq hnot'
    simp only [List.mem_append, List.mem_singleton, not_or] at hnot'
    rw [deref_setIndex_of_ne _ _ hnot'.2]
    exact hi.outside q (by simpa using hq) hnot'.1

/-! ## `heap.Push`, `heap.Pop` and `heap.Remove` on `transactionsHeap` -/

theorem keeps_swap_last (hi : h.Indexed) {k p : Nat} (hk : h.slice[k]? = some p) :
    Keeps h.slice (h.mem.map (·.tx)) (h.len - 1) [p] (h.swap k (h.len - 1)) := by
  have hklt : k < h.len := (List.getElem?_eq_some_iff.1 hk).1
  have hlen : (exchange h.slice k (h.len - 1)).length = h.len - 1 + 1 := by
    simp only [length_exchange]; unfold len at hklt ⊢; omega
  refine ⟨hi.swap hklt (by omega), exchange_perm _ _ _, by simp [swap], ?_⟩
  rw [slice_swap, drop_eq_singleton hlen, getElem?_exchange _ hklt (by unfold len at hklt ⊢; omega)]
  simpa using hk

theorem Keeps.pop {S : List Nat} {M : List TransactionWithBytes} {n p : Nat} {s : TransactionsHeap}
    (hs : Keeps S M n [p] s) (hlen : S.length = n + 1) :
    s.pop.2 = some p ∧ s.pop.1.Indexed ∧ (s.pop.1.slice ++ [p]).Perm S ∧ s.pop.1.mem.map (·.tx) = M := by
  have hsl : s.slice.length = n + 1 := hs.perm.length_eq.trans hlen
  have hl : s.slice.getLast? = some p := by
    rw [List.getLast?_eq_getElem?, hsl]
    exact (drop_eq_singleton hsl).1 hs.tail
  rw [pop_of_getLast? hl]
  refine ⟨rfl, hs.indexed.popLast hl, ?_, by simp [hs.mem]⟩
  rw [List.dropLast_append_getLast? p hl]
  exact hs.perm

/-- `heap.Remove(h, k)` takes out the item at position `k` and keeps the bookkeeping. -/
theorem remove_spec (hi : h.Indexed) {k p : Nat} (hk : h.slice[k]? = some p) :
    (ContainerHeap.remove heap h k).2 = some p ∧ (ContainerHeap.remove heap h k).1.Indexed ∧
      ((ContainerHeap.remove heap h k).1.slice ++ [p]).Perm h.slice ∧
      (ContainerHeap.remove heap h k).1.mem.map (·.tx) = h.mem.map (·.tx) := by
  have hklt : k < h.len := (List.getElem?_eq_some_iff.1 hk).1
  have hlen : h.slice.length = h.len - 1 + 1 := by unfold len at hklt ⊢; omega
  have hlast : k = heap.len h - 1 → Keeps h.slice (h.mem.map (·.tx)) (h.len - 1) [p] h := by
    intro e
    refine ⟨hi, List.Perm.refl _, rfl, (drop_eq_singleton hlen).2 ?_⟩
    rw [← show k = h.len - 1 from e]
    exact hk
  obtain ⟨s, hs, heq⟩ := @remove_induction _ _ _ heap _ h k hklt
    (keeps_swapStable (Nat.sub_le h.slice.length 1)) hlast (fun _ => keeps_swap_last hi hk)
  rw [heq]
  exact hs.pop hlen

/-- `heap.Pop(h)` takes out the item at the root and keeps the bookkeeping. -/
theorem pop_spec (hi : h.Indexed) {p : Nat} (hp : h.slice[0]? = some p) :
    (ContainerHeap.pop heap h).2 = some p ∧ (ContainerHeap.pop heap h).1.Indexed ∧
      ((ContainerHeap.pop heap h).1.slice ++ [p]).Perm h.slice ∧
      (ContainerHeap.pop heap h).1.mem.map (·.tx) = h.mem.map (·.tx) := by
  have h0 : 0 < h.len := (List.getElem?_eq_some_iff.1 hp).1
  have hlen : h.slice.length = h.len - 1 + 1 := by unfold len at h0 ⊢; omega
  obtain ⟨s, hs, heq⟩ := @pop_induction _ _ _ heap _ h
    (keeps_swapStable (Nat.sub_le h.slice.length 1)) (keeps_swap_last hi hp)
  rw [heq]
  exact hs.pop hlen

theorem push_spec (hi : h.Indexed) {p : Nat} (hp : p < h.mem.length)
    (hout : (deref h.mem p).index = -1) :
    ∃ h', ContainerHeap.push heap h p = .ok h' ∧ h'.Indexed ∧ h'.slice.Perm (h.slice ++ [p]) ∧
      h'.mem.map (·.tx) = h.mem.map (·.tx) := by
  let h1 : TransactionsHeap := { mem := setIndex h.mem p h.slice.length, slice := h.slice ++ [p] }
  have hk : Keeps (h.slice ++ [p]) (h.mem.map (·.tx)) h1.len [] h1 :=
    ⟨hi.pushed hp hout, List.Perm.refl _, by simp [h1], by simp [h1, len]⟩
  have hup := up_induction (keeps_swapStable (le_of_eq (by simp [h1, len]))) h1 (h1.len - 1)
    (by simp [h1, len]) hk
  refine ⟨_, ?_, hup.indexed, hup.perm, hup.mem⟩
  simp only [ContainerHeap.push]
  rw [show heap.push h p = h.push p from rfl, push_of_index hout]
  rfl

theorem txs_perm {h : TransactionsHeap} {S : List Nat} {mem0 : List HeapItem}
    (hS : h.slice.Perm S) (hmem : h.mem.map (·.tx) = mem0.map (·.tx)) :
    h.txs.Perm (S.map fun q => (deref mem0 q).tx) := by
  have heq : h.txs = h.slice.map fun q => (deref mem0 q).tx := by
    simp only [txs, tx_deref_eq, hmem]
  rw [heq]
  exact hS.map _

theorem txs_perm_of_removed {h h1 : TransactionsHeap} {p : Nat} (hperm : (h1.slice ++ [p]).Perm h.slice)
    (hmem : h1.mem.map (·.tx) = h.mem.map (·.tx)) :
    h.txs.Perm (h1.txs ++ [(deref h.mem p).tx]) := by
  have h1txs : h1.txs = h1.slice.map fun q => (deref h.mem q).tx := by
    simp only [txs, tx_deref_eq, hmem]
  have := txs_perm hperm.symm (rfl : h.mem.map (·.tx) = h.mem.map (·.tx))
  simpa [h1txs] using this

theorem Indexed.allocNew (hi : h.Indexed) (tx : TransactionWithBytes) :
    Indexed { mem := h.mem ++ [⟨tx, -1⟩], slice := h.slice } := by
  constructor
  · intro p hp
    simpa using Nat.lt_succ_of_lt (hi.alloc p hp)
  · intro k p hk
    rw [deref_append_of_lt _ _ (hi.alloc p (List.mem_of_getElem? hk))]
    exact hi.index k p hk
  · intro p hp hnot
    simp only [List.length_append, List.length_singleton] at hp
    rcases Nat.lt_succ_iff_lt_or_eq.1 hp with hlt | rfl
    · rw [deref_append_of_lt _ _ hlt]
      exact hi.outside p hlt hnot
    · rw [deref_append_self]

theorem push_alloc_spec (hi : h.Indexed) (tx : TransactionWithBytes) :
    ∃ h', ContainerHeap.push heap { mem := h.mem ++ [⟨tx, -1⟩], slice := h.slice } h.mem.length = .ok h' ∧
      h'.Indexed ∧ h'.txs.Perm (h.txs ++ [tx]) := by
  obtain ⟨h', hpush, hi', hperm, hmem⟩ :=
    @push_spec { mem := h.mem ++ [⟨tx, -1⟩], slice := h.slice } (hi.allocNew tx) h.mem.length
      (by simp) (by simp [deref_append_self])
  refine ⟨h', hpush, hi', ?_⟩
  have := txs_perm hperm hmem
  have hold : (h.slice.map fun q => (deref (h.mem ++ [⟨tx, -1⟩]) q).tx) = h.txs := by
    apply List.map_congr_left
    intro q hq
    rw [deref_append_of_lt _ _ (hi.alloc q hq)]
  simpa [hold, deref_append_self] using this

end TransactionsHeap

/-! ## The pool -/

/-- `UtxImpl`, without the mutex, the validator and the settings. -/
structure UtxImpl where
  transactions : TransactionsHeap
  transactionIds : GoMap Proto.Digest Unit
  sizeLimit : UInt64
  curSize : UInt64

namespace UtxImpl

open TransactionsHeap

/-- `New(sizeLimit, validator, settings)`. -/
def new (sizeLimit : UInt64) : UtxImpl := ⟨⟨[], []⟩, [], sizeLimit, 0⟩

def «exists» (a : UtxImpl) (tx : Transaction) : Bool := a.transactionIds.contains tx.id

/-- `addWithBytesOptValidation`.  The checks come in the source's order; on an error the pool
is unchanged.  The new `heapItem` is allocated at the next free address with `index` `-1`.  The
size is added in `uint64`, where it wraps. -/
def addWithBytesOptValidation (a : UtxImpl) (tx : Transaction) (b : List UInt8)
    (optionalTxValidator : Option (Transaction → Except String Unit)) : Outcome UtxError UtxImpl :=
  if b = [] then .error .emptyBytes
  else if a.sizeLimit < a.curSize + UInt64.ofNat b.length then
    .error (.sizeOverflow a.curSize a.sizeLimit)
  else if a.exists tx then .error (.txExists tx.id)
  else match optionalTxValidator.map (· tx) with
    | some (Except.error e) => .error (.failedValidation tx.id e)
    | _ => do
      let p := a.transactions.mem.length
      let h ← ContainerHeap.push heap
        { a.transactions with mem := a.transactions.mem ++ [⟨⟨tx, b⟩, -1⟩] } p
      pure { a with transactions := h, transactionIds := a.transactionIds.insert tx.id (),
                    curSize := a.curSize + UInt64.ofNat b.length }

/-- `addWithBytesRaw`: no validation. -/
def addWithBytesRaw (a : UtxImpl) (tx : Transaction) (b : List UInt8) : Outcome UtxError UtxImpl :=
  a.addWithBytesOptValidation tx b none

/-- `addWithBytes`, with the validator's `Validate(st, ·)`. -/
def addWithBytes (a : UtxImpl) (validate : Transaction → Except String Unit) (tx : Transaction)
    (b : List UInt8) : Outcome UtxError UtxImpl :=
  a.addWithBytesOptValidation tx b (some validate)

/-- `Add`: `proto.MarshalTx` (a parameter) gives the bytes. -/
def add (a : UtxImpl) (marshalTx : Transaction → Except String (List UInt8))
    (validate : Transaction → Except String Unit) (tx : Transaction) : Outcome UtxError UtxImpl :=
  match marshalTx tx with
  | .error e => .error (.marshal e)
  | .ok b => a.addWithBytes validate tx b

/-- `Pop`: `nil` on an empty pool; a popped transaction larger than `curSize` is a panic. -/
def pop (a : UtxImpl) : Outcome UtxError (Option TransactionWithBytes × UtxImpl) :=
  if a.transactions.len = 0 then .ok (none, a)
  else match ContainerHeap.pop heap a.transactions with
    | (_, none) => .panic "UtxImpl Pop: unexpected type from heap.Pop"
    | (h, some p) =>
      let tx := (deref h.mem p).tx
      if a.curSize < UInt64.ofNat tx.b.length then
        .panic ("UtxImpl Pop: size of transaction " ++ toString tx.b.length ++
          " > than current size " ++ toString a.curSize)
      else .ok (some tx, { a with transactions := h,
                                  transactionIds := a.transactionIds.delete tx.t.id,
                                  curSize := a.curSize - UInt64.ofNat tx.b.length })

/-- The first loop of `Clean`, over the snapshot of the heap: it stops when the context is
done (`ctxErr checked`), and otherwise keeps each item that `shouldDrop` picks. -/
def selectDrop (h : TransactionsHeap) (ctxErr : Nat → Bool) (shouldDrop : Transaction → Bool) :
    List Nat → Nat × List Nat → Nat × List Nat
  | [], acc => acc
  | it :: rest, (checked, drop) =>
    if ctxErr checked then (checked, drop)
    else selectDrop h ctxErr shouldDrop rest
      (checked + 1, if shouldDrop (deref h.mem it).tx.t then drop ++ [it] else drop)

/-- The second loop of `Clean`: `heap.Remove` at the `index` of each item still in the heap. -/
def removeDropped : TransactionsHeap → List Nat → TransactionsHeap
  | h, [] => h
  | h, it :: rest =>
    let index := (deref h.mem it).index
    removeDropped (if 0 ≤ index then (ContainerHeap.remove heap h index.toNat).1 else h) rest

/-- `Clean(ctx, shouldDrop)`: the number of transactions checked and dropped, and the pool.
Neither `transactionIds` nor `curSize` changes. -/
def clean (a : UtxImpl) (ctxErr : Nat → Bool) (shouldDrop : Transaction → Bool) :
    (Nat × Nat) × UtxImpl :=
  let (checked, drop) := selectDrop a.transactions ctxErr shouldDrop a.transactions.slice (0, [])
  ((checked, drop.length), { a with transactions := removeDropped a.transactions drop })

/-! ## Consistency -/

/-- The three places agree: `curSize` is the sum of the byte lengths of the transactions in the
heap and within `sizeLimit`, and `transactionIds` holds exactly their IDs, which are distinct;
the heap's bookkeeping holds and it holds no empty transaction. -/
structure Consistent (a : UtxImpl) : Prop where
  indexed : a.transactions.Indexed
  curSize : a.curSize.toNat = (a.transactions.txs.map (·.b.length)).sum
  ids : ∀ d, a.transactionIds.contains d = true ↔ d ∈ a.transactions.txs.map (·.t.id)
  idsNodup : (a.transactions.txs.map (·.t.id)).Nodup
  nonempty : ∀ tx ∈ a.transactions.txs, tx.b ≠ []
  limit : a.curSize ≤ a.sizeLimit

theorem new_consistent (sizeLimit : UInt64) : (new sizeLimit).Consistent where
  indexed := ⟨by simp [new], by simp [new], by simp [new]⟩
  curSize := by simp [new, txs]
  ids := by simp [new, txs, GoMap.contains]
  idsNodup := by simp [new, txs]
  nonempty := by simp [new, txs]
  limit := by simp [new, UInt64.le_iff_toNat_le]

/-- A pool holding one transaction of one byte. -/
def onePool : UtxImpl :=
  ⟨⟨[⟨⟨⟨Vector.replicate 32 0, 1⟩, [7]⟩, 0⟩], [0]⟩, [(Vector.replicate 32 0, ())], 10, 1⟩

theorem onePool_consistent : onePool.Consistent where
  indexed := by
    constructor
    · simp [onePool]
    · intro k p hk
      cases k with
      | zero => simp [onePool] at hk; subst hk; rfl
      | succ k => simp [onePool] at hk
    · intro p hp hnot
      simp [onePool] at hp hnot
      omega
  curSize := by simp [onePool, txs, deref]
  ids := by intro d; simp [onePool, txs, deref, GoMap.contains, eq_comm]
  idsNodup := by simp [onePool, txs]
  nonempty := by simp [onePool, txs, deref]
  limit := by decide

theorem addWithBytesOptValidation_eq_ok {a a' : UtxImpl} {tx : Transaction} {b : List UInt8}
    {v : Option (Transaction → Except String Unit)} (hadd : a.addWithBytesOptValidation tx b v = .ok a') :
    b ≠ [] ∧ a.curSize + UInt64.ofNat b.length ≤ a.sizeLimit ∧ a.exists tx = false ∧
      ∃ h', ContainerHeap.push heap { a.transactions with mem := a.transactions.mem ++ [⟨⟨tx, b⟩, -1⟩] }
          a.transactions.mem.length = .ok h' ∧
        a' = { a with transactions := h', transactionIds := a.transactionIds.insert tx.id (),
                      curSize := a.curSize + UInt64.ofNat b.length } := by
  unfold addWithBytesOptValidation at hadd
  split_ifs at hadd with hb hsize hex
  split at hadd
  · cases hadd
  · obtain ⟨h', hpush, hpure⟩ := Outcome.bind_eq_ok.1 hadd
    cases hpure
    exact ⟨hb, UInt64.not_lt.1 hsize, by simpa using hex, h', hpush, rfl⟩

/-- Adding keeps the pool consistent, as long as the new size does not wrap around in `uint64`. -/
theorem addWithBytesOptValidation_consistent {a a' : UtxImpl} (hc : a.Consistent) {tx : Transaction}
    {b : List UInt8} {v : Option (Transaction → Except String Unit)}
    (hwrap : a.curSize.toNat + b.length < 2 ^ 64)
    (hadd : a.addWithBytesOptValidation tx b v = .ok a') : a'.Consistent := by
  obtain ⟨hb, hsize, hex, h', hpush, rfl⟩ := addWithBytesOptValidation_eq_ok hadd
  obtain ⟨h'', hpush', hi', hperm⟩ := push_alloc_spec hc.indexed ⟨tx, b⟩
  have hh : h' = h'' := by
    rw [hpush'] at hpush
    cases hpush
    rfl
  subst hh
  have hnew : tx.id ∉ a.transactions.txs.map (·.t.id) := by
    rw [← hc.ids]
    simpa [UtxImpl.exists] using hex
  have hlen : (UInt64.ofNat b.length).toNat = b.length := by
    rw [UInt64.toNat_ofNat']
    omega
  constructor
  · exact hi'
  · rw [UInt64.toNat_add, hlen, Nat.mod_eq_of_lt hwrap]
    simp only [(hperm.map _).sum_eq, List.map_append, List.sum_append, hc.curSize]
    simp
  · intro d
    simp only [GoMap.contains_insert, Bool.or_eq_true, decide_eq_true_eq, hc.ids, (hperm.map _).mem_iff]
    simp [or_comm]
  · rw [(hperm.map _).nodup_iff, List.map_append]
    refine List.nodup_append.2 ⟨hc.idsNodup, List.nodup_singleton _, ?_⟩
    intro d hd d' hd'
    simp only [List.map_cons, List.map_nil, List.mem_singleton] at hd'
    subst hd'
    exact fun e => hnew (e ▸ hd)
  · intro t ht
    rcases List.mem_append.1 (hperm.mem_iff.1 ht) with ht | ht
    · exact hc.nonempty t ht
    · simp only [List.mem_singleton] at ht
      subst ht
      exact hb
  · exact hsize

theorem addWithBytesOptValidation_consistent_onePool : onePool.Consistent :=
  @addWithBytesOptValidation_consistent (new 10) onePool (new_consistent 10)
    ⟨Vector.replicate 32 0, 1⟩ [7] none (by decide) (by
      simp [addWithBytesOptValidation, new, UtxImpl.exists, ContainerHeap.push, GoMap.contains,
        heap, TransactionsHeap.push, deref]
      rw [up]
      simp
      rfl)

theorem addWithBytesRaw_ok {a : UtxImpl} (hi : a.transactions.Indexed) {tx : Transaction}
    {b : List UInt8} (hb : b ≠ []) (hsize : a.curSize + UInt64.ofNat b.length ≤ a.sizeLimit)
    (hex : a.exists tx = false) : ∃ a', a.addWithBytesRaw tx b = .ok a' := by
  obtain ⟨h', hpush, -⟩ := push_alloc_spec hi ⟨tx, b⟩
  refine ⟨{ a with transactions := h', transactionIds := a.transactionIds.insert tx.id (),
                   curSize := a.curSize + UInt64.ofNat b.length }, ?_⟩
  unfold addWithBytesRaw addWithBytesOptValidation
  rw [if_neg hb, if_neg (UInt64.not_lt.2 hsize), if_neg (by simp [hex])]
  simp only [Option.map_none]
  rw [show ContainerHeap.push heap { a.transactions with mem := a.transactions.mem ++ [⟨⟨tx, b⟩, -1⟩] }
    a.transactions.mem.length = .ok h' from hpush]
  rfl

/-! ## `Pop` -/

theorem length_le_curSize {a : UtxImpl} (hc : a.Consistent) {tx : TransactionWithBytes}
    (hmem : tx ∈ a.transactions.txs) :
    UInt64.ofNat tx.b.length ≤ a.curSize ∧
      (a.curSize - UInt64.ofNat tx.b.length).toNat = a.curSize.toNat - tx.b.length := by
  have hle : tx.b.length ≤ a.curSize.toNat := by
    rw [hc.curSize]
    exact List.le_sum_of_mem (List.mem_map_of_mem hmem)
  have hlen : (UInt64.ofNat tx.b.length).toNat = tx.b.length := by
    rw [UInt64.toNat_ofNat']
    exact Nat.mod_eq_of_lt (Nat.lt_of_le_of_lt hle a.curSize.toNat_lt)
  have hle64 : UInt64.ofNat tx.b.length ≤ a.curSize := by
    rw [UInt64.le_iff_toNat_le, hlen]
    exact hle
  exact ⟨hle64, by rw [UInt64.toNat_sub_of_le _ _ hle64, hlen]⟩

theorem pop_eq {a : UtxImpl} (hc : a.Consistent) (hlen : a.transactions.len ≠ 0) :
    ∃ p h1, a.transactions.slice[0]? = some p ∧
      a.pop = .ok (some (deref a.transactions.mem p).tx, { a with
          transactions := h1, transactionIds := a.transactionIds.delete (deref a.transactions.mem p).tx.t.id,
          curSize := a.curSize - UInt64.ofNat (deref a.transactions.mem p).tx.b.length }) ∧
      h1.Indexed ∧ a.transactions.txs.Perm (h1.txs ++ [(deref a.transactions.mem p).tx]) := by
  have h0 : 0 < a.transactions.slice.length := by
    simp only [len] at hlen
    omega
  obtain ⟨p, hp⟩ : ∃ p, a.transactions.slice[0]? = some p :=
    ⟨a.transactions.slice[0], List.getElem?_eq_getElem h0⟩
  obtain ⟨h2, hi1, hperm1, hmem1⟩ := pop_spec hc.indexed hp
  have hr : ContainerHeap.pop heap a.transactions = ((ContainerHeap.pop heap a.transactions).1, some p) :=
    Prod.ext rfl h2
  set h1 := (ContainerHeap.pop heap a.transactions).1
  have htx : (deref h1.mem p).tx = (deref a.transactions.mem p).tx := by
    rw [tx_deref_eq, tx_deref_eq, hmem1]
  have hperm := txs_perm_of_removed hperm1 hmem1
  -- the popped transaction's bytes are counted in `curSize`, so `Pop` does not panic
  have hle := (length_le_curSize hc (hperm.mem_iff.2 (List.mem_append_right _ (List.mem_singleton_self _)))).1
  refine ⟨p, h1, hp, ?_, hi1, hperm⟩
  unfold pop
  rw [if_neg hlen, hr]
  simp only [htx, if_neg (UInt64.not_lt.2 hle)]

/-- `Pop` on a consistent pool does not panic.  On an empty pool it returns `nil` and leaves the
pool as it is.  Otherwise it returns the transaction at the root of the heap and leaves a
consistent pool: that transaction is out of the heap, its ID out of `transactionIds` and its
length out of `curSize`. -/
theorem pop_consistent {a : UtxImpl} (hc : a.Consistent) :
    (a.transactions.len = 0 ∧ a.pop = .ok (none, a)) ∨
    ∃ p a', a.transactions.slice[0]? = some p ∧
      a.pop = .ok (some (deref a.transactions.mem p).tx, a') ∧ a'.Consistent ∧
      a.transactions.txs.Perm (a'.transactions.txs ++ [(deref a.transactions.mem p).tx]) ∧
      a'.transactionIds = a.transactionIds.delete (deref a.transactions.mem p).tx.t.id ∧
      a'.curSize.toNat = a.curSize.toNat - (deref a.transactions.mem p).tx.b.length := by
  by_cases hlen : a.transactions.len = 0
  · exact Or.inl ⟨hlen, by simp [pop, hlen]⟩
  obtain ⟨p, h1, hp, hpop, hi1, hperm⟩ := pop_eq hc hlen
  set tx := (deref a.transactions.mem p).tx
  have hsize := (length_le_curSize hc (hperm.mem_iff.2 (List.mem_append_right _ (List.mem_singleton_self _)))).2
  have hnd : (h1.txs.map (·.t.id) ++ [tx.t.id]).Nodup := by
    simpa using (hperm.map (·.t.id)).nodup_iff.1 hc.idsNodup
  refine Or.inr ⟨p, _, hp, hpop, ⟨hi1, ?_, ?_, (List.nodup_append.1 hnd).1, ?_, ?_⟩, hperm, rfl, hsize⟩
  · change (a.curSize - UInt64.ofNat tx.b.length).toNat = _
    rw [hsize, hc.curSize, (hperm.map _).sum_eq, List.map_append, List.sum_append]
    simp
  · intro d
    simp only [GoMap.contains_delete, Bool.and_eq_true, decide_eq_true_eq, hc.ids,
      (hperm.map _).mem_iff, List.map_append, List.mem_append, List.map_cons, List.map_nil,
      List.mem_singleton]
    constructor
    · rintro ⟨hne, hd | hd⟩
      · exact hd
      · exact absurd hd hne
    · intro hd
      refine ⟨?_, Or.inl hd⟩
      rintro rfl
      exact (List.nodup_append.1 hnd).2.2 _ hd _ (List.mem_singleton_self _) rfl
  · intro t ht
    exact hc.nonempty t (hperm.mem_iff.2 (List.mem_append_left _ ht))
  · change a.curSize - UInt64.ofNat tx.b.length ≤ a.sizeLimit
    have := UInt64.le_iff_toNat_le.1 hc.limit
    rw [UInt64.le_iff_toNat_le, hsize]
    omega

theorem pop_consistent_onePool :
    (onePool.transactions.len = 0 ∧ onePool.pop = .ok (none, onePool)) ∨
    ∃ p a', onePool.transactions.slice[0]? = some p ∧
      onePool.pop = .ok (some (deref onePool.transactions.mem p).tx, a') ∧ a'.Consistent ∧
      onePool.transactions.txs.Perm (a'.transactions.txs ++ [(deref onePool.transactions.mem p).tx]) ∧
      a'.transactionIds = onePool.transactionIds.delete (deref onePool.transactions.mem p).tx.t.id ∧
      a'.curSize.toNat = onePool.curSize.toNat - (deref onePool.transactions.mem p).tx.b.length :=
  pop_consistent onePool_consistent

/-- What `Pop` returns can be added again. -/
theorem pop_addWithBytesRaw {a a' : UtxImpl} (hc : a.Consistent) {tx : TransactionWithBytes}
    (hpop : a.pop = .ok (some tx, a')) : ∃ a'', a'.addWithBytesRaw tx.t tx.b = .ok a'' := by
  have hlen : a.transactions.len ≠ 0 := by
    intro h0
    simp [pop, h0] at hpop
  obtain ⟨p, h1, -, hpop', hi1, hperm⟩ := pop_eq hc hlen
  rw [hpop'] at hpop
  cases hpop
  have hmem := hperm.mem_iff.2 (List.mem_append_right _ (List.mem_singleton_self _))
  apply addWithBytesRaw_ok hi1 (hc.nonempty _ hmem)
  · change a.curSize - _ + _ ≤ a.sizeLimit
    rw [UInt64.sub_add_cancel]
    exact hc.limit
  · simp [UtxImpl.exists]

theorem pop_addWithBytesRaw_onePool :
    ∃ a'', ({ onePool with transactions := ⟨[⟨⟨⟨Vector.replicate 32 0, 1⟩, [7]⟩, -1⟩], []⟩,
                           transactionIds := [], curSize := 0 } : UtxImpl).addWithBytesRaw
      ⟨Vector.replicate 32 0, 1⟩ [7] = .ok a'' :=
  @pop_addWithBytesRaw onePool
    { onePool with transactions := ⟨[⟨⟨⟨Vector.replicate 32 0, 1⟩, [7]⟩, -1⟩], []⟩,
                   transactionIds := [], curSize := 0 }
    onePool_consistent ⟨⟨Vector.replicate 32 0, 1⟩, [7]⟩ (by
    simp [pop, onePool, ContainerHeap.pop, heap, len, down]
    rw [downFrom]
    simp [TransactionsHeap.swap, TransactionsHeap.pop, exchange, setIndex, deref, GoMap.delete])

/-! ## `Clean` -/

theorem selectDrop_all (h : TransactionsHeap) (shouldDrop : Transaction → Bool) :
    ∀ (l : List Nat) (checked : Nat) (drop : List Nat),
      (selectDrop h (fun _ => false) shouldDrop l (checked, drop)).2 =
        drop ++ l.filter fun p => shouldDrop (deref h.mem p).tx.t
  | [], _, drop => by simp [selectDrop]
  | it :: rest, checked, drop => by
    rw [selectDrop, if_neg Bool.false_ne_true, selectDrop_all h shouldDrop rest]
    by_cases hd : shouldDrop (deref h.mem it).tx.t = true <;> simp [hd]

theorem filter_not_mem_cons {l : List Nat} {it : Nat} (rest : List Nat) (hnot : it ∉ l) :
    (l.filter fun p => p ∉ it :: rest) = l.filter fun p => p ∉ rest := by
  apply List.filter_congr
  intro p hp
  have hne : p ≠ it := fun e => hnot (e ▸ hp)
  simp [hne]

theorem removeDropped_spec :
    ∀ (drop : List Nat) (h : TransactionsHeap), h.Indexed → (∀ p ∈ drop, p < h.mem.length) →
      (removeDropped h drop).Indexed ∧
      (removeDropped h drop).slice.Perm (h.slice.filter fun p => p ∉ drop) ∧
      (removeDropped h drop).mem.map (·.tx) = h.mem.map (·.tx)
  | [], h, hi, _ => by simp [removeDropped, hi]
  | it :: rest, h, hi, hdrop => by
    have hit := hdrop it (by simp)
    rw [removeDropped]
    split
    · rename_i hge
      have hin : it ∈ h.slice := by
        by_contra hnot
        have := hi.outside it hit hnot
        omega
      obtain ⟨k, hk⟩ := List.mem_iff_getElem?.1 hin
      have hidx : (deref h.mem it).index.toNat = k := by rw [hi.index k it hk]; simp
      rw [hidx]
      obtain ⟨-, hi1, hperm1, hmem1⟩ := remove_spec hi hk
      have hnodup : (h.slice.filter fun p => p ∉ it :: rest).Perm
          ((ContainerHeap.remove heap h k).1.slice.filter fun p => p ∉ rest) := by
        have hnd := hperm1.nodup_iff.2 hi.nodup
        have hnot : it ∉ (ContainerHeap.remove heap h k).1.slice :=
          fun hm => (List.nodup_append.1 hnd).2.2 it hm it (by simp) rfl
        refine (hperm1.symm.filter _).trans ?_
        rw [List.filter_append, filter_not_mem_cons rest hnot]
        simp
      have hlen1 : (ContainerHeap.remove heap h k).1.mem.length = h.mem.length := by
        simpa using congrArg List.length hmem1
      obtain ⟨hi', hperm', hmem'⟩ := removeDropped_spec rest _ hi1
        (fun p hp => hlen1 ▸ hdrop p (by simp [hp]))
      exact ⟨hi', hperm'.trans hnodup.symm, hmem'.trans hmem1⟩
    · rename_i hlt
      have hnot : it ∉ h.slice := by
        intro hin
        obtain ⟨k, hk⟩ := List.mem_iff_getElem?.1 hin
        have := hi.index k it hk
        omega
      obtain ⟨hi', hperm', hmem'⟩ := removeDropped_spec rest h hi (fun p hp => hdrop p (by simp [hp]))
      rw [filter_not_mem_cons rest hnot]
      exact ⟨hi', hperm', hmem'⟩

theorem clean_eq (a : UtxImpl) (shouldDrop : Transaction → Bool) :
    (a.clean (fun _ => false) shouldDrop).2 = { a with
      transactions := removeDropped a.transactions
        (a.transactions.slice.filter fun p => shouldDrop (deref a.transactions.mem p).tx.t) } := by
  have hsel := selectDrop_all a.transactions shouldDrop a.transactions.slice 0 []
  unfold clean
  rcases hs : selectDrop a.transactions (fun _ => false) shouldDrop a.transactions.slice (0, [])
    with ⟨checked, drop⟩
  rw [hs] at hsel
  simp only at hsel
  simp [hsel]

/-- After `Clean` drops a transaction of a consistent pool, its ID is still in `transactionIds`
and its bytes still in `curSize`, though it is no longer in the heap: the pool is no longer
consistent, and the transaction cannot be added again. -/
theorem clean_keepsDroppedIds {a : UtxImpl} (hc : a.Consistent) (shouldDrop : Transaction → Bool)
    {tx : TransactionWithBytes} (htx : tx ∈ a.transactions.txs) (hdrop : shouldDrop tx.t = true) :
    ¬ (a.clean (fun _ => false) shouldDrop).2.Consistent ∧
      (a.clean (fun _ => false) shouldDrop).2.transactionIds.contains tx.t.id = true ∧
      tx.t.id ∉ (a.clean (fun _ => false) shouldDrop).2.transactions.txs.map (·.t.id) ∧
      ((a.clean (fun _ => false) shouldDrop).2.transactions.txs.map (·.b.length)).sum <
        (a.clean (fun _ => false) shouldDrop).2.curSize.toNat ∧
      ∃ e, (a.clean (fun _ => false) shouldDrop).2.addWithBytesRaw tx.t tx.b = .error e := by
  rw [clean_eq]
  set h := a.transactions
  set drop := h.slice.filter fun p => shouldDrop (deref h.mem p).tx.t
  obtain ⟨p, hp, rfl⟩ := List.mem_map.1 htx
  have hpd : p ∈ drop := List.mem_filter.2 ⟨hp, hdrop⟩
  obtain ⟨-, hperm', hmem'⟩ := removeDropped_spec drop h hc.indexed
    (fun q hq => hc.indexed.alloc q (List.mem_filter.1 hq).1)
  have htxs := txs_perm hperm' hmem'
  have hcontains : a.transactionIds.contains (deref h.mem p).tx.t.id = true :=
    (hc.ids _).2 (List.mem_map_of_mem htx)
  -- the IDs of the heap are distinct, so only the dropped item carried this one
  have hgone : (deref h.mem p).tx.t.id ∉ (removeDropped h drop).txs.map (·.t.id) := by
    rw [(htxs.map _).mem_iff]
    simp only [List.map_map, List.mem_map, List.mem_filter, decide_eq_true_eq, Function.comp]
    rintro ⟨q, ⟨hq, hqd⟩, hid⟩
    have hinj := List.inj_on_of_nodup_map (by simpa [txs] using hc.idsNodup) hq hp hid
    exact hqd (hinj ▸ hpd)
  refine ⟨fun hc' => hgone ((hc'.ids _).1 hcontains), hcontains, hgone, ?_, ?_⟩
  · let f := fun q => (deref h.mem q).tx.b.length
    have hsplit := List.filter_append_perm (fun q => decide (q ∉ drop)) h.slice
    have hsum : (h.slice.map f).sum =
        ((h.slice.filter fun q => q ∉ drop).map f).sum +
        ((h.slice.filter fun q => q ∈ drop).map f).sum := by
      rw [← List.sum_append, ← List.map_append, ← (hsplit.map f).sum_eq]
      simp [decide_not]
    have hle : f p ≤ ((h.slice.filter fun q => q ∈ drop).map f).sum :=
      List.le_sum_of_mem (List.mem_map_of_mem (List.mem_filter.2 ⟨hp, by simpa using hpd⟩))
    have hpos : 0 < f p := List.length_pos_iff.2 (hc.nonempty _ htx)
    have hafter : ((removeDropped h drop).txs.map (·.b.length)).sum =
        ((h.slice.filter fun q => q ∉ drop).map f).sum := by
      rw [(htxs.map _).sum_eq, List.map_map]
      rfl
    have hbefore : a.curSize.toNat = (h.slice.map f).sum := by
      rw [hc.curSize, txs, List.map_map]
      rfl
    simp only
    omega
  · have hb := hc.nonempty _ htx
    unfold addWithBytesRaw addWithBytesOptValidation
    split_ifs with h1 h2 h3
    · exact ⟨_, rfl⟩
    · exact ⟨_, rfl⟩
    · exact ⟨_, rfl⟩
    · exact absurd hcontains (by simpa [UtxImpl.exists] using h3)

theorem clean_keepsDroppedIds_onePool :
    ¬ (onePool.clean (fun _ => false) (fun _ => true)).2.Consistent ∧
      (onePool.clean (fun _ => false) (fun _ => true)).2.transactionIds.contains
        (Vector.replicate 32 0) = true ∧
      Vector.replicate 32 0 ∉
        (onePool.clean (fun _ => false) (fun _ => true)).2.transactions.txs.map (·.t.id) ∧
      ((onePool.clean (fun _ => false) (fun _ => true)).2.transactions.txs.map (·.b.length)).sum <
        (onePool.clean (fun _ => false) (fun _ => true)).2.curSize.toNat ∧
      ∃ e, (onePool.clean (fun _ => false) (fun _ => true)).2.addWithBytesRaw
        ⟨Vector.replicate 32 0, 1⟩ [7] = .error e :=
  @clean_keepsDroppedIds onePool onePool_consistent (fun _ => true)
    ⟨⟨Vector.replicate 32 0, 1⟩, [7]⟩ (by decide) rfl

end UtxImpl

end Gowaves.Utxpool
