import Mathlib.Data.List.DropRight
import Mathlib.Order.Lattice

/-!
# Logs of versioned entries

A log keeps entries in the order they were written, each with a version that grows along the
log.  A reader of a version takes the last entry of the leading run up to that version; a
pruner drops old entries below a floor but keeps the last of them, which a reader at the floor
still needs; and a repair drops a tail of entries that no longer count.  Along such a log a
test on versions like "at most `t`" or "below `m`" is downward closed: an entry that passes it
is preceded only by entries that pass it.  Stated over a list and Boolean tests, the rules are:

* `takeWhile_drop` — for a downward-closed test, dropping entries commutes with taking the
  leading run;
* `getLast?_takeWhile_drop` — so a reader sees the same last entry after a drop that spares it;
* `drop_prune` — pruning a log that was already pruned below the same floor gives the log
  pruned once;
* `rdropWhile_append_of_forall` and `rdropWhile_of_forall_not` — a repair drops exactly a tail
  of entries that fail, and nothing from a log whose entries all count;
* `takeWhile_filterMap_of_pairwise` — a log written from a sequence of versions, some of which
  write nothing, read up to a version is the log of the versions up to it;
* `takeWhile_lt_getElem` and `takeWhile_le_getElem` — along strictly increasing versions, the
  versions below the `i`-th are the first `i`, and those up to it the first `i + 1`.
-/

set_option autoImplicit false

namespace VersionLog

variable {α : Type} {p : α → Bool} {l m : List α}

/-- **Dropping commutes with the leading run** of a test that is downward closed along the
list. -/
theorem takeWhile_drop (hl : l.Pairwise fun a b => p b = true → p a = true) (j : ℕ) :
    (l.drop j).takeWhile p = (l.takeWhile p).drop j := by
  induction l generalizing j with
  | nil => simp
  | cons a t ih =>
    obtain ⟨ha, ht⟩ := List.pairwise_cons.mp hl
    cases j with
    | zero => simp
    | succ j =>
      by_cases hpa : p a = true
      · simp [List.takeWhile_cons_of_pos hpa, ih ht j]
      · have hnone : ∀ b ∈ t.drop j, p b = false := fun b hb => by
          by_contra hpb
          exact hpa (ha b (List.mem_of_mem_drop hb) (by simpa using hpb))
        rw [List.drop_succ_cons, List.takeWhile_cons_of_neg hpa, List.drop_nil,
          List.takeWhile_eq_nil_iff]
        intro h
        exact by simpa using hnone _ (List.getElem_mem h)

/-- A reader sees the same last entry after a drop that spares one of the entries it reads. -/
theorem getLast?_takeWhile_drop (hl : l.Pairwise fun a b => p b = true → p a = true) {j : ℕ}
    (hj : j < (l.takeWhile p).length ∨ j = 0) :
    ((l.drop j).takeWhile p).getLast? = (l.takeWhile p).getLast? := by
  rw [takeWhile_drop hl, List.getLast?_drop]
  rcases hj with hj | rfl
  · rw [if_neg (by omega)]
  · simp only [Nat.le_zero, List.length_eq_zero_iff]
    split
    · rename_i h; rw [h]; rfl
    · rfl

/-- **Pruning twice at one floor**: with `j` at most one less than the number of entries below
the floor, dropping `j` and then all but the last of the entries still below the floor drops
all but the last of them from the start. -/
theorem drop_prune (hl : l.Pairwise fun a b => p b = true → p a = true) {j : ℕ}
    (hj : j ≤ (l.takeWhile p).length - 1) :
    (l.drop j).drop (((l.drop j).takeWhile p).length - 1) = l.drop ((l.takeWhile p).length - 1) := by
  rw [takeWhile_drop hl, List.length_drop, List.drop_drop]
  congr 1
  omega

/-- A repair drops a tail of entries that all fail. -/
theorem rdropWhile_append_of_forall (hm : ∀ a ∈ m, p a = true) :
    (l ++ m).rdropWhile p = l.rdropWhile p := by
  induction m using List.reverseRecOn with
  | nil => simp
  | append_singleton m a ih =>
    rw [← List.append_assoc, List.rdropWhile_concat_pos p (l ++ m) a (hm a (by simp))]
    exact ih fun b hb => hm b (by simp [hb])

/-- A repair keeps a log whose entries all count. -/
theorem rdropWhile_of_forall_not (hl : ∀ a ∈ l, p a = false) : l.rdropWhile p = l := by
  rw [List.rdropWhile_eq_self_iff]
  intro hne
  simp [hl _ (List.getLast_mem hne)]

theorem forall_not_of_mem_dropWhile (hl : l.Pairwise fun a b => p b = true → p a = true) :
    ∀ a ∈ l.dropWhile p, p a = false := by
  induction l with
  | nil => simp
  | cons a t ih =>
    obtain ⟨ha, ht⟩ := List.pairwise_cons.mp hl
    by_cases hpa : p a = true
    · rw [List.dropWhile_cons_of_pos hpa]
      exact ih ht
    · rw [List.dropWhile_cons_of_neg hpa]
      intro b hb
      rcases List.mem_cons.mp hb with rfl | hb
      · simpa using hpa
      · by_contra hpb
        exact hpa (ha b hb (by simpa using hpb))

/-- **Reading a log written from versions.**  When each version writes at most one entry, and
an entry passes the reader's test exactly when its version passes a downward-closed one, the
leading run of the log is the log of the leading run of versions. -/
theorem takeWhile_filterMap_of_pairwise {β : Type} (f : α → Option β) (q : β → Bool)
    (hl : l.Pairwise fun a b => p b = true → p a = true)
    (hf : ∀ a ∈ l, ∀ b, f a = some b → q b = p a) :
    (l.filterMap f).takeWhile q = (l.takeWhile p).filterMap f := by
  conv_lhs => rw [← List.takeWhile_append_dropWhile (p := p) (l := l)]
  have hpass : ∀ b ∈ (l.takeWhile p).filterMap f, q b = true := by
    intro b hb
    obtain ⟨a, ha, hfa⟩ := List.mem_filterMap.mp hb
    rw [hf a ((List.takeWhile_sublist p).subset ha) b hfa]
    exact List.mem_takeWhile_imp ha
  have hfail : ∀ b ∈ (l.dropWhile p).filterMap f, q b = false := by
    intro b hb
    obtain ⟨a, ha, hfa⟩ := List.mem_filterMap.mp hb
    rw [hf a ((List.dropWhile_sublist p).subset ha) b hfa]
    exact forall_not_of_mem_dropWhile hl a ha
  have hnil : ((l.dropWhile p).filterMap f).takeWhile q = [] := by
    rw [List.takeWhile_eq_nil_iff]
    intro h
    simp [hfail _ (List.getElem_mem h)]
  rw [List.filterMap_append, List.takeWhile_append_of_pos hpass, hnil, List.append_nil]

section Increasing

variable {β : Type} [LinearOrder β] (v : α → β)

/-- Along strictly increasing versions, those below the `i`-th are the first `i`. -/
theorem takeWhile_lt_getElem (hl : l.Pairwise fun a b => v a < v b) {i : ℕ} (hi : i < l.length) :
    l.takeWhile (fun a => decide (v a < v l[i])) = l.take i := by
  induction l generalizing i with
  | nil => simp at hi
  | cons a t ih =>
    obtain ⟨ha, ht⟩ := List.pairwise_cons.mp hl
    cases i with
    | zero => simp
    | succ j =>
      have hj : j < t.length := by simpa using hi
      simp [List.takeWhile_cons_of_pos (p := fun a => decide (v a < v t[j]))
        (by simpa using ha _ (List.getElem_mem hj)), ih ht hj]

/-- Along strictly increasing versions, those up to the `i`-th are the first `i + 1`. -/
theorem takeWhile_le_getElem (hl : l.Pairwise fun a b => v a < v b) {i : ℕ} (hi : i < l.length) :
    l.takeWhile (fun a => decide (v a ≤ v l[i])) = l.take (i + 1) := by
  induction l generalizing i with
  | nil => simp at hi
  | cons a t ih =>
    obtain ⟨ha, ht⟩ := List.pairwise_cons.mp hl
    cases i with
    | zero =>
      have hnone : t.takeWhile (fun b => decide (v b ≤ v a)) = [] := by
        rw [List.takeWhile_eq_nil_iff]
        intro h
        simpa using ha _ (List.getElem_mem h)
      simp [hnone]
    | succ j =>
      have hj : j < t.length := by simpa using hi
      simp [List.takeWhile_cons_of_pos (p := fun a => decide (v a ≤ v t[j]))
        (by simpa using le_of_lt (ha _ (List.getElem_mem hj))), ih ht hj]

end Increasing

end VersionLog
