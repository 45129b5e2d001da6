import Mathlib.Logic.Basic

/-!
# Go maps

A Go `map[K]V` as the model sees it: its entries, each key once, in the order the keys were
first inserted.  Assignment `m[k] = v` replaces the entry of `k` in place or appends one; a
read `m[k]` with the comma-ok form is `get`, and `delete(m, k)` is `delete`.  The iteration
order of a Go map is random; code whose result depends on it is not modelled with this type.

Results: the read-after-write rules `get_insert_self` and `get_insert_ne`, and `keys_insert`
— inserting never removes a key and adds only its own — and the key-set rules
`contains_insert` and `contains_delete`, with the reads after a delete, `get_delete_ne`,
`get_delete_self` and `get_foldl_delete`.
-/

set_option autoImplicit false

namespace GoLib

/-- A Go map, by its entries. -/
abbrev GoMap (κ ν : Type) := List (κ × ν)

namespace GoMap

variable {κ ν : Type} [DecidableEq κ]

/-- `v, ok := m[k]`. -/
def get (m : GoMap κ ν) (k : κ) : Option ν := (m.find? (·.1 = k)).map (·.2)

/-- `_, ok := m[k]`. -/
def contains (m : GoMap κ ν) (k : κ) : Bool := m.any (·.1 = k)

/-- `m[k] = v`. -/
def insert (m : GoMap κ ν) (k : κ) (v : ν) : GoMap κ ν :=
  if m.contains k then m.map fun e => if e.1 = k then (k, v) else e else m ++ [(k, v)]

/-- `delete(m, k)`. -/
def delete (m : GoMap κ ν) (k : κ) : GoMap κ ν := m.filter (·.1 ≠ k)

@[simp] theorem get_nil (k : κ) : get ([] : GoMap κ ν) k = none := rfl

theorem get_cons (k k' : κ) (v : ν) (m : GoMap κ ν) :
    get ((k', v) :: m) k = if k' = k then some v else get m k := by
  by_cases h : k' = k <;> simp [get, h]

theorem contains_iff (m : GoMap κ ν) (k : κ) : m.contains k = true ↔ (m.get k).isSome := by
  induction m with
  | nil => simp [contains, get]
  | cons e m ih =>
    obtain ⟨k', v⟩ := e
    rw [get_cons]
    by_cases h : k' = k
    · simp [contains, h]
    · simp only [contains, List.any_cons, h, decide_false, Bool.false_or, if_false] at ih ⊢
      exact ih

/-- A read of the key just written gives the value written. -/
@[simp] theorem get_insert_self (m : GoMap κ ν) (k : κ) (v : ν) : (m.insert k v).get k = some v := by
  unfold insert
  split
  · rename_i hc
    induction m with
    | nil => simp [contains] at hc
    | cons e m ih =>
      obtain ⟨k', v'⟩ := e
      by_cases h : k' = k
      · simp [get, h]
      · simp only [contains, List.any_cons, h, decide_false, Bool.false_or] at hc
        simp only [List.map_cons, h, if_false, get_cons]
        exact ih hc
  · rename_i hc
    induction m with
    | nil => simp [get]
    | cons e m ih =>
      obtain ⟨k', v'⟩ := e
      have h : k' ≠ k := by
        intro h; simp [contains, h] at hc
      simp only [contains, List.any_cons, h, decide_false, Bool.false_or] at hc
      simp only [List.cons_append, get_cons, h, if_false]
      exact ih hc

/-- A write leaves the other keys alone. -/
@[simp] theorem get_insert_ne (m : GoMap κ ν) {k k' : κ} (v : ν) (h : k' ≠ k) :
    (m.insert k v).get k' = m.get k' := by
  unfold insert
  split
  · rename_i hc
    clear hc
    induction m with
    | nil => rfl
    | cons e m ih =>
      obtain ⟨k'', v'⟩ := e
      by_cases hk : k'' = k
      · subst hk
        simp only [List.map_cons, if_true, get_cons, Ne.symm h, if_false]
        exact ih
      · simp only [List.map_cons, hk, if_false, get_cons]
        exact if_congr Iff.rfl rfl ih
  · rename_i hc
    clear hc
    induction m with
    | nil => simp [get, Ne.symm h]
    | cons e m ih =>
      obtain ⟨k'', v'⟩ := e
      simp only [List.cons_append, get_cons]
      exact if_congr Iff.rfl rfl ih

/-- The keys after a write: the old ones, and the new one if it was not there. -/
theorem keys_insert (m : GoMap κ ν) (k : κ) (v : ν) :
    (m.insert k v).map (·.1) = if m.contains k then m.map (·.1) else m.map (·.1) ++ [k] := by
  unfold insert
  split
  · simp only [List.map_map]
    congr 1
    funext e
    by_cases h : e.1 = k <;> simp [h]
  · simp

@[simp] theorem contains_insert (m : GoMap κ ν) (k k' : κ) (v : ν) :
    (m.insert k v).contains k' = (decide (k' = k) || m.contains k') := by
  by_cases h : k' = k
  · subst h; simp [contains_iff]
  · rw [Bool.eq_iff_iff, contains_iff, get_insert_ne m v h]
    simp [h, contains_iff]

@[simp] theorem contains_delete (m : GoMap κ ν) (k k' : κ) :
    (m.delete k).contains k' = (decide (k' ≠ k) && m.contains k') := by
  by_cases h : k' = k
  · subst h; simp [delete, contains]
  · simp only [delete, contains, List.any_filter, ne_eq, h, not_false_eq_true, decide_true, Bool.true_and]
    apply List.any_congr rfl
    intro e
    by_cases he : e.1 = k'
    · simp [he, h]
    · simp [he]

/-- A delete leaves the other keys alone. -/
theorem get_delete_ne (m : GoMap κ ν) {k k' : κ} (h : k' ≠ k) : (m.delete k).get k' = m.get k' := by
  induction m with
  | nil => rfl
  | cons e m ih =>
    obtain ⟨k'', v⟩ := e
    by_cases hk : k'' = k
    · subst hk
      have hne : k'' ≠ k' := Ne.symm h
      simp only [delete, List.filter_cons, ne_eq, not_true_eq_false, decide_false, Bool.false_eq_true, if_false] at ih ⊢
      rw [ih, get_cons, if_neg hne]
    · simp only [delete, List.filter_cons, ne_eq, hk, not_false_eq_true, decide_true, if_true] at ih ⊢
      rw [get_cons, get_cons, ih]

@[simp] theorem get_delete_self (m : GoMap κ ν) (k : κ) : (m.delete k).get k = none := by
  simp [delete, get, List.find?_filter]

/-- Deleting the keys of a list, one after the other. -/
theorem get_foldl_delete (ks : List κ) (m : GoMap κ ν) (k : κ) :
    (ks.foldl delete m).get k = if k ∈ ks then none else m.get k := by
  induction ks generalizing m with
  | nil => simp
  | cons k' ks ih =>
    rw [List.foldl_cons, ih]
    by_cases hk : k = k'
    · subst hk
      simp
    · simp [hk, get_delete_ne _ hk]

theorem get_append (m m' : GoMap κ ν) (k : κ) : (m ++ m').get k = (m.get k).or (m'.get k) := by
  simp [get, List.find?_append, Option.map_or]

theorem get_map_eq_none {α : Type} (l : List α) (f : α → κ) (g : α → ν) {k : κ}
    (h : ∀ a ∈ l, f a ≠ k) : GoMap.get (l.map fun a => (f a, g a)) k = none := by
  simp only [get, Option.map_eq_none_iff, List.find?_eq_none, List.mem_map]
  rintro _ ⟨a, ha, rfl⟩
  simpa using h a ha

theorem insert_of_get_eq_none (m : GoMap κ ν) (k : κ) (v : ν) (h : m.get k = none) :
    m.insert k v = m ++ [(k, v)] := by
  have hc : m.contains k = false := by
    rw [Bool.eq_false_iff]
    intro hc
    rw [contains_iff, h] at hc
    exact absurd hc (by simp)
  simp [insert, hc]

theorem nodup_keys_insert (m : GoMap κ ν) (k : κ) (v : ν) (h : (m.map (·.1)).Nodup) :
    ((m.insert k v).map (·.1)).Nodup := by
  rw [keys_insert]
  split
  · exact h
  · rename_i hc
    have hk : k ∉ m.map (·.1) := by
      intro hk
      obtain ⟨e, he, rfl⟩ := List.mem_map.mp hk
      exact hc (List.any_eq_true.mpr ⟨e, he, by simp⟩)
    refine List.nodup_append.mpr ⟨h, by simp, fun a ha b hb => ?_⟩
    rw [List.mem_singleton] at hb
    subst hb
    exact fun hak => hk (hak ▸ ha)

theorem get_of_mem {m : GoMap κ ν} (h : (m.map (·.1)).Nodup) {k : κ} {v : ν} (hkv : (k, v) ∈ m) :
    m.get k = some v := by
  induction m with
  | nil => simp at hkv
  | cons e m ih =>
    obtain ⟨k', v'⟩ := e
    obtain ⟨hk', hnd⟩ := List.nodup_cons.mp h
    rw [get_cons]
    rcases List.mem_cons.mp hkv with he | hkv
    · simp only [Prod.mk.injEq] at he
      simp [he.1, he.2]
    · have hne : k' ≠ k := fun hkk => hk' (hkk ▸ List.mem_map_of_mem (f := (·.1)) hkv)
      rw [if_neg hne]
      exact ih hnd hkv

theorem get_eq_none_iff (m : GoMap κ ν) (k : κ) : m.get k = none ↔ k ∉ m.map (·.1) := by
  simp only [get, Option.map_eq_none_iff, List.find?_eq_none, decide_eq_true_eq, List.mem_map,
    not_exists, not_and]

theorem mem_of_get_eq_some {m : GoMap κ ν} {k : κ} {v : ν} (h : m.get k = some v) : (k, v) ∈ m := by
  obtain ⟨e, he, rfl⟩ := Option.map_eq_some_iff.mp h
  have hk := List.find?_some he
  simp only [decide_eq_true_eq] at hk
  rw [← hk]
  exact List.mem_of_find?_eq_some he

theorem get_reverse {m : GoMap κ ν} (h : (m.map (·.1)).Nodup) (k : κ) :
    GoMap.get m.reverse k = m.get k := by
  have hrev : (m.reverse.map (·.1)).Nodup := by
    rw [List.map_reverse]
    exact List.pairwise_reverse.mpr (h.imp Ne.symm)
  cases hg : m.get k with
  | none =>
    rw [get_eq_none_iff] at hg ⊢
    simpa using hg
  | some v => exact get_of_mem hrev (List.mem_reverse.mpr (mem_of_get_eq_some hg))

end GoMap

end GoLib
