import Mathlib.Data.Rat.Floor

/-!
# Floored division over truncated division

Machine division of integers truncates toward zero (`Int.tdiv`); floored division (`Int.fdiv`)
rounds toward negative infinity.  The two quotients differ by one exactly when the operands have
different signs and the division is not exact, which is the correction a floored division
written over a truncating one makes.  Over a signed type whose values are the integers of
`[-M, M)`, both quotients of two of its values fit in it, except the quotient of `-M` by `-1`,
and the floored remainder always does.

* `fdiv_eq_tdiv_sub` — the floored quotient is the truncated one, less one when the signs
  differ and the truncated quotient times the divisor misses the dividend;
* `fdiv_eq_floor` — the floored quotient is the floor of the rational quotient;
* `fmod_bounds_of_neg` — the floored remainder by a negative divisor lies in `(b, 0]`;
* `tdiv_mem_range`, `tdiv_mul_mem_range`, `fdiv_mem_range`, `fmod_mem_range` — the quotients,
  the product of the truncated quotient with the divisor, and the floored remainder stay in the
  range of the operands.
-/

set_option autoImplicit false

namespace SignedDivision

theorem dvd_iff_tdiv_mul_eq {a b : Int} : b ∣ a ↔ a.tdiv b * b = a :=
  ⟨Int.tdiv_mul_cancel, fun h => ⟨a.tdiv b, by rw [Int.mul_comm]; exact h.symm⟩⟩

/-- **Floored division from truncated division**: one less than the truncated quotient when
the signs differ and the division is not exact, the truncated quotient otherwise. -/
theorem fdiv_eq_tdiv_sub (a : Int) {b : Int} (hb : b ≠ 0) :
    a.fdiv b = if (a < 0 ↔ 0 ≤ b) ∧ a.tdiv b * b ≠ a then a.tdiv b - 1 else a.tdiv b := by
  rw [Int.fdiv_eq_tdiv]
  by_cases hd : b ∣ a
  · rw [if_pos hd, if_neg (fun h => h.2 (dvd_iff_tdiv_mul_eq.mp hd))]
    omega
  · have hne : a.tdiv b * b ≠ a := mt dvd_iff_tdiv_mul_eq.mpr hd
    rw [if_neg hd]
    rcases lt_or_gt_of_ne hb with hneg | hpos
    · rw [Int.sign_eq_neg_one_of_neg hneg]
      by_cases ha : 0 ≤ a
      · rw [if_pos ha, if_neg (by omega), if_pos ⟨by omega, hne⟩]
      · rw [if_neg ha, if_neg (by omega), if_neg (by omega)]
        omega
    · rw [Int.sign_eq_one_of_pos hpos]
      by_cases ha : 0 ≤ a
      · rw [if_pos ha, if_pos (by omega), if_neg (by omega)]
        omega
      · rw [if_neg ha, if_pos (by omega), if_pos ⟨by omega, hne⟩]

/-- The floored quotient is the floor of the rational quotient (both are zero for a zero
divisor). -/
theorem fdiv_eq_floor (a b : Int) : a.fdiv b = ⌊(a : ℚ) / b⌋ := by
  rcases lt_trichotomy b 0 with hb | rfl | hb
  · obtain ⟨d, rfl⟩ : ∃ d : Nat, b = -(d : Int) := ⟨b.natAbs, by omega⟩
    have hq : (a : ℚ) / ((-(d : Int) : Int) : ℚ) = ((-a : Int) : ℚ) / (d : ℚ) := by
      push_cast
      rw [div_neg, neg_div]
    rw [hq, Rat.floor_intCast_div_natCast, ← Int.neg_fdiv_neg, Int.neg_neg,
      Int.fdiv_eq_ediv_of_nonneg _ (Int.natCast_nonneg d)]
  · simp
  · obtain ⟨d, rfl⟩ : ∃ d : Nat, b = (d : Int) := ⟨b.toNat, by omega⟩
    rw [Int.cast_natCast, Rat.floor_intCast_div_natCast,
      Int.fdiv_eq_ediv_of_nonneg _ (Int.natCast_nonneg d)]

section Range

variable {M a b : Int}

theorem natAbs_tdiv_le_half (hb : 2 ≤ b.natAbs) : (a.tdiv b).natAbs ≤ a.natAbs / 2 := by
  rw [Int.natAbs_tdiv]
  exact Nat.div_le_div_left hb (by decide)

/-- The truncated quotient of two values of `[-M, M)` is one, except `-M / -1`. -/
theorem tdiv_mem_range (ha : -M ≤ a ∧ a < M) (hx : ¬ (a = -M ∧ b = -1)) :
    -M ≤ a.tdiv b ∧ a.tdiv b < M := by
  by_cases hb1 : b.natAbs = 1
  · rcases Int.natAbs_eq b with hb | hb <;> rw [hb1] at hb <;> subst hb
    · simp only [Nat.cast_one, Int.tdiv_one]
      omega
    · simp only [Nat.cast_one, Int.tdiv_neg, Int.tdiv_one]
      omega
  · by_cases hb0 : b = 0
    · simp only [hb0, Int.tdiv_zero]
      omega
    · have hh := natAbs_tdiv_le_half (a := a) (by omega : 2 ≤ b.natAbs)
      omega

/-- The truncated quotient times the divisor lies between zero and the dividend. -/
theorem tdiv_mul_mem_range (ha : -M ≤ a ∧ a < M) : -M ≤ a.tdiv b * b ∧ a.tdiv b * b < M := by
  have hdef : a.tdiv b * b = a - a.tmod b := by
    rw [Int.tmod_def, Int.mul_comm]
    omega
  have hle : (a.tmod b).natAbs ≤ a.natAbs := by
    rw [Int.natAbs_tmod]
    exact Nat.mod_le _ _
  rcases Int.le_total 0 a with h0 | h0
  · have := Int.tmod_nonneg b h0
    omega
  · have hneg := Int.tmod_nonneg b (Int.neg_nonneg_of_nonpos h0)
    rw [Int.neg_tmod] at hneg
    omega

/-- The floored quotient of two values of `[-M, M)` is one, except `-M / -1`. -/
theorem fdiv_mem_range (ha : -M ≤ a ∧ a < M) (hb : -M ≤ b ∧ b < M) (hb0 : b ≠ 0)
    (hx : ¬ (a = -M ∧ b = -1)) : -M ≤ a.fdiv b ∧ a.fdiv b < M := by
  have ht := tdiv_mem_range ha hx
  rw [fdiv_eq_tdiv_sub a hb0]
  split
  · -- a corrected quotient: the division is not exact, so `|b| ≥ 2` halves the quotient
    rename_i hc
    have hb1 : b.natAbs ≠ 1 := by
      intro h1
      apply hc.2
      apply dvd_iff_tdiv_mul_eq.mp
      rcases Int.natAbs_eq b with h | h <;> rw [h1] at h <;> subst h <;> simp
    have hh := natAbs_tdiv_le_half (a := a) (by omega : 2 ≤ b.natAbs)
    omega
  · exact ht

/-- The floored remainder by a negative divisor lies in `(b, 0]`. -/
theorem fmod_bounds_of_neg (a : Int) (hb : b < 0) : b < a.fmod b ∧ a.fmod b ≤ 0 := by
  have h := (Int.fdiv_fmod_unique' (a := a) (q := a.fdiv b) (r := a.fmod b) hb).mp ⟨rfl, rfl⟩
  exact h.2

/-- The floored remainder by a value of `[-M, M)` is one. -/
theorem fmod_mem_range (hb : -M ≤ b ∧ b < M) (hb0 : b ≠ 0) : -M ≤ a.fmod b ∧ a.fmod b < M := by
  rcases lt_or_gt_of_ne hb0 with hneg | hpos
  · have h := fmod_bounds_of_neg a hneg
    omega
  · have h1 := Int.fmod_nonneg_of_pos a hpos
    have h2 := Int.fmod_lt_of_pos a hpos
    omega

end Range

end SignedDivision
