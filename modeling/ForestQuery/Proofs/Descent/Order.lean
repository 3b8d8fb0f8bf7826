import ForestQuery.Number
import ForestQuery.Operator

/-!
# The order of stored numbers

Every number in a document is finite in the binary format, so it has a place, and comparing numbers
is comparing places.

## Key results

- `Number.exists_finite`: a stored number is finite, whole or not
- `Binary64.any_greater_compare?`, `Binary64.any_less_compare?`: the strict relations of conditions
  are the order
- `Binary64.lt_trans`, `Binary64.lt_irrefl`: the order is strict
-/

namespace ForestQuery

/-- Rounding at most doubles a magnitude, but for the smallest ones. -/
theorem roundUnits_le (num den : Nat) : roundUnits num den ≤ 2 * (num / den) + 1 := by
  have hstep : Nat.pow 2 (droppedBits (num / den)) ≤ num / den + 1 := by
    by_cases hzero : num / den = 0
    · simp [hzero, droppedBits]
    · calc Nat.pow 2 (droppedBits (num / den)) ≤ Nat.pow 2 (num / den).log2 :=
            Nat.pow_le_pow_right (by omega) (Nat.sub_le _ _)
        _ ≤ num / den := Nat.log2_self_le hzero
        _ ≤ num / den + 1 := Nat.le_succ _
  have hround := divRound_le num (den * Nat.pow 2 (droppedBits (num / den)))
  rw [← Nat.div_div_eq_div_mul] at hround
  rw [roundUnits]
  generalize Nat.pow 2 (droppedBits (num / den)) = step at *
  calc divRound num (den * step) * step ≤ (num / den / step + 1) * step :=
        Nat.mul_le_mul_right step hround
    _ = num / den / step * step + step := Nat.succ_mul _ _
    _ ≤ num / den + step := Nat.add_le_add_right (Nat.div_mul_le_self _ _) step
    _ ≤ 2 * (num / den) + 1 := by omega

/-- A whole number within 64 bits is finite in the binary format. -/
theorem Binary64.ofInt_finite {n : Int} (h : InWordRange n) : ∃ x, ofInt n = .finite x := by
  have hunits : n.natAbs * unitsPerOne ≤ 18446744073709551616 * unitsPerOne := by
    apply Nat.mul_le_mul_right
    obtain ⟨hlow, hhigh⟩ := h
    omega
  have hmax : 2 * (18446744073709551616 * unitsPerOne) + 1 ≤ maxUnits := by decide +kernel
  have hround := roundUnits_le (n.natAbs * unitsPerOne) 1
  rw [Nat.div_one] at hround
  have hle : roundUnits (n.natAbs * unitsPerOne) 1 ≤ maxUnits := by omega
  exact ⟨_, dif_pos hle⟩

/-- A stored number is finite in the binary format. -/
theorem Number.exists_finite (n : Number) : ∃ x, n.toBinary64 = .finite x := by
  cases n with
  | int value fits => exact Binary64.ofInt_finite fits
  | float x => exact ⟨x, rfl⟩

namespace Binary64

theorem lt_iff {x y : Binary64} :
    x.lt y = true ↔ ∃ a b, x.place? = some a ∧ y.place? = some b ∧ a < b := by
  rw [lt, compare?]
  split
  · next a b hx hy => simp [hx, hy, Int.compare_eq_lt]
  · next h =>
    constructor
    · intro hnone
      exact absurd hnone (by decide)
    · intro hplaces
      obtain ⟨a, b, hx, hy, -⟩ := hplaces
      exact absurd hy (h a b hx)

/-- A number that compares above a bound lies above it. -/
theorem any_greater_compare? (x y : Binary64) :
    (x.compare? y).any Relation.greater.admits = y.lt x := by
  rw [Bool.eq_iff_iff, lt_iff, compare?]
  split
  · next a b hx hy => simp [hx, hy, Relation.admits, Int.compare_eq_gt]
  · next h =>
    constructor
    · intro hnone
      exact absurd hnone (by simp)
    · intro hplaces
      obtain ⟨b, a, hy, hx, -⟩ := hplaces
      exact absurd hy (h a b hx)

/-- A number that compares below a bound lies below it. -/
theorem any_less_compare? (x y : Binary64) :
    (x.compare? y).any Relation.less.admits = x.lt y := by
  rw [lt]
  cases x.compare? y <;> rfl

theorem lt_trans {x y z : Binary64} (hxy : x.lt y = true) (hyz : y.lt z = true) :
    x.lt z = true := by
  obtain ⟨a, b, hx, hy, hab⟩ := lt_iff.1 hxy
  obtain ⟨b', c, hy', hz, hbc⟩ := lt_iff.1 hyz
  obtain rfl := Option.some.inj (hy.symm.trans hy')
  exact lt_iff.2 ⟨a, c, hx, hz, Int.lt_trans hab hbc⟩

theorem lt_irrefl (x : Binary64) : x.lt x = false := by
  rw [Bool.eq_false_iff]
  intro h
  obtain ⟨a, b, hx, hx', hab⟩ := lt_iff.1 h
  obtain rfl := Option.some.inj (hx.symm.trans hx')
  exact Int.lt_irrefl a hab

end Binary64

end ForestQuery
