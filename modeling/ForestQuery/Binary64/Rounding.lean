import ForestQuery.Binary64.Basic

/-!
# Rounding to the 64-bit binary format

`roundUnits num den` is the magnitude of at most 53 significant bits that is nearest to the
quotient of `num` and `den`, a tie going to the even neighbour. `Binary64.ofRatio` rounds a
quotient of units, and whole numbers and decimals are read through it. `roundUnits_mod` says that
a rounded magnitude keeps 53 bits, which is what puts it into `Finite`.
-/

namespace ForestQuery

/-- The whole number nearest to the quotient; of two equally near the even one. -/
def divRound (num den : Nat) : Nat :=
  if den < 2 * (num % den) ∨ (den = 2 * (num % den) ∧ num / den % 2 = 1) then
    num / den + 1
  else
    num / den

/-- The quotient rounded to 53 significant bits, nearest and ties to even. -/
def roundUnits (num den : Nat) : Nat :=
  let step := Nat.pow 2 (droppedBits (num / den))
  divRound num (den * step) * step

theorem divRound_le (num den : Nat) : divRound num den ≤ num / den + 1 := by
  unfold divRound
  split <;> omega

/-- A multiple of a power of two that needs no more than 53 bits is divisible by the power of two
its own size drops. -/
theorem mod_droppedBits_of_mul {k s : Nat} (hk : k ≤ Nat.pow 2 53) :
    k * Nat.pow 2 s % Nat.pow 2 (droppedBits (k * Nat.pow 2 s)) = 0 := by
  simp only [Nat.pow_eq] at *
  apply Nat.mod_eq_zero_of_dvd
  by_cases hz : k * 2 ^ s = 0
  · rw [hz]; exact Nat.dvd_zero _
  by_cases hlt : k < 2 ^ 53
  · -- fewer than 53 bits above the shift: the size drops no more than the shift
    have hbound : k * 2 ^ s < 2 ^ (53 + s) := by
      rw [Nat.pow_add]
      exact Nat.mul_lt_mul_of_pos_right hlt (Nat.two_pow_pos s)
    have hlog := (Nat.log2_lt hz).2 hbound
    exact Nat.dvd_trans (Nat.pow_dvd_pow 2 (by unfold droppedBits; omega)) (Nat.dvd_mul_left _ _)
  · -- rounded up to the next power of two, which has a single bit
    have hk53 : k = 2 ^ 53 := by omega
    subst hk53
    rw [← Nat.pow_add]
    refine Nat.pow_dvd_pow 2 ?_
    unfold droppedBits
    rw [Nat.log2_two_pow]
    omega

/-- A rounded magnitude keeps at most 53 significant bits. -/
theorem roundUnits_mod (num den : Nat) :
    roundUnits num den % Nat.pow 2 (droppedBits (roundUnits num den)) = 0 := by
  apply mod_droppedBits_of_mul
  have hq : num / (den * 2 ^ droppedBits (num / den)) < 2 ^ 53 := by
    rw [← Nat.div_div_eq_div_mul]
    apply Nat.div_lt_of_lt_mul
    by_cases hz : num / den = 0
    · rw [hz]; exact Nat.mul_pos (Nat.two_pow_pos _) (Nat.two_pow_pos _)
    · rw [← Nat.pow_add]
      exact (Nat.log2_lt hz).1 (by unfold droppedBits; omega)
  exact Nat.le_trans (divRound_le _ _) hq

namespace Binary64

/-- A quotient of units with a sign, rounded; beyond the largest magnitude lies infinity. -/
def ofRatio (negative : Bool) (num den : Nat) : Binary64 :=
  if h : roundUnits num den ≤ maxUnits then
    .finite ⟨negative, roundUnits num den, roundUnits_mod num den, h⟩
  else
    .infinite negative

/-- A whole number, rounded. -/
def ofInt (n : Int) : Binary64 :=
  ofRatio (n < 0) (n.natAbs * unitsPerOne) 1

end Binary64

end ForestQuery
