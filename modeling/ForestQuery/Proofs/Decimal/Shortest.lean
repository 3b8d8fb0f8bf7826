import ForestQuery.Binary64.Shortest
import ForestQuery.Proofs.Decimal.Nearest

/-!
# The shortest decimal rounds back

The shortest decimal of a finite number is found by rounding candidates, so that it rounds back to
the number; where no short candidate does, the number's own expansion is taken, which needs no
rounding. Zeros that are taken off the end of the digits only move the power of ten.

## Key results

- `roundUnits_mul_right`: rounding a quotient does not depend on how it is written
- `roundUnits_one`: a magnitude of the format is rounded to itself
- `Decimal.toBinary64_mul_pow`: zeros at the end of the digits count in the power of ten
- `Finite.toBinary64_shortest`: the shortest decimal rounds back
-/

namespace ForestQuery

/-! ### Rounding a quotient -/

theorem divRound_mul_right {k : Nat} (hk : 0 < k) (num den : Nat) :
    divRound (num * k) (den * k) = divRound num den := by
  unfold divRound
  rw [Nat.mul_div_mul_right _ _ hk, Nat.mul_mod_mul_right]
  have hassoc : 2 * (num % den * k) = 2 * (num % den) * k := by rw [Nat.mul_assoc]
  have hlt : den * k < 2 * (num % den) * k ↔ den < 2 * (num % den) := Nat.mul_lt_mul_right hk
  have heq : den * k = 2 * (num % den) * k ↔ den = 2 * (num % den) := Nat.mul_left_inj (by omega)
  simp only [hassoc, hlt, heq]

/-- Rounding a quotient does not depend on how it is written. -/
theorem roundUnits_mul_right {k : Nat} (hk : 0 < k) (num den : Nat) :
    roundUnits (num * k) (den * k) = roundUnits num den := by
  unfold roundUnits
  dsimp only
  rw [Nat.mul_div_mul_right _ _ hk, Nat.mul_right_comm, divRound_mul_right hk]

/-- A magnitude of the format is rounded to itself. -/
theorem roundUnits_one {units : Nat} (h : Representable units) : roundUnits units 1 = units := by
  have hnearest : gap units 1 (roundUnits units 1) ≤ gap units 1 units :=
    roundUnits_nearest Nat.one_pos h.1
  simp only [gap, Nat.mul_one] at hnearest
  omega

namespace Binary64

theorem ofRatio_mul_right {k : Nat} (hk : 0 < k) (negative : Bool) (num den : Nat) :
    ofRatio negative (num * k) (den * k) = ofRatio negative num den := by
  simp only [ofRatio, roundUnits_mul_right hk]

/-- A quotient that is rounded to the magnitude of a finite number, and has its sign, becomes it. -/
theorem ofRatio_eq_finite {x : Finite} {num den : Nat} (h : roundUnits num den = x.units) :
    ofRatio x.negative num den = .finite x := by
  have hle : roundUnits num den ≤ maxUnits := h ▸ x.representable.2
  rw [ofRatio, dif_pos hle]
  simp only [h]

end Binary64

/-! ### Zeros at the end of the digits -/

namespace Decimal

/-- A zero at the end of the digits counts in the power of ten. -/
theorem toBinary64_ten_mul (negative : Bool) (significand : Nat) (exponent : Int) :
    (⟨negative, 10 * significand, exponent⟩ : Decimal).toBinary64 =
      (⟨negative, significand, exponent + 1⟩ : Decimal).toBinary64 := by
  rw [toBinary64_eq_ofRatio, toBinary64_eq_ofRatio]
  -- the quotient is the same number, written with a factor of ten above and below the line
  match exponent with
  | .ofNat e =>
    have hnum : 10 * significand * Nat.pow 10 e * unitsPerOne =
        significand * Nat.pow 10 (e + 1) * unitsPerOne := by
      rw [Nat.pow_eq, Nat.pow_eq, Nat.pow_succ, Nat.mul_comm 10, Nat.mul_assoc significand,
        Nat.mul_comm 10]
    show Binary64.ofRatio negative (10 * significand * Nat.pow 10 e * unitsPerOne) 1 = _
    rw [hnum]
    rfl
  | .negSucc 0 =>
    have hnum : significand * Nat.pow 10 0 * unitsPerOne * 10 = 10 * significand * unitsPerOne := by
      rw [Nat.pow_eq, Nat.pow_zero, Nat.mul_one, Nat.mul_comm _ 10, Nat.mul_assoc]
    show Binary64.ofRatio negative (10 * significand * unitsPerOne) (1 * 10) =
      Binary64.ofRatio negative (significand * Nat.pow 10 0 * unitsPerOne) 1
    rw [← hnum, Binary64.ofRatio_mul_right (by omega)]
  | .negSucc (e + 1) =>
    have hnum : significand * unitsPerOne * 10 = 10 * significand * unitsPerOne := by
      rw [Nat.mul_comm _ 10, Nat.mul_assoc]
    show Binary64.ofRatio negative (10 * significand * unitsPerOne) (Nat.pow 10 (e + 1) * 10) =
      Binary64.ofRatio negative (significand * unitsPerOne) (Nat.pow 10 (e + 1))
    rw [← hnum, Binary64.ofRatio_mul_right (by omega)]

/-- Zeros at the end of the digits count in the power of ten. -/
theorem toBinary64_mul_pow (negative : Bool) (significand : Nat) (exponent : Int) (zeros : Nat) :
    (⟨negative, significand * Nat.pow 10 zeros, exponent⟩ : Decimal).toBinary64 =
      (⟨negative, significand, exponent + zeros⟩ : Decimal).toBinary64 := by
  induction zeros generalizing exponent with
  | zero => simp
  | succ zeros ih =>
    have hten : significand * Nat.pow 10 (zeros + 1) = 10 * (significand * Nat.pow 10 zeros) := by
      rw [Nat.pow_eq, Nat.pow_eq, Nat.pow_succ, ← Nat.mul_assoc, Nat.mul_comm]
    have hexponent : exponent + 1 + (zeros : Int) = exponent + (zeros + 1 : Nat) := by omega
    rw [hten, toBinary64_ten_mul, ih, hexponent]

end Decimal

/-! ### The shortest decimal -/

namespace Finite

/-- So many steps of a power of ten, with a sign. -/
def signed (negative : Bool) (steps : Steps) : Decimal := ⟨negative, steps.1, steps.2⟩

/-- Steps that read back are read as the number. -/
theorem toBinary64_of_readsBack {x : Finite} {steps : Steps}
    (h : readsBack x.units steps.1 steps.2 = true) :
    (signed x.negative steps).toBinary64 = .finite x := by
  rw [Decimal.toBinary64_eq_ofRatio]
  exact Binary64.ofRatio_eq_finite (eq_of_beq h)

/-- Only a neighbour that reads back is taken. -/
theorem readsBack_of_neighbour? {units : Nat} {exponent : Int} {steps : Steps}
    (h : neighbour? units exponent = some steps) : readsBack units steps.1 steps.2 = true := by
  unfold neighbour? at h
  simp only at h
  split at h
  · next hbelow habove =>
    split at h
    · cases h
      exact habove
    · cases h
      exact hbelow
  · next hbelow habove =>
    cases h
    exact hbelow
  · next hbelow habove =>
    cases h
    exact habove
  · cases h

/-- Taking zeros off the end changes nothing in what is read. -/
theorem toBinary64_stripZeros (negative : Bool) (count : Nat) (exponent : Int) :
    (signed negative (stripZeros count exponent)).toBinary64 =
      (signed negative (count, exponent)).toBinary64 := by
  fun_induction stripZeros count exponent with
  | case1 count exponent h ih =>
    have hten : 10 * (count / 10) = count := by omega
    rw [ih]
    show (⟨negative, count / 10, exponent + 1⟩ : Decimal).toBinary64 = _
    rw [← Decimal.toBinary64_ten_mul, hten]
    rfl
  | case2 count exponent h => rfl

/-- The magnitude's own expansion, with as many digits after the point as a unit has powers of two,
is read as the magnitude. -/
theorem readsBack_expansion {units e : Nat} (he : unitsPerOne = Nat.pow 2 e) (hpos : 0 < e)
    (h : Representable units) : readsBack units (units * Nat.pow 5 e) (-(e : Int)) = true := by
  obtain ⟨k, rfl⟩ := Nat.exists_eq_succ_of_ne_zero (Nat.ne_of_gt hpos)
  have hscale : 0 < Nat.pow 5 (k + 1) * unitsPerOne := by
    rw [he]
    exact Nat.mul_pos (Nat.pow_pos (by decide)) (Nat.two_pow_pos _)
  have hten : Nat.pow 10 (k + 1) = 1 * (Nat.pow 5 (k + 1) * unitsPerOne) := by
    rw [he, Nat.one_mul]
    exact Nat.mul_pow 5 2 (k + 1)
  show (roundUnits (units * Nat.pow 5 (k + 1) * unitsPerOne) (Nat.pow 10 (k + 1)) == units) = true
  rw [beq_iff_eq, hten, Nat.mul_assoc, roundUnits_mul_right hscale, roundUnits_one h]

/-- A candidate reads back. -/
theorem readsBack_of_candidate? {units : Nat} {steps : Steps} (h : candidate? units = some steps) :
    readsBack units steps.1 steps.2 = true := by
  obtain ⟨extra, -, hneighbour⟩ := List.exists_of_findSome?_eq_some h
  exact readsBack_of_neighbour? hneighbour

/-- The shortest decimal of a number is read as that number. -/
theorem toBinary64_shortest (x : Finite) :
    (signed x.negative (shortest x.units)).toBinary64 = .finite x := by
  unfold shortest
  cases hcandidate : candidate? x.units with
  | some steps =>
    rw [Option.elim_some, toBinary64_stripZeros]
    exact toBinary64_of_readsBack (readsBack_of_candidate? hcandidate)
  | none =>
    rw [Option.elim_none]
    have hunits : unitsPerOne = Nat.pow 2 1074 := by
      delta unitsPerOne
      rfl
    have hpos : 0 < 1074 := by decide
    have hsteps : (-1074 : Int) = -((1074 : Nat) : Int) := rfl
    rw [hsteps]
    -- the powers are never to be evaluated
    generalize 1074 = e at *
    exact toBinary64_of_readsBack (readsBack_expansion hunits hpos x.representable)

end Finite

end ForestQuery
