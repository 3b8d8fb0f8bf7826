import ForestQuery.Decimal.Basic

/-!
# Reading a decimal number is rounding it

A decimal number is read as the number of the binary format that lies nearest to it. Distances are
taken in units and times the denominator, so that they are whole numbers. The conversion does not
write out numbers whose power of ten alone decides; what it takes for them is what they are rounded
to.

## Key results

- `divRound_nearest`, `divRound_even`: the whole number nearest to a quotient, the even one of two
- `roundUnits_nearest`: no magnitude of at most 53 bits lies nearer than the rounded one
- `Decimal.toBinary64_eq_ofRatio`: the conversion of a decimal number is rounding throughout
- `Decimal.toBinary64_nearest`: no finite number lies nearer to a decimal number than what it is
  read as
-/

namespace ForestQuery

/-- How far a whole number lies from a quotient, times the denominator. -/
def gap (num den x : Nat) : Nat := (num - x * den) + (x * den - num)

/-! ### Rounding to whole numbers -/

/-- No whole number lies nearer to a quotient than the rounded one. -/
theorem divRound_nearest {num den : Nat} (hden : 0 < den) (k : Nat) :
    gap num den (divRound num den) ≤ gap num den k := by
  have hmod := Nat.mod_lt num hden
  have hdiv := Nat.div_add_mod' num den
  have hnext : (num / den + 1) * den = num / den * den + den := Nat.succ_mul _ _
  -- the two whole numbers around the quotient part all others into those below and those above
  have hside : k * den ≤ num / den * den ∨ (num / den + 1) * den ≤ k * den := by
    obtain hle | hlt := Nat.lt_or_ge (num / den) k
    · exact .inr (Nat.mul_le_mul_right den hle)
    · exact .inl (Nat.mul_le_mul_right den hlt)
  rw [divRound, gap, gap]
  split <;> omega

theorem le_divRound (num den : Nat) : num / den ≤ divRound num den := by
  rw [divRound]
  split <;> omega

/-- Of two whole numbers that lie equally near to a quotient the even one is taken. -/
theorem divRound_even {num den : Nat} (htie : den = 2 * (num % den)) :
    divRound num den % 2 = 0 := by
  rw [divRound]
  split <;> omega

/-! ### Rounding to 53 bits -/

theorem gap_mul_step (num den step k : Nat) : gap num den (k * step) = gap num (den * step) k := by
  have hassoc : k * step * den = k * (den * step) := by
    rw [Nat.mul_assoc, Nat.mul_comm step den]
  rw [gap, gap, hassoc]

/-- A magnitude of at most 53 bits that is no multiple of the last bit that is kept of another one
lies below the first bit of that. -/
theorem dvd_or_lt_of_mod_eq_zero (units : Nat) {other : Nat}
    (hother : other % Nat.pow 2 (droppedBits other) = 0) :
    Nat.pow 2 (droppedBits units) ∣ other ∨ units ≠ 0 ∧ other < Nat.pow 2 units.log2 := by
  by_cases hle : droppedBits units ≤ droppedBits other
  · left
    exact Nat.dvd_trans (Nat.pow_dvd_pow 2 hle) (Nat.dvd_of_mod_eq_zero hother)
  · right
    have hlog : other.log2 < units.log2 := by
      unfold droppedBits at hle
      omega
    refine ⟨?_, ?_⟩
    · intro hzero
      simp [hzero] at hlog
    · by_cases hzero : other = 0
      · rw [hzero]
        exact Nat.two_pow_pos _
      · exact (Nat.log2_lt hzero).1 hlog

/-- No magnitude of at most 53 bits lies nearer to a quotient than the rounded one. -/
theorem roundUnits_nearest {num den other : Nat} (hden : 0 < den)
    (hother : other % Nat.pow 2 (droppedBits other) = 0) :
    gap num den (roundUnits num den) ≤ gap num den other := by
  have hstep : 0 < den * Nat.pow 2 (droppedBits (num / den)) :=
    Nat.mul_pos hden (Nat.two_pow_pos _)
  have hmultiple {x : Nat} (hx : Nat.pow 2 (droppedBits (num / den)) ∣ x) :
      gap num den (roundUnits num den) ≤ gap num den x := by
    obtain ⟨k, rfl⟩ := hx
    rw [roundUnits, Nat.mul_comm _ k, gap_mul_step, gap_mul_step]
    exact divRound_nearest hstep k
  obtain hdvd | ⟨hne, hlt⟩ := dvd_or_lt_of_mod_eq_zero (num / den) hother
  · exact hmultiple hdvd
  · -- the first bit of the quotient lies between
    have hbit : Nat.pow 2 (num / den).log2 ≤ num / den := Nat.log2_self_le hne
    have hnum : Nat.pow 2 (num / den).log2 * den ≤ num := by
      calc Nat.pow 2 (num / den).log2 * den ≤ num / den * den := Nat.mul_le_mul_right den hbit
        _ ≤ num := Nat.div_mul_le_self num den
    have hbelow : other * den ≤ Nat.pow 2 (num / den).log2 * den :=
      Nat.mul_le_mul_right den (Nat.le_of_lt hlt)
    have hfirst : gap num den (roundUnits num den) ≤ gap num den (Nat.pow 2 (num / den).log2) :=
      hmultiple (Nat.pow_dvd_pow 2 (Nat.sub_le _ _))
    refine Nat.le_trans hfirst ?_
    rw [gap, gap]
    omega

/-- Rounding keeps the first bit of a quotient. -/
theorem pow_log2_le_roundUnits {num den : Nat} (hne : num / den ≠ 0) :
    Nat.pow 2 (num / den).log2 ≤ roundUnits num den := by
  rw [roundUnits]
  have hle : Nat.pow 2 (num / den).log2 ≤ num / den := Nat.log2_self_le hne
  have hdvd : Nat.pow 2 (droppedBits (num / den)) ∣ Nat.pow 2 (num / den).log2 :=
    Nat.pow_dvd_pow 2 (Nat.sub_le _ _)
  have hstep : 0 < Nat.pow 2 (droppedBits (num / den)) := Nat.two_pow_pos _
  generalize Nat.pow 2 (droppedBits (num / den)) = step at *
  calc Nat.pow 2 (num / den).log2 = Nat.pow 2 (num / den).log2 / step * step :=
        (Nat.div_mul_cancel hdvd).symm
    _ ≤ num / den / step * step := Nat.mul_le_mul_right step (Nat.div_le_div_right hle)
    _ = num / (den * step) * step := by rw [Nat.div_div_eq_div_mul]
    _ ≤ divRound num (den * step) * step := Nat.mul_le_mul_right step (le_divRound num _)

/-- Rounding at most halves a quotient. -/
theorem div_le_two_mul_roundUnits (num den : Nat) : num / den ≤ 2 * roundUnits num den := by
  by_cases hzero : num / den = 0
  · rw [hzero]
    exact Nat.zero_le _
  · have hlog : num / den < Nat.pow 2 (num / den).log2 * 2 := Nat.lt_log2_self
    have hfirst := pow_log2_le_roundUnits hzero
    omega

/-- What lies below one half is rounded to zero. -/
theorem roundUnits_eq_zero {num den : Nat} (hlt : 2 * num < den) : roundUnits num den = 0 := by
  have hdiv : num / den = 0 := Nat.div_eq_of_lt (by omega)
  have hmod : num % den = num := Nat.mod_eq_of_lt (by omega)
  have hstep : Nat.pow 2 (droppedBits 0) = 1 := rfl
  rw [roundUnits, hdiv, hstep, Nat.mul_one, Nat.mul_one, divRound, hdiv, hmod, if_neg (by omega)]

namespace Binary64

/-- A quotient that is rounded to a finite number has its sign, and no finite number lies nearer. -/
theorem ofRatio_nearest {negative : Bool} {num den : Nat} {x : Finite} (hden : 0 < den)
    (hx : ofRatio negative num den = .finite x) :
    x.negative = negative ∧ ∀ y : Finite, gap num den x.units ≤ gap num den y.units := by
  rw [ofRatio] at hx
  split at hx
  · obtain rfl := finite.inj hx
    exact ⟨rfl, fun y => roundUnits_nearest hden y.representable.1⟩
  · cases hx

theorem ofRatio_eq_zero {num den : Nat} (hzero : roundUnits num den = 0) (negative : Bool) :
    ofRatio negative num den = .finite (.zero negative) := by
  rw [ofRatio, dif_pos (hzero ▸ Nat.zero_le _), Finite.zero]
  simp only [hzero]

end Binary64

/-! ### Decimal numbers -/

namespace Decimal

/-- The numerator of a decimal number in units. -/
def num (d : Decimal) : Nat := (unitRatio d.significand d.exponent).1

/-- The denominator of a decimal number in units. -/
def den (d : Decimal) : Nat := (unitRatio d.significand d.exponent).2

theorem den_pos (d : Decimal) : 0 < d.den := by
  obtain ⟨negative, significand, exponent⟩ := d
  cases exponent with
  | ofNat e => exact Nat.one_pos
  | negSucc e => exact Nat.pow_pos (by decide)

theorem pow_ten_mul_le {a b e : Nat} (h : a + b ≤ e) :
    Nat.pow 10 a * Nat.pow 10 b ≤ Nat.pow 10 e := by
  calc Nat.pow 10 a * Nat.pow 10 b = Nat.pow 10 (a + b) := (Nat.pow_add 10 a b).symm
    _ ≤ Nat.pow 10 e := Nat.pow_le_pow_right (by decide) h

theorem num_eq_zero {d : Decimal} (hzero : d.significand = 0) : d.num = 0 := by
  obtain ⟨negative, significand, exponent⟩ := d
  subst hzero
  cases exponent <;> simp [num, unitRatio]

/-- From the power 401 of ten on, all but zero lies beyond the range of the format. -/
theorem maxUnits_lt_roundUnits {d : Decimal} (hne : d.significand ≠ 0) (hlarge : 400 < d.exponent) :
    maxUnits < roundUnits d.num d.den := by
  obtain ⟨negative, significand, exponent⟩ := d
  dsimp only at hne hlarge
  obtain ⟨e, rfl⟩ := Int.eq_ofNat_of_zero_le (by omega : 0 ≤ exponent)
  -- in two factors, since Lean evaluates no power beyond 256 while it reads a statement
  have hpow : 1 * (Nat.pow 10 200 * Nat.pow 10 201) ≤ significand * Nat.pow 10 e :=
    Nat.mul_le_mul (Nat.pos_of_ne_zero hne) (pow_ten_mul_le (by omega))
  have hunits : 2 * maxUnits < significand * Nat.pow 10 e * unitsPerOne := by
    calc 2 * maxUnits < 1 * (Nat.pow 10 200 * Nat.pow 10 201) * unitsPerOne := by decide +kernel
      _ ≤ significand * Nat.pow 10 e * unitsPerOne := Nat.mul_le_mul_right _ hpow
  have hround := div_le_two_mul_roundUnits (significand * Nat.pow 10 e * unitsPerOne) 1
  rw [Nat.div_one] at hround
  have hlt : maxUnits < roundUnits (significand * Nat.pow 10 e * unitsPerOne) 1 := by omega
  exact hlt

/-- What lies below the power -400 of ten is less than half a unit. -/
theorem two_mul_num_lt_den {d : Decimal} (hsmall : d.exponent + d.significand.log2 + 1 < -400) :
    2 * d.num < d.den := by
  obtain ⟨negative, significand, exponent⟩ := d
  dsimp only at hsmall
  obtain ⟨k, rfl⟩ := Int.eq_negSucc_of_lt_zero (by omega : exponent < 0)
  -- the digits make up for no more than their own number of the tens that divide them
  have hbits : significand < Nat.pow 2 (significand.log2 + 1) := Nat.lt_log2_self
  have hten : Nat.pow 2 (significand.log2 + 1) ≤ Nat.pow 10 (significand.log2 + 1) :=
    Nat.pow_le_pow_left (by decide) _
  have hpow : Nat.pow 10 200 * Nat.pow 10 200 ≤ Nat.pow 10 (k - significand.log2) :=
    pow_ten_mul_le (by omega)
  calc 2 * (significand * unitsPerOne) = significand * (2 * unitsPerOne) := Nat.mul_left_comm ..
    _ < Nat.pow 10 (significand.log2 + 1) * (2 * unitsPerOne) :=
      Nat.mul_lt_mul_of_pos_right (Nat.lt_of_lt_of_le hbits hten) (by decide +kernel)
    _ ≤ Nat.pow 10 (significand.log2 + 1) * Nat.pow 10 (k - significand.log2) :=
      Nat.mul_le_mul_left _ (Nat.le_trans (by decide +kernel) hpow)
    _ ≤ Nat.pow 10 (k + 1) := pow_ten_mul_le (by omega)

/-- The conversion of a decimal number is rounding throughout. -/
theorem toBinary64_eq_ofRatio (d : Decimal) :
    d.toBinary64 = .ofRatio d.negative d.num d.den := by
  rw [toBinary64]
  split
  · next hzero =>
    have hnum : 2 * d.num < d.den := by
      rw [num_eq_zero hzero]
      exact d.den_pos
    rw [Binary64.ofRatio_eq_zero (roundUnits_eq_zero hnum)]
  · next hne =>
    split
    · next hlarge =>
      rw [Binary64.ofRatio, dif_neg (Nat.not_le_of_lt (maxUnits_lt_roundUnits hne hlarge))]
    · split
      · next hsmall =>
        rw [Binary64.ofRatio_eq_zero (roundUnits_eq_zero (two_mul_num_lt_den hsmall))]
      · rfl

/-- A decimal number that is read as a finite number has its sign, and no finite number lies
nearer. -/
theorem toBinary64_nearest {d : Decimal} {x : Finite} (hx : d.toBinary64 = .finite x) :
    x.negative = d.negative ∧ ∀ y : Finite, gap d.num d.den x.units ≤ gap d.num d.den y.units := by
  rw [toBinary64_eq_ofRatio] at hx
  exact Binary64.ofRatio_nearest d.den_pos hx

end Decimal

end ForestQuery
