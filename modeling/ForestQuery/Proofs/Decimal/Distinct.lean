import ForestQuery.Proofs.Decimal.Printed

/-!
# Numbers with the same text

The text of a number tells the number. A whole number is read from its digits, without rounding; a
float is read from its shortest decimal, its sign with it; and a point or an exponent tells a float
from a whole number. So `1` and `1.0`, which compare as equal, have different texts, and so have the
two zeros.

## Key results

- `Decimal.intText_inj`: different whole numbers have different texts
- `Number.mark_mem_finiteText`: a float is written with a point or an exponent
- `Number.text_inj`: different numbers have different texts
-/

namespace ForestQuery

namespace Decimal

/-! ### Whole numbers -/

/-- No sign but a minus is written. -/
theorem Sign.eq_of_mem_chars_ofNegative {negative : Bool} {c : Char}
    (hc : c ∈ (ofNegative negative).chars) : c = '-' := by
  cases negative with
  | true => exact List.mem_singleton.1 hc
  | false => exact absurd hc List.not_mem_nil

/-- The literal of a sign before the digits of a natural number. -/
def Literal.signed (sign : Sign) (n : Nat) : Literal :=
  ⟨sign, digits n, none, none, lt_of_mem_digits, fun _ hd => absurd hd List.not_mem_nil,
    List.append_ne_nil_of_left_ne_nil (digits_ne_nil n) _⟩

/-- The literal that a whole number is written as. -/
def Literal.ofInt (n : Int) : Literal := signed (.ofNegative (n < 0)) n.natAbs

theorem Literal.chars_ofInt (n : Int) :
    (ofInt n).chars = (Sign.ofNegative (n < 0)).chars ++ digitChars (digits n.natAbs) := by
  simp [chars, ofInt, signed, fractionChars, exponentChars]

theorem Literal.toList_intText (n : Int) : (intText n).toList = (ofInt n).chars := by
  have hsign := Sign.chars_ofNegative_append (decide (n < 0)) (natText n.natAbs)
  simp only [decide_eq_true_eq] at hsign
  rw [intText, ← hsign, chars_ofInt, natText, String.toList_ofList]

/-- Different whole numbers have different texts. -/
theorem intText_inj {m n : Int} : intText m = intText n ↔ m = n := by
  constructor
  · intro htext
    -- the literals are the same, with their signs and digits
    have hchars : (Literal.ofInt m).chars = (Literal.ofInt n).chars := by
      rw [← Literal.toList_intText, htext, Literal.toList_intText]
    have hliteral := Literal.eq_of_chars_eq hchars
    have hdigits : digits m.natAbs = digits n.natAbs := congrArg Literal.whole hliteral
    have hsign : Sign.ofNegative (m < 0) = Sign.ofNegative (n < 0) :=
      congrArg Literal.sign hliteral
    have habs : m.natAbs = n.natAbs := by
      rw [← ofDigits_digits m.natAbs, hdigits, ofDigits_digits]
    have hneg : decide (m < 0) = decide (n < 0) := by
      rw [← Sign.isNegative_ofNegative (decide (m < 0)), hsign, Sign.isNegative_ofNegative]
    rw [decide_eq_decide] at hneg
    omega
  · intro heq
    rw [heq]

end Decimal

namespace Number

/-! ### Points and exponents -/

/-- The text of a whole number has no point and no exponent. -/
theorem not_mark_mem_intText (n : Int) :
    '.' ∉ (Decimal.intText n).toList ∧ 'e' ∉ (Decimal.intText n).toList := by
  have hdigit : ∀ d < 10, Decimal.digitChar d ≠ '.' ∧ Decimal.digitChar d ≠ 'e' := by decide
  have hchar {c : Char} (hc : c ∈ (Decimal.intText n).toList) :
      c = '-' ∨ ∃ d < 10, Decimal.digitChar d = c := by
    rw [Decimal.Literal.toList_intText, Decimal.Literal.chars_ofInt, List.mem_append] at hc
    obtain hsign | hdigits := hc
    · exact .inl (Decimal.Sign.eq_of_mem_chars_ofNegative hsign)
    · obtain ⟨d, hd, rfl⟩ := List.mem_map.1 hdigits
      exact .inr ⟨d, Decimal.lt_of_mem_digits d hd, rfl⟩
  constructor
  · intro hpoint
    obtain hminus | ⟨d, hd, heq⟩ := hchar hpoint
    · exact absurd hminus (by decide)
    · exact (hdigit d hd).1 heq
  · intro hmark
    obtain hminus | ⟨d, hd, heq⟩ := hchar hmark
    · exact absurd hminus (by decide)
    · exact (hdigit d hd).2 heq

theorem point_mem_positionalText (ds : List Nat) (power : Int) :
    '.' ∈ (positionalText ds power).toList := by
  unfold positionalText
  split <;> simp

theorem mark_mem_exponentText (ds : List Nat) (power : Int) :
    'e' ∈ (exponentText ds power).toList := by
  have hsign : 'e' ∈ (if power < 0 then "e-" else "e+").toList := by
    split <;> decide
  unfold exponentText
  simp only [String.toList_append, List.mem_append]
  exact .inl (.inr hsign)

/-- The text of a float has a point or an exponent. -/
theorem mark_mem_finiteText (x : Finite) :
    '.' ∈ (finiteText x).toList ∨ 'e' ∈ (finiteText x).toList := by
  have hmagnitude :
      '.' ∈ (magnitudeText x.units).toList ∨ 'e' ∈ (magnitudeText x.units).toList := by
    unfold magnitudeText
    split
    · exact .inl (by decide)
    · dsimp only
      split
      · exact .inl (point_mem_positionalText _ _)
      · exact .inr (mark_mem_exponentText _ _)
  unfold finiteText
  split
  · simpa [String.toList_append] using hmagnitude
  · exact hmagnitude

theorem intText_ne_finiteText (n : Int) (x : Finite) : Decimal.intText n ≠ finiteText x := by
  intro htext
  have hmark := mark_mem_finiteText x
  rw [← htext] at hmark
  obtain ⟨hpoint, hexponent⟩ := not_mark_mem_intText n
  exact hmark.elim hpoint hexponent

/-! ### All numbers -/

/-- Different numbers have different texts. -/
theorem text_inj {m n : Number} : m.text = n.text ↔ m = n := by
  constructor
  · intro htext
    cases m with
    | int a ha =>
      cases n with
      | int b hb =>
        obtain rfl := Decimal.intText_inj.1 htext
        rfl
      | float y => exact absurd htext (intText_ne_finiteText a y)
    | float x =>
      cases n with
      | int b hb => exact absurd htext.symm (intText_ne_finiteText b x)
      | float y =>
        -- both are read from the one text
        have hread := Decimal.leadingNumber?_text (.float x)
        rw [htext, Decimal.leadingNumber?_text] at hread
        obtain rfl := Binary64.finite.inj (Option.some.inj hread)
        rfl
  · intro heq
    rw [heq]

end Number

end ForestQuery
