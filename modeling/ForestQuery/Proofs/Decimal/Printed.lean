import ForestQuery.Number
import ForestQuery.Proofs.Decimal.Leading
import ForestQuery.Proofs.Decimal.Shortest
import Mathlib.Data.List.Induction

/-!
# Numbers read back from their texts

The text of a number is a literal from its first character to its last, whichever way it is written:
in plain digits, with a point among or before the digits, or with an exponent. What it is read as is
the number in the binary format, so a whole number of more than 53 bits is rounded as it is anywhere
else, and no digit of a float is lost.

## Key results

- `spellsSteps_of_parts`: digits, a point and an exponent spell so many steps of a power of ten
- `spellsSteps_positionalText`, `spellsSteps_exponentText`: both notations spell their digits
- `exists_literal_text`: the text of a number is a literal that means the number
- `leadingNumber?_text`, `literalEnd?_text`: a number is read from its text, and to its end
-/

namespace ForestQuery

namespace Decimal

/-! ### Digits -/

theorem lt_of_mem_digits {n : Nat} : ∀ d ∈ digits n, d < 10 := by
  fun_induction digits n with
  | case1 n h => simpa using h
  | case2 n h ih =>
    intro d hd
    rw [List.mem_append, List.mem_singleton] at hd
    obtain hd | rfl := hd
    · exact ih d hd
    · omega

theorem digits_ne_nil (n : Nat) : digits n ≠ [] := by
  unfold digits
  split <;> simp

theorem ofDigits_append (ds es : List Nat) :
    ofDigits (ds ++ es) = ofDigits ds * Nat.pow 10 es.length + ofDigits es := by
  -- induction from the end, where `ofDigits` takes the next digit
  induction es using List.reverseRecOn with
  | nil => simp [ofDigits]
  | append_singleton es e ih =>
    have hpow : Nat.pow 10 (es.length + 1) = Nat.pow 10 es.length * 10 := rfl
    rw [← List.append_assoc, ofDigits_append_singleton, ofDigits_append_singleton, ih,
      List.length_append, List.length_singleton, hpow, ← Nat.mul_assoc]
    omega

theorem ofDigits_replicate_zero (k : Nat) : ofDigits (List.replicate k 0) = 0 := by
  induction k with
  | zero => rfl
  | succ k ih => rw [List.replicate_succ', ofDigits_append_singleton, ih]

/-- Zeros before digits change nothing. -/
theorem ofDigits_replicate_zero_append (k : Nat) (ds : List Nat) :
    ofDigits (List.replicate k 0 ++ ds) = ofDigits ds := by
  rw [ofDigits_append, ofDigits_replicate_zero, Nat.zero_mul, Nat.zero_add]

/-- Zeros after digits are powers of ten. -/
theorem ofDigits_append_replicate_zero (ds : List Nat) (k : Nat) :
    ofDigits (ds ++ List.replicate k 0) = ofDigits ds * Nat.pow 10 k := by
  rw [ofDigits_append, ofDigits_replicate_zero, List.length_replicate, Nat.add_zero]

theorem lt_of_mem_replicate_zero {k : Nat} : ∀ d ∈ List.replicate k 0, d < 10 := by
  intro d hd
  rw [List.eq_of_mem_replicate hd]
  decide

/-! ### Spelling -/

/-- Characters spell so many steps of a power of ten if after any sign they make a literal that is
read as these steps. -/
def SpellsSteps (cs : List Char) (count : Nat) (exponent : Int) : Prop :=
  ∀ sign : Sign, ∃ lit : Literal, lit.chars = sign.chars ++ cs ∧
    lit.decimal.toBinary64 = (⟨sign.isNegative, count, exponent⟩ : Decimal).toBinary64

/-- Digits, a point with digits and an exponent spell the number that the digits make up without the
point, its zeros at the end counted in the power of ten. -/
theorem spellsSteps_of_parts {whole : List Nat} {fraction : Option (List Nat)}
    {mark : Option Exponent} {count zeros : Nat} {exponent : Int}
    (hwhole : ∀ d ∈ whole, d < 10) (hfraction : ∀ d ∈ fraction.getD [], d < 10)
    (hdigit : whole ++ fraction.getD [] ≠ [])
    (hcount : ofDigits (whole ++ fraction.getD []) = count * Nat.pow 10 zeros)
    (hexponent : mark.elim 0 Exponent.value - (fraction.getD []).length + zeros = exponent) :
    SpellsSteps (digitChars whole ++ (fractionChars fraction ++ exponentChars mark)) count
      exponent := by
  intro sign
  refine ⟨⟨sign, whole, fraction, mark, hwhole, hfraction, hdigit⟩, rfl, ?_⟩
  rw [Literal.decimal, hcount, toBinary64_mul_pow, hexponent]

/-- Plain digits spell a whole number. -/
theorem spellsSteps_natText (n : Nat) : SpellsSteps (natText n).toList n 0 := by
  have hcount : ofDigits (digits n ++ []) = n * Nat.pow 10 0 := by
    simp [ofDigits_digits]
  have hdigit : digits n ++ [] ≠ [] := by
    simpa using digits_ne_nil n
  have hspells : SpellsSteps
      (digitChars (digits n) ++ (fractionChars none ++ exponentChars none)) n 0 :=
    spellsSteps_of_parts lt_of_mem_digits (by simp) hdigit hcount rfl
  simpa [natText, fractionChars, exponentChars] using hspells

/-- Digits with a point among them spell the steps that they make up without it. -/
theorem spellsSteps_point {whole fraction : List Nat} {count zeros : Nat} {exponent : Int}
    (hwhole : ∀ d ∈ whole, d < 10) (hfraction : ∀ d ∈ fraction, d < 10)
    (hdigit : whole ++ fraction ≠ [])
    (hcount : ofDigits (whole ++ fraction) = count * Nat.pow 10 zeros)
    (hexponent : exponent + fraction.length = zeros) :
    SpellsSteps (digitChars whole ++ '.' :: digitChars fraction) count exponent := by
  have hlt : ∀ d ∈ (some fraction).getD [], d < 10 := hfraction
  have hspells : SpellsSteps
      (digitChars whole ++ (fractionChars (some fraction) ++ exponentChars none)) count
      exponent := by
    apply spellsSteps_of_parts hwhole hlt hdigit hcount
    show 0 - (fraction.length : Int) + zeros = exponent
    omega
  simpa [fractionChars, exponentChars] using hspells

/-! ### Positional notation -/

section Positional

variable {ds : List Nat} (hds : ∀ d ∈ ds, d < 10) (hne : ds ≠ []) {exponent : Int} {p : Nat}

include hds hne

/-- The point stands among the digits. -/
theorem spellsSteps_point_among (hlong : p + 1 < ds.length)
    (hpower : exponent + (ds.length - 1 : Nat) = p) :
    SpellsSteps (digitChars (ds.take (p + 1)) ++ '.' :: digitChars (ds.drop (p + 1)))
      (ofDigits ds) exponent := by
  have hcount : ofDigits (ds.take (p + 1) ++ ds.drop (p + 1)) = ofDigits ds * Nat.pow 10 0 := by
    simp
  apply spellsSteps_point _ _ _ hcount
  · rw [List.length_drop]
    omega
  · exact fun d hd => hds d (List.mem_of_mem_take hd)
  · exact fun d hd => hds d (List.mem_of_mem_drop hd)
  · simpa using hne

/-- Zeros fill up the digits to the point, and one more follows it. -/
theorem spellsSteps_point_after (hshort : ds.length ≤ p + 1)
    (hpower : exponent + (ds.length - 1 : Nat) = p) :
    SpellsSteps (digitChars (ds ++ List.replicate (p + 1 - ds.length) 0) ++ '.' :: digitChars [0])
      (ofDigits ds) exponent := by
  have hlength := List.length_pos_iff.2 hne
  have hcount : ofDigits (ds ++ List.replicate (p + 1 - ds.length) 0 ++ [0]) =
      ofDigits ds * Nat.pow 10 (p + 1 - ds.length + 1) := by
    rw [List.append_assoc, ← List.replicate_succ', ofDigits_append_replicate_zero]
  apply spellsSteps_point _ _ _ hcount
  · rw [List.length_singleton]
    omega
  · exact List.forall_mem_append.2 ⟨hds, lt_of_mem_replicate_zero⟩
  · simp
  · simp

/-- All digits stand after the point. -/
theorem spellsSteps_point_before (hpower : exponent + (ds.length - 1 : Nat) = -(p + 1 : Nat)) :
    SpellsSteps (digitChars [0] ++ '.' :: digitChars (List.replicate p 0 ++ ds)) (ofDigits ds)
      exponent := by
  have hlength := List.length_pos_iff.2 hne
  have hcount : ofDigits ([0] ++ (List.replicate p 0 ++ ds)) = ofDigits ds * Nat.pow 10 0 := by
    rw [ofDigits_append, ofDigits_replicate_zero_append]
    simp [ofDigits]
  apply spellsSteps_point _ _ _ hcount
  · rw [List.length_append, List.length_replicate]
    omega
  · simp
  · exact List.forall_mem_append.2 ⟨lt_of_mem_replicate_zero, hds⟩
  · simp

/-- Positional notation spells the digits that it is made from. -/
theorem spellsSteps_positionalText {power : Int}
    (hpower : exponent + (ds.length - 1 : Nat) = power) :
    SpellsSteps (Number.positionalText ds power).toList (ofDigits ds) exponent := by
  unfold Number.positionalText
  match power with
  | .ofNat p =>
    simp only [String.toList_ofList]
    by_cases hlong : p + 1 < ds.length
    · have hdrop : (ds.drop (p + 1)).isEmpty = false := by simpa using hlong
      have hzeros : p + 1 - ds.length = 0 := by omega
      simp only [hdrop, hzeros, List.replicate_zero, List.append_nil]
      exact spellsSteps_point_among hds hne hlong hpower
    · have hshort : ds.length ≤ p + 1 := Nat.not_lt.1 hlong
      simp only [List.drop_eq_nil_of_le hshort, List.take_of_length_le hshort, List.isEmpty_nil,
        if_true]
      exact spellsSteps_point_after hds hne hshort hpower
  | .negSucc p =>
    rw [String.toList_ofList]
    exact spellsSteps_point_before hds hne hpower

end Positional

/-! ### Notation with an exponent -/

/-- The exponent that stands for a power of ten. -/
def markOf (power : Int) : Exponent :=
  ⟨'e', if power < 0 then .minus else .plus, digits power.natAbs, .inl rfl, lt_of_mem_digits,
    digits_ne_nil _⟩

theorem value_markOf (power : Int) : (markOf power).value = power := by
  unfold Exponent.value markOf
  by_cases hneg : power < 0
  · simp only [hneg, if_true, Sign.isNegative, ofDigits_digits]
    omega
  · simp only [hneg, if_false, Sign.isNegative, ofDigits_digits]
    show (power.natAbs : Int) = power
    omega

theorem exponentChars_markOf (power : Int) :
    exponentChars (some (markOf power)) =
      (if power < 0 then "e-" else "e+").toList ++ (natText power.natAbs).toList := by
  unfold exponentChars Exponent.chars markOf natText
  by_cases hneg : power < 0
  · simp [hneg, Sign.chars]
  · simp [hneg, Sign.chars]

/-- Notation with an exponent spells the digits that it is made from. -/
theorem spellsSteps_exponentText {ds : List Nat} (hds : ∀ d ∈ ds, d < 10) (hne : ds ≠ [])
    {exponent power : Int} (hpower : exponent + (ds.length - 1 : Nat) = power) :
    SpellsSteps (Number.exponentText ds power).toList (ofDigits ds) exponent := by
  have hmark := exponentChars_markOf power
  have hcount : ofDigits ds = ofDigits ds * Nat.pow 10 0 := by simp
  cases ds with
  | nil => exact absurd rfl hne
  | cons d rest =>
    cases rest with
    | nil =>
      -- a single digit has no point
      have htext : (Number.exponentText [d] power).toList =
          digitChars [d] ++ (fractionChars none ++ exponentChars (some (markOf power))) := by
        rw [hmark]
        simp [Number.exponentText, fractionChars]
      have hfraction : ∀ c ∈ (none : Option (List Nat)).getD [], c < 10 := by simp
      rw [htext]
      apply spellsSteps_of_parts hds hfraction (by simp) hcount
      show (markOf power).value - (0 : Nat) + (0 : Nat) = exponent
      rw [value_markOf, ← hpower]
      simp
    | cons e rest =>
      have htext : (Number.exponentText (d :: e :: rest) power).toList =
          digitChars [d] ++
            (fractionChars (some (e :: rest)) ++ exponentChars (some (markOf power))) := by
        rw [hmark]
        simp [Number.exponentText, fractionChars, digitChars]
      have hparts := List.forall_mem_cons.1 hds
      have hwhole : ∀ c ∈ [d], c < 10 := by simpa using hparts.1
      have hfraction : ∀ c ∈ (some (e :: rest)).getD [], c < 10 := hparts.2
      rw [htext]
      apply spellsSteps_of_parts hwhole hfraction (by simp) hcount
      show (markOf power).value - ((e :: rest).length : Nat) + (0 : Nat) = exponent
      rw [value_markOf, ← hpower]
      simp

/-! ### The text of a number -/

/-- The text of a magnitude spells steps that are read as it. -/
theorem exists_spellsSteps_magnitudeText (x : Finite) :
    ∃ count exponent, SpellsSteps (Number.magnitudeText x.units).toList count exponent ∧
      (⟨x.negative, count, exponent⟩ : Decimal).toBinary64 = .finite x := by
  unfold Number.magnitudeText
  by_cases hzero : x.units = 0
  · have hspells : SpellsSteps (digitChars [0] ++ '.' :: digitChars [0]) 0 (-1) :=
      spellsSteps_point (by simp) (by simp) (by simp) rfl rfl
    have hx : Finite.zero x.negative = x := by
      cases x
      simpa [Finite.zero] using hzero.symm
    rw [if_pos hzero]
    refine ⟨0, -1, hspells, ?_⟩
    rw [toBinary64, if_pos rfl, hx]
  · have hread := Finite.toBinary64_shortest x
    have hcount := ofDigits_digits (Finite.shortest x.units).1
    rw [if_neg hzero]
    refine ⟨_, _, ?_, hread⟩
    rw [← hcount]
    dsimp only
    split
    · exact spellsSteps_positionalText lt_of_mem_digits (digits_ne_nil _) rfl
    · exact spellsSteps_exponentText lt_of_mem_digits (digits_ne_nil _) rfl

/-- A whole number is read as it is rounded. -/
theorem toBinary64_natAbs (value : Int) :
    (⟨decide (value < 0), value.natAbs, 0⟩ : Decimal).toBinary64 = .ofInt value := by
  have hnum : value.natAbs * Nat.pow 10 0 * unitsPerOne = value.natAbs * unitsPerOne := by
    simp
  rw [toBinary64_eq_ofRatio, Binary64.ofInt, ← hnum]
  rfl

/-- The sign that is written before a magnitude. -/
def Sign.ofNegative : Bool → Sign
  | true => minus
  | false => unwritten

theorem Sign.isNegative_ofNegative (negative : Bool) :
    (ofNegative negative).isNegative = negative := by
  cases negative <;> rfl

/-- Only a minus is written. -/
theorem Sign.chars_ofNegative_append (negative : Bool) (magnitude : String) :
    (ofNegative negative).chars ++ magnitude.toList =
      (if negative then "-" ++ magnitude else magnitude).toList := by
  cases negative <;> simp [ofNegative, chars]

/-- The text of a number is a literal that means the number. -/
theorem exists_literal_text (n : Number) :
    ∃ lit : Literal, lit.chars = n.text.toList ∧ lit.decimal.toBinary64 = n.toBinary64 := by
  cases n with
  | int value fits =>
    obtain ⟨lit, hchars, hread⟩ :=
      spellsSteps_natText value.natAbs (Sign.ofNegative (decide (value < 0)))
    refine ⟨lit, ?_, ?_⟩
    · rw [hchars, Sign.chars_ofNegative_append, Number.text, intText]
      simp only [decide_eq_true_eq]
    · rw [hread, Sign.isNegative_ofNegative, toBinary64_natAbs, Number.toBinary64]
  | float x =>
    obtain ⟨count, exponent, hspells, hunits⟩ := exists_spellsSteps_magnitudeText x
    obtain ⟨lit, hchars, hread⟩ := hspells (Sign.ofNegative x.negative)
    refine ⟨lit, ?_, ?_⟩
    · rw [hchars, Sign.chars_ofNegative_append, Number.text, Number.finiteText]
    · rw [hread, Sign.isNegative_ofNegative, hunits, Number.toBinary64]

/-! ### Texts that are literals -/

namespace Literal

/-- After its sign a literal starts with a digit or the point. -/
theorem exists_unsigned_eq_cons (lit : Literal) :
    ∃ c rest, lit.chars = lit.sign.chars ++ c :: rest ∧
      (readSign lit.chars).2 = c :: rest ∧ (c = '.' ∨ ∃ d < 10, c = digitChar d) := by
  have hread := readSign_chars_literal lit []
  simp only [List.append_nil] at hread
  rw [hread, chars]
  cases hwhole : lit.whole with
  | cons d ds =>
    have hd : d < 10 := lit.whole_lt d (by simp [hwhole])
    exact ⟨digitChar d, _, rfl, rfl, .inr ⟨d, hd, rfl⟩⟩
  | nil =>
    cases hfraction : lit.fraction with
    | none => exact absurd (by simp [hwhole, hfraction]) lit.hasDigit
    | some ds => exact ⟨'.', _, rfl, rfl, .inl rfl⟩

/-- There is no white space before a literal. -/
theorem trimStart_chars (lit : Literal) : Text.trimStart lit.chars = lit.chars := by
  have hdigit : ∀ d < 10, Text.isBlank (digitChar d) = false := by decide
  obtain ⟨c, rest, hchars, -, hc⟩ := lit.exists_unsigned_eq_cons
  have hblank : Text.isBlank c = false := by
    obtain rfl | ⟨d, hd, rfl⟩ := hc
    · rfl
    · exact hdigit d hd
  rw [hchars, Text.trimStart]
  cases lit.sign with
  | unwritten => exact List.dropWhile_cons_of_neg (by simp [hblank])
  | plus | minus => rfl

/-- A literal does not go on with the word for infinity. -/
theorem not_infinityWord_prefix (lit : Literal) : ¬ infinityWord <+: (readSign lit.chars).2 := by
  have hdigit : ∀ d < 10, digitChar d ≠ 'I' := by decide
  obtain ⟨c, rest, -, hunsigned, hc⟩ := lit.exists_unsigned_eq_cons
  rw [hunsigned]
  intro hprefix
  have hletter : 'I' = c := (List.cons_prefix_cons.1 hprefix).1
  obtain rfl | ⟨d, hd, rfl⟩ := hc
  · exact absurd hletter (by decide)
  · exact hdigit d hd hletter.symm

end Literal

/-- A text that is a literal is read as what the literal means. -/
theorem leadingNumber?_of_chars {lit : Literal} {text : String} (h : lit.chars = text.toList) :
    leadingNumber? text = some lit.decimal.toBinary64 := by
  rw [leadingNumber?_eq, ← h, lit.trimStart_chars, if_neg lit.not_infinityWord_prefix,
    lit.readLiteral?_chars]
  rfl

/-- A number is read from its text. -/
theorem leadingNumber?_text (n : Number) : leadingNumber? n.text = some n.toBinary64 := by
  obtain ⟨lit, hchars, hread⟩ := exists_literal_text n
  rw [leadingNumber?_of_chars hchars, hread]

/-- Walking along the bytes of the text of a number ends at its end. -/
theorem literalEnd?_text (n : Number) :
    literalEnd? (bytes (Text.trimStart n.text.toList)) = some (bytes n.text.toList).length := by
  obtain ⟨lit, hchars, -⟩ := exists_literal_text n
  rw [← hchars, lit.trimStart_chars, literalEnd?_bytes, lit.readLiteral?_chars]
  rfl

end Decimal

end ForestQuery
