import ForestQuery.Decimal.Literal

/-!
# The grammar of decimal literals

A literal is an optional sign, digits with an optional point (digits on at least one side of it) and
an optional exponent. `Literal` is its syntax tree, from which its characters and its value follow.
Reading takes at each step as much as can be taken, and the steps follow the grammar, so what is
read at the start of a text is the longest literal there. The reader of numbers finds its value.

## Key results

- `readLiteral?_chars_append`: what starts with a literal is read up to its end or beyond
- `isLongest_iff`: what is read is the longest literal at the start of a text
- `Literal.eq_of_chars_eq`: no two literals have the same characters
- `leadingDecimal?_eq`: the reader of numbers finds the value of what is read
-/

namespace ForestQuery.Decimal

/-! ### Digits -/

theorem digitValue?_digitChar {d : Nat} (hd : d < 10) : digitValue? (digitChar d) = some d := by
  revert d
  decide

/-- A digit has a character that is read as it. -/
theorem digitValue?_eq_some_iff {c : Char} {d : Nat} :
    digitValue? c = some d ↔ d < 10 ∧ c = digitChar d := by
  constructor
  · intro h
    rw [digitValue?, Option.ite_none_right_eq_some] at h
    obtain ⟨⟨hlow, hhigh⟩, hd⟩ := h
    obtain rfl := Option.some.inj hd
    have hlow' : '0'.toNat ≤ c.toNat := hlow
    have hhigh' : c.toNat ≤ '9'.toNat := hhigh
    have hzero : '0'.toNat = 48 := rfl
    have hnine : '9'.toNat = 57 := rfl
    refine ⟨by omega, ?_⟩
    rw [digitChar, Nat.add_sub_cancel' hlow', Char.ofNat_toNat]
  · intro h
    obtain ⟨hd, rfl⟩ := h
    exact digitValue?_digitChar hd

theorem lt_of_mem_takeDigits {cs : List Char} : ∀ d ∈ (takeDigits cs).1, d < 10 := by
  fun_induction takeDigits cs with
  | case1 => simp
  | case2 c rest d hd ih =>
    rw [List.forall_mem_cons]
    exact ⟨(digitValue?_eq_some_iff.1 hd).1, ih⟩
  | case3 c rest hd => simp

theorem digitChars_takeDigits_append (cs : List Char) :
    digitChars (takeDigits cs).1 ++ (takeDigits cs).2 = cs := by
  fun_induction takeDigits cs with
  | case1 => rfl
  | case2 c rest d hd ih =>
    rw [digitChars, List.map_cons, List.cons_append, ← digitChars, ih,
      (digitValue?_eq_some_iff.1 hd).2]
  | case3 c rest hd => rfl

theorem takeDigits_of_eq_none {c : Char} (hc : digitValue? c = none) (rest : List Char) :
    takeDigits (c :: rest) = ([], c :: rest) := by
  rw [takeDigits, hc]

/-- Digits are taken with those that follow them. -/
theorem takeDigits_digitChars_append {ds : List Nat} (hds : ∀ d ∈ ds, d < 10)
    (rest : List Char) :
    takeDigits (digitChars ds ++ rest) = (ds ++ (takeDigits rest).1, (takeDigits rest).2) := by
  induction ds with
  | nil => rfl
  | cons d ds ih =>
    rw [List.forall_mem_cons] at hds
    rw [digitChars, List.map_cons, List.cons_append, takeDigits, digitValue?_digitChar hds.1,
      ← digitChars, ih hds.2]
    rfl

/-- No digit is taken, or less is left. -/
theorem takeDigits_eq_or_lt (cs : List Char) :
    takeDigits cs = ([], cs) ∨ (takeDigits cs).2.length < cs.length := by
  cases cs with
  | nil => exact .inl rfl
  | cons c rest =>
    cases hc : digitValue? c with
    | none => exact .inl (takeDigits_of_eq_none hc rest)
    | some d =>
      right
      have hle := takeDigits_length_le rest
      rw [takeDigits, hc, List.length_cons]
      exact Nat.lt_succ_of_le hle

/-! ### Syntax trees -/

/-- A sign, which need not be written. -/
inductive Sign
  /-- No sign is written. -/
  | unwritten
  /-- A plus. -/
  | plus
  /-- A minus. -/
  | minus

namespace Sign

/-- The characters of a sign. -/
def chars : Sign → List Char
  | unwritten => []
  | plus => ['+']
  | minus => ['-']

/-- Whether the sign is a minus. -/
def isNegative : Sign → Bool
  | minus => true
  | _ => false

end Sign

/-- An exponent: its mark, a sign and at least one digit. -/
structure Exponent where
  /-- The letter that it starts with. -/
  mark : Char
  /-- Its sign. -/
  sign : Sign
  /-- Its digits. -/
  digits : List Nat
  /-- The letter is an `e` of either case. -/
  isMark : mark = 'e' ∨ mark = 'E'
  /-- Digits are below ten. -/
  digits_lt : ∀ d ∈ digits, d < 10
  /-- There is a digit. -/
  hasDigit : digits ≠ []

namespace Exponent

/-- The characters of an exponent. -/
def chars (e : Exponent) : List Char := e.mark :: (e.sign.chars ++ digitChars e.digits)

/-- The power of ten that an exponent means. -/
def value (e : Exponent) : Int :=
  if e.sign.isNegative then -(ofDigits e.digits) else ofDigits e.digits

end Exponent

/-- The characters of a point and the digits after it, if there is a point. -/
def fractionChars : Option (List Nat) → List Char
  | none => []
  | some ds => '.' :: digitChars ds

/-- The characters of an exponent, if there is one. -/
def exponentChars : Option Exponent → List Char
  | none => []
  | some e => e.chars

/-- A literal: a sign, digits, a point with more digits, and an exponent. All of these may be
missing but for one digit before or after the point. -/
@[ext]
structure Literal where
  /-- The sign. -/
  sign : Sign
  /-- The digits before the point. -/
  whole : List Nat
  /-- The digits after the point, if there is one. -/
  fraction : Option (List Nat)
  /-- The exponent, if there is one. -/
  exponent : Option Exponent
  /-- Digits before the point are below ten. -/
  whole_lt : ∀ d ∈ whole, d < 10
  /-- Digits after the point are below ten. -/
  fraction_lt : ∀ d ∈ fraction.getD [], d < 10
  /-- There is a digit before or after the point. -/
  hasDigit : whole ++ fraction.getD [] ≠ []

namespace Literal

/-- The characters of a literal. -/
def chars (lit : Literal) : List Char :=
  lit.sign.chars ++ (digitChars lit.whole ++
    (fractionChars lit.fraction ++ exponentChars lit.exponent))

/-- The number that a literal means: its digits as one whole number, and as a power of ten the
exponent less one for each digit after the point. -/
def decimal (lit : Literal) : Decimal :=
  ⟨lit.sign.isNegative, ofDigits (lit.whole ++ lit.fraction.getD []),
    lit.exponent.elim 0 Exponent.value - (lit.fraction.getD []).length⟩

/-- A literal stands at the start of a text, and no longer one does. -/
def IsLongest (lit : Literal) (cs : List Char) : Prop :=
  lit.chars <+: cs ∧ ∀ other : Literal, other.chars <+: cs → other.chars.length ≤ lit.chars.length

end Literal

/-! ### Reading -/

/-- The sign at the start of a text, and what follows it. -/
def readSign : List Char → Sign × List Char
  | '-' :: rest => (.minus, rest)
  | '+' :: rest => (.plus, rest)
  | cs => (.unwritten, cs)

/-- The point and the digits after it at the start of a text, and what follows them. -/
def readFraction : List Char → Option (List Nat) × List Char
  | '.' :: rest => (some (takeDigits rest).1, (takeDigits rest).2)
  | cs => (none, cs)

/-- The exponent at the start of a text, and what follows it. -/
def readExponent : List Char → Option Exponent × List Char
  | [] => (none, [])
  | mark :: rest =>
    let sign := readSign rest
    let digits := takeDigits sign.2
    if h : (mark = 'e' ∨ mark = 'E') ∧ digits.1 ≠ [] then
      (some ⟨mark, sign.1, digits.1, h.1, lt_of_mem_takeDigits, h.2⟩, digits.2)
    else
      (none, mark :: rest)

theorem fraction_lt_readFraction {cs : List Char} :
    ∀ d ∈ (readFraction cs).1.getD [], d < 10 := by
  rw [readFraction.eq_def]
  split
  · exact lt_of_mem_takeDigits
  · simp

/-- The literal at the start of a text, and what follows it. -/
def readLiteral? (cs : List Char) : Option (Literal × List Char) :=
  let sign := readSign cs
  let whole := takeDigits sign.2
  let fraction := readFraction whole.2
  let exponent := readExponent fraction.2
  if h : whole.1 ++ fraction.1.getD [] = [] then
    none
  else
    some (⟨sign.1, whole.1, fraction.1, exponent.1, lt_of_mem_takeDigits,
      fraction_lt_readFraction, h⟩, exponent.2)

/-! ### What is read is what is there -/

theorem chars_readSign_append (cs : List Char) :
    (readSign cs).1.chars ++ (readSign cs).2 = cs := by
  rw [readSign.eq_def]
  split <;> rfl

theorem fractionChars_readFraction_append (cs : List Char) :
    fractionChars (readFraction cs).1 ++ (readFraction cs).2 = cs := by
  rw [readFraction.eq_def]
  split
  · next rest => exact congrArg ('.' :: ·) (digitChars_takeDigits_append rest)
  · rfl

theorem exponentChars_readExponent_append (cs : List Char) :
    exponentChars (readExponent cs).1 ++ (readExponent cs).2 = cs := by
  rw [readExponent.eq_def]
  split
  · rfl
  · next mark rest =>
    dsimp only
    split
    · rw [exponentChars, Exponent.chars, List.cons_append, List.append_assoc,
        digitChars_takeDigits_append, chars_readSign_append]
    · rfl

/-- A literal that is read stands at the start of the text, before what is left. -/
theorem chars_append_of_readLiteral? {cs rest : List Char} {lit : Literal}
    (h : readLiteral? cs = some (lit, rest)) : lit.chars ++ rest = cs := by
  rw [readLiteral?] at h
  split at h
  · cases h
  · obtain ⟨rfl, rfl⟩ := Prod.mk.inj (Option.some.inj h)
    rw [Literal.chars, List.append_assoc, List.append_assoc, List.append_assoc,
      exponentChars_readExponent_append, fractionChars_readFraction_append,
      digitChars_takeDigits_append, chars_readSign_append]

/-! ### What is there is read -/

theorem readSign_of_ne {c : Char} (hminus : c ≠ '-') (hplus : c ≠ '+') (rest : List Char) :
    readSign (c :: rest) = (.unwritten, c :: rest) := by
  rw [readSign]
  · simpa using hminus
  · simpa using hplus

theorem readSign_chars_append {rest : List Char} (hrest : readSign rest = (.unwritten, rest))
    (sign : Sign) : readSign (sign.chars ++ rest) = (sign, rest) := by
  cases sign with
  | unwritten => exact hrest
  | plus | minus => rfl

theorem readSign_digitChars_append {ds : List Nat} (hds : ∀ d ∈ ds, d < 10) (hne : ds ≠ [])
    (rest : List Char) :
    readSign (digitChars ds ++ rest) = (.unwritten, digitChars ds ++ rest) := by
  have hdigit : ∀ d < 10, digitChar d ≠ '-' ∧ digitChar d ≠ '+' := by decide
  cases ds with
  | nil => exact absurd rfl hne
  | cons d ds =>
    rw [List.forall_mem_cons] at hds
    exact readSign_of_ne (hdigit d hds.1).1 (hdigit d hds.1).2 _

theorem readFraction_of_ne {c : Char} (hc : c ≠ '.') (rest : List Char) :
    readFraction (c :: rest) = (none, c :: rest) := by
  rw [readFraction]
  simpa using hc

theorem readFraction_eq_or_lt (cs : List Char) :
    readFraction cs = (none, cs) ∨ (readFraction cs).2.length < cs.length := by
  rw [readFraction.eq_def]
  split
  · next rest => exact .inr (Nat.lt_succ_of_le (takeDigits_length_le rest))
  · exact .inl rfl

theorem readExponent_eq_or_lt (cs : List Char) :
    readExponent cs = (none, cs) ∨ (readExponent cs).2.length < cs.length := by
  have happend := congrArg List.length (exponentChars_readExponent_append cs)
  rw [List.length_append] at happend
  cases h : (readExponent cs).1 with
  | none =>
    left
    rw [h] at happend
    have hrest := exponentChars_readExponent_append cs
    rw [h, exponentChars, List.nil_append] at hrest
    rw [← Prod.eta (readExponent cs), h, hrest]
  | some e =>
    right
    rw [h, exponentChars, Exponent.chars, List.length_cons] at happend
    omega

theorem readFraction_length_le (cs : List Char) : (readFraction cs).2.length ≤ cs.length := by
  obtain h | h := readFraction_eq_or_lt cs
  · exact Nat.le_of_eq (by rw [h])
  · exact Nat.le_of_lt h

theorem readExponent_length_le (cs : List Char) : (readExponent cs).2.length ≤ cs.length := by
  obtain h | h := readExponent_eq_or_lt cs
  · exact Nat.le_of_eq (by rw [h])
  · exact Nat.le_of_lt h

theorem Exponent.mark_ne (e : Exponent) : digitValue? e.mark = none ∧ e.mark ≠ '.' := by
  obtain h | h := e.isMark <;> rw [h] <;> decide

/-- An exponent is read, alone or with more digits after it. -/
theorem readExponent_chars_append (e : Exponent) (rest : List Char) :
    readExponent (e.chars ++ rest) = (some e, rest) ∨
      (readExponent (e.chars ++ rest)).2.length < rest.length := by
  have hsign := readSign_chars_append
    (readSign_digitChars_append e.digits_lt e.hasDigit rest) e.sign
  have hdigits := takeDigits_digitChars_append e.digits_lt rest
  have hne : (e.mark = 'e' ∨ e.mark = 'E') ∧ e.digits ++ (takeDigits rest).1 ≠ [] :=
    ⟨e.isMark, List.append_ne_nil_of_left_ne_nil e.hasDigit _⟩
  rw [Exponent.chars, List.cons_append, List.append_assoc, readExponent]
  simp only [hsign, hdigits, dif_pos hne]
  obtain hnone | hlt := takeDigits_eq_or_lt rest
  · left
    simp [hnone]
  · exact .inr hlt

section

variable (rest : List Char)

/-- An exponent that may be missing is read, or more than it. -/
theorem readExponent_append (exponent : Option Exponent) :
    readExponent (exponentChars exponent ++ rest) = (exponent, rest) ∨
      (readExponent (exponentChars exponent ++ rest)).2.length < rest.length := by
  cases exponent with
  | none => exact readExponent_eq_or_lt rest
  | some e => exact readExponent_chars_append e rest

/-- Before an exponent digits end; where there is none, they may go on with the text. -/
theorem takeDigits_exponentChars_append (exponent : Option Exponent) :
    takeDigits (exponentChars exponent ++ rest) = ([], exponentChars exponent ++ rest) ∨
      (takeDigits (exponentChars exponent ++ rest)).2.length < rest.length := by
  cases exponent with
  | none => exact takeDigits_eq_or_lt rest
  | some e => exact .inl (takeDigits_of_eq_none e.mark_ne.1 _)

/-- A fraction that may be missing is read, or more than it. -/
theorem readFraction_append {fraction : Option (List Nat)}
    (hlt : ∀ d ∈ fraction.getD [], d < 10) (exponent : Option Exponent) :
    readFraction (fractionChars fraction ++ (exponentChars exponent ++ rest)) =
        (fraction, exponentChars exponent ++ rest) ∨
      (readFraction (fractionChars fraction ++ (exponentChars exponent ++ rest))).2.length <
        rest.length := by
  cases fraction with
  | none =>
    cases exponent with
    | none => exact readFraction_eq_or_lt rest
    | some e => exact .inl (readFraction_of_ne e.mark_ne.2 _)
  | some ds =>
    -- digits of the text can only join those of the fraction where no exponent is between
    have hdigits := takeDigits_digitChars_append hlt (exponentChars exponent ++ rest)
    rw [Option.getD_some] at hdigits
    rw [fractionChars, List.cons_append, readFraction, hdigits]
    obtain hnone | hshort := takeDigits_exponentChars_append rest exponent
    · left
      rw [hnone, List.append_nil]
    · exact .inr hshort

theorem prefix_readFraction {fraction : Option (List Nat)}
    (hlt : ∀ d ∈ fraction.getD [], d < 10) :
    fraction.getD [] <+: (readFraction (fractionChars fraction ++ rest)).1.getD [] := by
  cases fraction with
  | none => exact List.nil_prefix
  | some ds =>
    have hdigits := takeDigits_digitChars_append hlt rest
    rw [Option.getD_some] at hdigits
    rw [fractionChars, List.cons_append, readFraction, hdigits]
    exact List.prefix_append ds _

theorem takeDigits_fractionChars_append (fraction : Option (List Nat))
    (exponent : Option Exponent) :
    takeDigits (fractionChars fraction ++ (exponentChars exponent ++ rest)) =
        ([], fractionChars fraction ++ (exponentChars exponent ++ rest)) ∨
      (takeDigits (fractionChars fraction ++ (exponentChars exponent ++ rest))).2.length <
        rest.length := by
  cases fraction with
  | none => exact takeDigits_exponentChars_append rest exponent
  | some ds => exact .inl (takeDigits_of_eq_none rfl _)

end

/-- The digits of a literal are not taken for a sign, and neither is its point. -/
theorem readSign_chars_literal (lit : Literal) (rest : List Char) :
    readSign (lit.chars ++ rest) =
      (lit.sign, digitChars lit.whole ++
        (fractionChars lit.fraction ++ (exponentChars lit.exponent ++ rest))) := by
  rw [Literal.chars, List.append_assoc, List.append_assoc, List.append_assoc]
  apply readSign_chars_append
  by_cases hwhole : lit.whole = []
  · -- without digits before it there is a point
    have hpoint : lit.fraction ≠ none := by
      intro hnone
      exact lit.hasDigit (by rw [hwhole, hnone]; rfl)
    obtain ⟨ds, hds⟩ := Option.ne_none_iff_exists'.1 hpoint
    rw [hwhole, hds]
    rfl
  · exact readSign_digitChars_append lit.whole_lt hwhole _

/-- A literal is read if each of its parts is. -/
theorem readLiteral?_of_parts {cs u v w rest : List Char} {sign : Sign} {whole : List Nat}
    {fraction : Option (List Nat)} {exponent : Option Exponent}
    (hsign : readSign cs = (sign, u)) (hwhole : takeDigits u = (whole, v))
    (hfraction : readFraction v = (fraction, w)) (hexponent : readExponent w = (exponent, rest))
    (hdigit : whole ++ fraction.getD [] ≠ []) :
    ∃ found, readLiteral? cs = some (found, rest) ∧ found.sign = sign ∧ found.whole = whole ∧
      found.fraction = fraction ∧ found.exponent = exponent := by
  obtain rfl : (readSign cs).2 = u := by rw [hsign]
  obtain rfl : (takeDigits (readSign cs).2).2 = v := by rw [hwhole]
  obtain rfl : (readFraction (takeDigits (readSign cs).2).2).2 = w := by rw [hfraction]
  obtain rfl : (readSign cs).1 = sign := by rw [hsign]
  obtain rfl : (takeDigits (readSign cs).2).1 = whole := by rw [hwhole]
  obtain rfl : (readFraction (takeDigits (readSign cs).2).2).1 = fraction := by rw [hfraction]
  rw [readLiteral?]
  simp only [dif_neg hdigit, hexponent]
  exact ⟨_, rfl, rfl, rfl, rfl, rfl⟩

/-- A text that starts with a literal is read up to the end of that literal, or beyond. -/
theorem readLiteral?_chars_append (lit : Literal) (rest : List Char) :
    ∃ found rest', readLiteral? (lit.chars ++ rest) = some (found, rest') ∧
      (found = lit ∧ rest' = rest ∨ rest'.length < rest.length) := by
  have hsign := readSign_chars_literal lit rest
  have hwhole := takeDigits_digitChars_append lit.whole_lt
    (fractionChars lit.fraction ++ (exponentChars lit.exponent ++ rest))
  have hprefix := prefix_readFraction (exponentChars lit.exponent ++ rest) lit.fraction_lt
  have hread := readFraction_append rest lit.fraction_lt lit.exponent
  have hlength : rest.length ≤
      (fractionChars lit.fraction ++ (exponentChars lit.exponent ++ rest)).length := by
    simp only [List.length_append]
    omega
  obtain htaken | hshort := takeDigits_fractionChars_append rest lit.fraction lit.exponent
  · -- the digits before the point end where those of the literal do
    rw [htaken, List.append_nil] at hwhole
    generalize fractionChars lit.fraction ++ (exponentChars lit.exponent ++ rest) = u at *
    have hdigit : lit.whole ++ (readFraction u).1.getD [] ≠ [] := by
      intro hnil
      obtain ⟨hnone, hfraction⟩ := List.append_eq_nil_iff.1 hnil
      rw [hfraction, List.prefix_nil] at hprefix
      exact lit.hasDigit (by rw [hnone, hprefix]; rfl)
    obtain ⟨found, hfound, hs, hw, hf, he⟩ :=
      readLiteral?_of_parts hsign hwhole (Prod.eta _).symm (Prod.eta _).symm hdigit
    refine ⟨found, _, hfound, ?_⟩
    obtain hread | hshort := hread
    · rw [hread] at hf he ⊢
      obtain hexponent | hshort := readExponent_append rest lit.exponent
      · left
        rw [hexponent] at he ⊢
        exact ⟨Literal.ext hs hw hf he, rfl⟩
      · exact .inr hshort
    · exact .inr (Nat.lt_of_le_of_lt (readExponent_length_le _) hshort)
  · -- more digits follow, so that the literal ends in those before the point
    generalize fractionChars lit.fraction ++ (exponentChars lit.exponent ++ rest) = u at *
    have hdigit : (takeDigits u).1 ≠ [] := by
      intro hnil
      have hsum := length_takeDigits u
      rw [hnil, List.length_nil] at hsum
      omega
    have hne : lit.whole ++ (takeDigits u).1 ++ (readFraction (takeDigits u).2).1.getD [] ≠ [] :=
      List.append_ne_nil_of_left_ne_nil (List.append_ne_nil_of_right_ne_nil _ hdigit) _
    obtain ⟨found, hfound, -⟩ :=
      readLiteral?_of_parts hsign hwhole (Prod.eta _).symm (Prod.eta _).symm hne
    refine ⟨found, _, hfound, .inr ?_⟩
    calc (readExponent (readFraction (takeDigits u).2).2).2.length
        ≤ (readFraction (takeDigits u).2).2.length := readExponent_length_le _
      _ ≤ (takeDigits u).2.length := readFraction_length_le _
      _ < rest.length := hshort

/-! ### The longest literal -/

namespace Literal

/-- A literal is read back from its characters. -/
theorem readLiteral?_chars (lit : Literal) : readLiteral? lit.chars = some (lit, []) := by
  obtain ⟨found, rest, hfound, ⟨rfl, rfl⟩ | hlt⟩ := readLiteral?_chars_append lit []
  · rwa [List.append_nil] at hfound
  · exact absurd hlt (Nat.not_lt_zero _)

/-- No two literals have the same characters. -/
theorem eq_of_chars_eq {lit other : Literal} (h : lit.chars = other.chars) : lit = other := by
  have hboth := lit.readLiteral?_chars
  rw [h, other.readLiteral?_chars] at hboth
  exact (Prod.mk.inj (Option.some.inj hboth)).1.symm

/-- What is read is the longest literal at the start of a text. -/
theorem isLongest_iff {lit : Literal} {cs : List Char} :
    lit.IsLongest cs ↔ ∃ rest, readLiteral? cs = some (lit, rest) := by
  -- nothing that stands at the start is longer than what is read
  have hmax {found : Literal} {rest : List Char} (hread : readLiteral? cs = some (found, rest))
      (other : Literal) (hother : other.chars <+: cs) :
      other.chars.length ≤ found.chars.length := by
    obtain ⟨rest', rfl⟩ := hother
    obtain ⟨found', rest'', hread', hle⟩ := readLiteral?_chars_append other rest'
    obtain ⟨rfl, rfl⟩ := Prod.mk.inj (Option.some.inj (hread.symm.trans hread'))
    have hlength := congrArg List.length (chars_append_of_readLiteral? hread)
    rw [List.length_append, List.length_append] at hlength
    obtain ⟨-, rfl⟩ | hlt := hle <;> omega
  constructor
  · intro hlit
    obtain ⟨⟨rest, rfl⟩, hlongest⟩ := hlit
    obtain ⟨found, rest', hread, -⟩ := readLiteral?_chars_append lit rest
    have happend := chars_append_of_readLiteral? hread
    have hfound : found.chars <+: lit.chars ++ rest := ⟨rest', happend⟩
    have hlength := Nat.le_antisymm (hmax hread lit (List.prefix_append ..))
      (hlongest found hfound)
    obtain ⟨hchars, -⟩ := List.append_inj happend hlength.symm
    obtain rfl := eq_of_chars_eq hchars
    exact ⟨rest', hread⟩
  · intro hread
    obtain ⟨rest, hread⟩ := hread
    exact ⟨⟨rest, chars_append_of_readLiteral? hread⟩, hmax hread⟩

end Literal

/-- Nothing is read exactly if no literal stands at the start of the text. -/
theorem readLiteral?_eq_none_iff {cs : List Char} :
    readLiteral? cs = none ↔ ∀ lit : Literal, ¬ lit.chars <+: cs := by
  constructor
  · intro hnone lit hlit
    obtain ⟨rest, rfl⟩ := hlit
    obtain ⟨found, rest', hread, -⟩ := readLiteral?_chars_append lit rest
    rw [hnone] at hread
    cases hread
  · intro hnone
    rw [Option.eq_none_iff_forall_ne_some]
    intro read hread
    exact hnone read.1 ⟨read.2, chars_append_of_readLiteral? hread⟩

/-! ### The value that is found -/

theorem takeSign_eq (cs : List Char) :
    takeSign cs = ((readSign cs).1.isNegative, (readSign cs).2) := by
  unfold takeSign
  split
  · rfl
  · rfl
  · next hminus hplus => rw [readSign.eq_3 cs hminus hplus]; rfl

theorem takeFraction_eq (cs : List Char) :
    takeFraction cs = ((readFraction cs).1.getD [], (readFraction cs).2) := by
  unfold takeFraction
  split
  · rfl
  · next hpoint => rw [readFraction.eq_2 cs hpoint]; rfl

theorem leadingExponent_eq (cs : List Char) :
    leadingExponent cs = (readExponent cs).1.elim 0 Exponent.value := by
  cases cs with
  | nil => rfl
  | cons mark rest =>
    rw [leadingExponent, readExponent]
    simp only [takeSign_eq]
    by_cases hmark : mark = 'e' ∨ mark = 'E'
    · by_cases hdigits : (takeDigits (readSign rest).2).1 = []
      · -- without digits the exponent is zero
        simp [hmark, hdigits, ofDigits]
      · simp [hmark, hdigits, Exponent.value]
    · simp [hmark]

/-- The reader of numbers finds the value of the literal that is read. -/
theorem leadingDecimal?_eq (cs : List Char) :
    leadingDecimal? (takeSign cs).1 (takeSign cs).2 =
      (readLiteral? cs).map fun read => read.1.decimal := by
  rw [leadingDecimal?, readLiteral?]
  simp only [takeSign_eq, takeFraction_eq, leadingExponent_eq]
  by_cases hdigit : (takeDigits (readSign cs).2).1 ++
      (readFraction (takeDigits (readSign cs).2).2).1.getD [] = []
  · rw [dif_pos hdigit, if_pos]
    · rfl
    · simpa using hdigit
  · rw [dif_neg hdigit, if_neg]
    · rfl
    · simpa using hdigit

end ForestQuery.Decimal
