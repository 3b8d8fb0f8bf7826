import ForestQuery.Proofs.Decimal.Grammar

/-!
# Walking along the bytes of a literal

A text is kept as bytes, and a reader may walk along them by positions. Then it can go wrong where
reading characters cannot: a position may lie inside a character. The walk for a literal only goes
on past characters of one byte, whose bytes are in no other character, so each of its positions is
the end of a leading part of the text, and it ends where the longest literal does.

## Key results

- `splitAt?_bytes`: the end of a leading part lies between characters
- `head?_bytes_eq_some_iff`: a byte of a short character starts no other character
- `skipSign_eq`, `skipDigits_eq`, `skipFraction_eq`, `skipExponent_eq`: where the steps of the walk
  lead
- `literalEnd?_bytes`: the walk ends where the literal does that is read
-/

namespace ForestQuery.Decimal

/-! ### Bytes and positions -/

/-- The bytes of a text. -/
def bytes (cs : List Char) : List UInt8 := cs.flatMap String.utf8EncodeChar

/-- A text parted at a position in its bytes, unless that lies inside a character or beyond the
end. -/
def splitAt? : List Char → Nat → Option (List Char × List Char)
  | cs, 0 => some ([], cs)
  | [], _ + 1 => none
  | c :: cs, place + 1 =>
    if c.utf8Size ≤ place + 1 then
      (splitAt? cs (place + 1 - c.utf8Size)).map fun parts => (c :: parts.1, parts.2)
    else
      none

theorem bytes_append (front back : List Char) : bytes (front ++ back) = bytes front ++ bytes back :=
  List.flatMap_append

theorem length_bytes_cons (c : Char) (cs : List Char) :
    (bytes (c :: cs)).length = c.utf8Size + (bytes cs).length := by
  rw [bytes, List.flatMap_cons, List.length_append, String.length_utf8EncodeChar]
  rfl

theorem length_bytes_append (front back : List Char) :
    (bytes (front ++ back)).length = (bytes front).length + (bytes back).length := by
  rw [bytes_append, List.length_append]

theorem length_bytes_append_one (front : List Char) {c : Char} (hc : c.utf8Size = 1) :
    (bytes (front ++ [c])).length = (bytes front).length + 1 := by
  rw [length_bytes_append, length_bytes_cons, hc]
  rfl

/-- The end of a leading part lies between characters. -/
theorem splitAt?_bytes (front back : List Char) :
    splitAt? (front ++ back) (bytes front).length = some (front, back) := by
  induction front with
  | nil =>
    rw [splitAt?.eq_def]
    rfl
  | cons c front ih =>
    have hpos := c.utf8Size_pos
    obtain ⟨place, hplace⟩ : ∃ place, (bytes (c :: front)).length = place + 1 := by
      rw [length_bytes_cons]
      exact ⟨c.utf8Size + (bytes front).length - 1, by omega⟩
    have hrest : place + 1 - c.utf8Size = (bytes front).length := by
      rw [← hplace, length_bytes_cons]
      omega
    have hfits : c.utf8Size ≤ place + 1 := by
      rw [← hplace, length_bytes_cons]
      omega
    rw [hplace, List.cons_append, splitAt?, if_pos hfits, hrest, ih]
    rfl

example : splitAt? ['é', '1'] 1 = none := rfl

/-! ### Bytes of short characters -/

/-- The byte of a character that has only one. -/
def byteOf (c : Char) : UInt8 := UInt8.ofNat c.toNat

theorem toNat_byteOf {c : Char} (hc : c.toNat < 128) : (byteOf c).toNat = c.toNat := by
  rw [byteOf, UInt8.toNat_ofNat']
  omega

/-- A short character has one byte, and the first byte of any other is none of a short one. -/
theorem utf8EncodeChar_cases (c : Char) :
    c.toNat < 128 ∧ String.utf8EncodeChar c = [byteOf c] ∨
      128 ≤ c.toNat ∧ ∃ b rest, String.utf8EncodeChar c = b :: rest ∧ 128 ≤ b.toNat := by
  have hnat : c.val.toNat = c.toNat := rfl
  simp only [String.utf8EncodeChar, hnat]
  split
  · next hle => exact .inl ⟨by omega, rfl⟩
  · right
    refine ⟨by omega, ?_⟩
    split
    · exact ⟨_, _, rfl, by simp only [UInt8.toNat_ofNat']; omega⟩
    · split
      · exact ⟨_, _, rfl, by simp only [UInt8.toNat_ofNat']; omega⟩
      · exact ⟨_, _, rfl, by simp only [UInt8.toNat_ofNat']; omega⟩

theorem getElem?_bytes (front back : List Char) :
    (bytes (front ++ back))[(bytes front).length]? = (bytes back).head? := by
  rw [bytes_append, List.getElem?_append_right (Nat.le_refl _), Nat.sub_self,
    List.head?_eq_getElem?]

/-- The first byte of a text is that of a short character exactly if the first character is. -/
theorem head?_bytes_eq_some_iff {a : Char} (ha : a.toNat < 128) {cs : List Char} :
    (bytes cs).head? = some (byteOf a) ↔ cs.head? = some a := by
  cases cs with
  | nil => simp [bytes]
  | cons c cs =>
    rw [bytes, List.flatMap_cons, List.head?_cons, Option.some_inj]
    have hbyte := toNat_byteOf ha
    obtain ⟨hc, hone⟩ | ⟨hc, b, rest, hmany, hb⟩ := utf8EncodeChar_cases c
    · rw [hone, List.singleton_append, List.head?_cons, Option.some_inj]
      constructor
      · intro heq
        have hnat := congrArg UInt8.toNat heq
        rw [toNat_byteOf hc, hbyte] at hnat
        exact Char.toNat_inj.1 hnat
      · intro heq
        rw [heq]
    · rw [hmany, List.cons_append, List.head?_cons, Option.some_inj]
      constructor
      · intro heq
        rw [heq] at hb
        omega
      · intro heq
        rw [heq] at hc
        omega

/-- Whether a byte is that of a digit. -/
def isDigitByte (b : UInt8) : Bool := '0'.toNat ≤ b.toNat && b.toNat ≤ '9'.toNat

theorem isSome_digitValue? (c : Char) :
    (digitValue? c).isSome = ('0'.toNat ≤ c.toNat && c.toNat ≤ '9'.toNat) := by
  have hrange : ('0' ≤ c ∧ c ≤ '9') ↔ ('0'.toNat ≤ c.toNat ∧ c.toNat ≤ '9'.toNat) := Iff.rfl
  rw [Bool.eq_iff_iff, Bool.and_eq_true, decide_eq_true_iff, decide_eq_true_iff, ← hrange,
    digitValue?]
  split
  · next h => simp [h]
  · next h => simp [h]

theorem any_isDigitByte_head? (cs : List Char) :
    (bytes cs).head?.any isDigitByte = cs.head?.any (digitValue? · |>.isSome) := by
  cases cs with
  | nil => rfl
  | cons c cs =>
    rw [bytes, List.flatMap_cons, List.head?_cons, Option.any_some, isSome_digitValue?]
    obtain ⟨hc, hone⟩ | ⟨hc, b, rest, hmany, hb⟩ := utf8EncodeChar_cases c
    · rw [hone, List.singleton_append, List.head?_cons, Option.any_some, isDigitByte,
        toNat_byteOf hc]
    · have hnine : '9'.toNat = 57 := rfl
      have hbyte : decide (b.toNat ≤ '9'.toNat) = false := decide_eq_false (by omega)
      have hchar : decide (c.toNat ≤ '9'.toNat) = false := decide_eq_false (by omega)
      rw [hmany, List.cons_append, List.head?_cons, Option.any_some, isDigitByte, hbyte, hchar,
        Bool.and_false, Bool.and_false]

/-! ### The walk -/

/-- The position after a sign, if there is one at a position. -/
def skipSign (bs : List UInt8) (place : Nat) : Nat :=
  if bs[place]? = some (byteOf '+') ∨ bs[place]? = some (byteOf '-') then place + 1 else place

/-- The position after the digits at a position. -/
def skipDigits (bs : List UInt8) (place : Nat) : Nat :=
  if h : bs[place]?.any isDigitByte = true then skipDigits bs (place + 1) else place
termination_by bs.length - place
decreasing_by
  obtain ⟨b, hb, -⟩ := (Option.any_eq_true ..).1 h
  obtain ⟨hlt, -⟩ := List.getElem?_eq_some_iff.1 hb
  omega

/-- The position after the exponent at a position. A mark without digits is no exponent. -/
def skipExponent (bs : List UInt8) (place : Nat) : Nat :=
  if bs[place]? = some (byteOf 'e') ∨ bs[place]? = some (byteOf 'E') then
    let start := skipSign bs (place + 1)
    let stop := skipDigits bs start
    if start < stop then stop else place
  else
    place

/-- The position after the point at a position and the digits that follow it, and how many digits
there are with those before the point. A lone point is left where it is. -/
def skipFraction (bs : List UInt8) (place count : Nat) : Nat × Nat :=
  if bs[place]? = some (byteOf '.') then
    let stop := skipDigits bs (place + 1)
    let total := count + (stop - (place + 1))
    if 0 < total then (stop, total) else (place, total)
  else
    (place, count)

/-- The position at which the literal at the start of a text ends. -/
def literalEnd? (bs : List UInt8) : Option Nat :=
  let start := skipSign bs 0
  let stop := skipDigits bs start
  let mantissa := skipFraction bs stop (stop - start)
  if mantissa.2 = 0 then none else some (skipExponent bs mantissa.1)

section

variable {bs : List UInt8} {front back : List Char} (hbs : bs = bytes (front ++ back))

include hbs

/-- After a leading part the walk sees a short character exactly if the text goes on with it. -/
theorem getElem?_eq_some_byteOf_iff {a : Char} (ha : a.toNat < 128) :
    bs[(bytes front).length]? = some (byteOf a) ↔ back.head? = some a := by
  rw [hbs, getElem?_bytes, head?_bytes_eq_some_iff ha]

/-- The walk goes past the sign that is read. -/
theorem skipSign_eq :
    skipSign bs (bytes front).length = (bytes (front ++ (readSign back).1.chars)).length := by
  have hplus := getElem?_eq_some_byteOf_iff hbs (show '+'.toNat < 128 by decide)
  have hminus := getElem?_eq_some_byteOf_iff hbs (show '-'.toNat < 128 by decide)
  simp only [skipSign, hplus, hminus, length_bytes_append]
  cases back with
  | nil => rfl
  | cons c rest =>
    by_cases hc : c = '-'
    · subst hc
      rfl
    by_cases hc' : c = '+'
    · subst hc'
      rfl
    rw [readSign_of_ne hc hc', if_neg (by simp [hc, hc'])]
    rfl

end

/-- At the start of a text there is nothing before the sign. -/
theorem skipSign_bytes (cs : List Char) :
    skipSign (bytes cs) 0 = (bytes (readSign cs).1.chars).length := by
  have hbs : bytes cs = bytes ([] ++ cs) := rfl
  exact skipSign_eq hbs

theorem utf8Size_digitChar {d : Nat} (hd : d < 10) : (digitChar d).utf8Size = 1 := by
  revert d
  decide

theorem length_bytes_digitChars {ds : List Nat} (hds : ∀ d ∈ ds, d < 10) :
    (bytes (digitChars ds)).length = ds.length := by
  induction ds with
  | nil => rfl
  | cons d ds ih =>
    rw [List.forall_mem_cons] at hds
    rw [digitChars, List.map_cons, length_bytes_cons, utf8Size_digitChar hds.1, ← digitChars,
      ih hds.2, List.length_cons, Nat.add_comm]

/-- The walk goes past the digits that are taken. -/
theorem skipDigits_eq {bs : List UInt8} {front back : List Char}
    (hbs : bs = bytes (front ++ back)) :
    skipDigits bs (bytes front).length = (bytes front).length + (takeDigits back).1.length := by
  -- induction on the text to come; what the walk is past is generalized
  induction back generalizing front with
  | nil =>
    have hend : bs[(bytes front).length]?.any isDigitByte = false := by
      rw [hbs, getElem?_bytes, any_isDigitByte_head?]
      rfl
    rw [skipDigits, dif_neg (by simp [hend])]
    rfl
  | cons c rest ih =>
    have hbyte : bs[(bytes front).length]?.any isDigitByte = (digitValue? c).isSome := by
      rw [hbs, getElem?_bytes, any_isDigitByte_head?]
      rfl
    cases hc : digitValue? c with
    | none =>
      rw [hc] at hbyte
      rw [skipDigits, dif_neg (by simp [hbyte]), takeDigits_of_eq_none hc]
      rfl
    | some d =>
      rw [hc, Option.isSome_some] at hbyte
      obtain ⟨hd, rfl⟩ := digitValue?_eq_some_iff.1 hc
      have hnext := length_bytes_append_one front (utf8Size_digitChar hd)
      have hrest : bs = bytes (front ++ [digitChar d] ++ rest) := by rw [hbs, List.append_cons]
      rw [skipDigits, dif_pos hbyte, ← hnext, ih hrest, hnext, takeDigits, hc, List.length_cons]
      omega

/-- The walk goes past the exponent that is read. -/
theorem skipExponent_eq {bs : List UInt8} {front back : List Char}
    (hbs : bs = bytes (front ++ back)) :
    skipExponent bs (bytes front).length =
      (bytes (front ++ exponentChars (readExponent back).1)).length := by
  have hlower := getElem?_eq_some_byteOf_iff hbs (show 'e'.toNat < 128 by decide)
  have hupper := getElem?_eq_some_byteOf_iff hbs (show 'E'.toNat < 128 by decide)
  simp only [skipExponent, hlower, hupper]
  cases back with
  | nil => simp [readExponent, exponentChars]
  | cons mark rest =>
    by_cases hmark : mark = 'e' ∨ mark = 'E'
    · have hone : (bytes (front ++ [mark])).length = (bytes front).length + 1 := by
        apply length_bytes_append_one
        obtain rfl | rfl := hmark <;> rfl
      -- the walk goes on after the mark, and if no digit follows it comes back before it
      have hsign : bs = bytes (front ++ [mark] ++ rest) := by rw [hbs, List.append_cons]
      have hdigits : bs =
          bytes (front ++ [mark] ++ (readSign rest).1.chars ++ (readSign rest).2) := by
        rw [hsign, List.append_assoc _ (readSign rest).1.chars, chars_readSign_append]
      rw [if_pos (by simpa using hmark), ← hone, skipSign_eq hsign, skipDigits_eq hdigits,
        readExponent]
      by_cases hne : (takeDigits (readSign rest).2).1 = []
      · simp [hne, exponentChars]
      · have hpos := List.length_pos_iff.2 hne
        have hlength := length_bytes_digitChars (@lt_of_mem_takeDigits (readSign rest).2)
        rw [if_pos (by omega), dif_pos ⟨hmark, hne⟩, exponentChars, Exponent.chars, ← hlength,
          ← length_bytes_append, List.append_assoc, List.append_assoc]
        rfl
    · rw [if_neg (by simpa using hmark), readExponent, dif_neg fun h => hmark h.1]
      simp [exponentChars]

/-- The walk counts the digits after a point. If there are any, or any before it, it goes past
them. -/
theorem skipFraction_eq {bs : List UInt8} {front back : List Char}
    (hbs : bs = bytes (front ++ back)) (count : Nat) :
    (skipFraction bs (bytes front).length count).2 =
        count + ((readFraction back).1.getD []).length ∧
      (0 < count + ((readFraction back).1.getD []).length →
        (skipFraction bs (bytes front).length count).1 =
          (bytes (front ++ fractionChars (readFraction back).1)).length) := by
  have hpoint := getElem?_eq_some_byteOf_iff hbs (show '.'.toNat < 128 by decide)
  simp only [skipFraction, hpoint]
  cases back with
  | nil => simp [readFraction, fractionChars]
  | cons c rest =>
    by_cases hc : c = '.'
    · subst hc
      have hdot : (bytes (front ++ ['.'])).length = (bytes front).length + 1 :=
        length_bytes_append_one front rfl
      have hrest : bs = bytes (front ++ ['.'] ++ rest) := by rw [hbs, List.append_cons]
      have hdigits := length_bytes_digitChars (@lt_of_mem_takeDigits rest)
      have hend : (bytes (front ++ '.' :: digitChars (takeDigits rest).1)).length =
          (bytes (front ++ ['.'])).length + (takeDigits rest).1.length := by
        rw [← hdigits, ← length_bytes_append, List.append_assoc]
        rfl
      rw [if_pos (List.head?_cons ..), ← hdot, skipDigits_eq hrest, Nat.add_sub_cancel_left,
        readFraction, Option.getD_some, fractionChars, hend]
      split
      · exact ⟨rfl, fun _ => rfl⟩
      · next hnone => exact ⟨rfl, fun hsome => absurd hsome hnone⟩
    · rw [if_neg (by simpa using hc), readFraction_of_ne hc]
      simp [fractionChars]

/-- The walk ends where the literal does that is read. -/
theorem literalEnd?_bytes (cs : List Char) :
    literalEnd? (bytes cs) = (readLiteral? cs).map fun read => (bytes read.1.chars).length := by
  -- the text is parted at the ends of the sign, of the digits, and of the fraction
  have hunsigned : bytes cs = bytes ((readSign cs).1.chars ++ (readSign cs).2) := by
    rw [chars_readSign_append]
  have hwhole : bytes cs = bytes ((readSign cs).1.chars ++
      digitChars (takeDigits (readSign cs).2).1 ++ (takeDigits (readSign cs).2).2) := by
    rw [List.append_assoc, digitChars_takeDigits_append, chars_readSign_append]
  have hfraction : bytes cs = bytes ((readSign cs).1.chars ++
      digitChars (takeDigits (readSign cs).2).1 ++
      fractionChars (readFraction (takeDigits (readSign cs).2).2).1 ++
      (readFraction (takeDigits (readSign cs).2).2).2) := by
    rw [List.append_assoc, fractionChars_readFraction_append, List.append_assoc,
      digitChars_takeDigits_append, chars_readSign_append]
  have hstop : skipDigits (bytes cs) (bytes (readSign cs).1.chars).length =
      (bytes ((readSign cs).1.chars ++ digitChars (takeDigits (readSign cs).2).1)).length := by
    rw [skipDigits_eq hunsigned, length_bytes_append,
      length_bytes_digitChars lt_of_mem_takeDigits]
  obtain ⟨hcount, hend⟩ := skipFraction_eq hwhole (takeDigits (readSign cs).2).1.length
  rw [literalEnd?, skipSign_bytes, hstop, length_bytes_append, Nat.add_sub_cancel_left,
    ← length_bytes_append, length_bytes_digitChars lt_of_mem_takeDigits, readLiteral?]
  simp only [hcount]
  rw [← List.length_append] at hend ⊢
  split
  · next hnil =>
    rw [List.length_eq_zero_iff] at hnil
    rw [dif_pos hnil]
    rfl
  · next hne =>
    rw [hend (Nat.pos_of_ne_zero hne), skipExponent_eq hfraction]
    rw [List.length_eq_zero_iff] at hne
    rw [dif_neg hne, Option.map_some, Literal.chars]
    simp only [List.append_assoc]

end ForestQuery.Decimal
