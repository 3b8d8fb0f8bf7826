import ForestQuery.Proofs.Decimal.Nearest
import ForestQuery.Proofs.Decimal.Scan

/-!
# The number at the start of a text

After white space a text may open with the word `Infinity` or with a literal, and of the literals
that it opens with the longest one counts. `leadingNumber?` finds that number by reading characters.
`scan` finds it by walking along the bytes, cutting out the literal and converting that as a whole
text. The main statement says that both find what is there, and that the second way never fails: no
cut lies inside a character, and no literal is refused by the conversion.

## Key results

- `OpensWith`: what number a text opens with
- `opensWith_leadingNumber?`, `OpensWith.eq`: the reader of numbers finds that and nothing else
- `ofText?_chars`: the conversion of whole texts takes every literal
- `scan_eq`: walking along the bytes finds the same without a fault
- `leadingNumber?_eq_iff_opensWith`: both together
-/

namespace ForestQuery.Decimal

/-! ### What a text opens with -/

/-- The word for a number beyond all others. -/
def infinityWord : List Char := "Infinity".toList

/-- The number that a text opens with: that of the word for infinity, signed or not, or else that of
the longest literal that stands at its start, or none if no literal does. -/
inductive OpensWith (cs : List Char) : Option Binary64 → Prop
  /-- The text opens with the word. -/
  | infinity (sign : Sign) (hword : sign.chars ++ infinityWord <+: cs) :
    OpensWith cs (some (.infinite sign.isNegative))
  /-- It opens with a literal. -/
  | literal (hword : ∀ sign : Sign, ¬ sign.chars ++ infinityWord <+: cs) {lit : Literal}
    (hlit : lit.IsLongest cs) : OpensWith cs (some lit.decimal.toBinary64)
  /-- It opens with no number. -/
  | nothing (hword : ∀ sign : Sign, ¬ sign.chars ++ infinityWord <+: cs)
    (hnone : ∀ lit : Literal, ¬ lit.chars <+: cs) : OpensWith cs none

/-- A text opens with the signed word exactly if the word stands after the sign that is read. -/
theorem infinityWord_prefix_iff {cs : List Char} {sign : Sign} :
    sign.chars ++ infinityWord <+: cs ↔
      (readSign cs).1 = sign ∧ infinityWord <+: (readSign cs).2 := by
  constructor
  · intro hword
    obtain ⟨rest, rfl⟩ := hword
    have hletter : readSign (infinityWord ++ rest) = (.unwritten, infinityWord ++ rest) := rfl
    rw [List.append_assoc, readSign_chars_append hletter]
    exact ⟨rfl, List.prefix_append ..⟩
  · intro hword
    obtain ⟨rfl, rest, hrest⟩ := hword
    refine ⟨rest, ?_⟩
    rw [List.append_assoc, hrest, chars_readSign_append]

/-- What the reader of numbers does, in terms of the literal that is read. -/
theorem leadingNumber?_eq (text : String) :
    let cs := Text.trimStart text.toList
    leadingNumber? text =
      if infinityWord <+: (readSign cs).2 then some (.infinite (readSign cs).1.isNegative)
      else (readLiteral? cs).map fun read => read.1.decimal.toBinary64 := by
  intro cs
  have hliteral := leadingDecimal?_eq cs
  simp only [takeSign_eq] at hliteral
  simp only [leadingNumber?, takeSign_eq, List.isPrefixOf_iff_prefix]
  rw [hliteral, Option.map_map]
  rfl

/-- The reader of numbers finds what a text opens with. -/
theorem opensWith_leadingNumber? (text : String) :
    OpensWith (Text.trimStart text.toList) (leadingNumber? text) := by
  rw [leadingNumber?_eq]
  split
  · next hword => exact .infinity _ (infinityWord_prefix_iff.2 ⟨rfl, hword⟩)
  · next hword =>
    have hnever (sign : Sign) :
        ¬ sign.chars ++ infinityWord <+: Text.trimStart text.toList := by
      intro hsigned
      exact hword (infinityWord_prefix_iff.1 hsigned).2
    cases hread : readLiteral? (Text.trimStart text.toList) with
    | none => exact .nothing hnever (readLiteral?_eq_none_iff.1 hread)
    | some read => exact .literal hnever (Literal.isLongest_iff.2 ⟨read.2, hread⟩)

/-- A text opens with one number at most. -/
theorem OpensWith.eq {cs : List Char} {x y : Option Binary64} (hx : OpensWith cs x)
    (hy : OpensWith cs y) : x = y := by
  cases hx with
  | infinity sign hword =>
    cases hy with
    | infinity sign' hword' =>
      rw [← (infinityWord_prefix_iff.1 hword).1, ← (infinityWord_prefix_iff.1 hword').1]
    | literal hnever | nothing hnever => exact absurd hword (hnever sign)
  | literal hnever hlit =>
    cases hy with
    | infinity sign hword => exact absurd hword (hnever sign)
    | literal hnever' hlit' =>
      obtain ⟨rest, hread⟩ := Literal.isLongest_iff.1 hlit
      obtain ⟨rest', hread'⟩ := Literal.isLongest_iff.1 hlit'
      obtain ⟨rfl, -⟩ := Prod.mk.inj (Option.some.inj (hread.symm.trans hread'))
      rfl
    | nothing hnever' hnone => exact absurd hlit.1 (hnone _)
  | nothing hnever hnone =>
    cases hy with
    | infinity sign hword => exact absurd hword (hnever sign)
    | literal hnever' hlit => exact absurd hlit.1 (hnone _)
    | nothing => rfl

/-- No literal means the undefined number. -/
theorem toBinary64_ne_undefined (d : Decimal) : d.toBinary64 ≠ .undefined := by
  rw [toBinary64_eq_ofRatio, Binary64.ofRatio]
  split <;> simp

theorem OpensWith.ne_undefined {cs : List Char} {x : Binary64} (hx : OpensWith cs (some x)) :
    x ≠ .undefined := by
  cases hx with
  | infinity sign hword => simp
  | literal hnever hlit => exact toBinary64_ne_undefined _

/-! ### Cutting out and converting -/

/-- The number that a word means: those for infinity and for the undefined number, in letters of
either case. -/
def wordNumber? (negative : Bool) (word : List Char) : Option Binary64 :=
  let lower := word.map Char.toLower
  if lower = "inf".toList ∨ lower = "infinity".toList then some (.infinite negative)
  else if lower = "nan".toList then some .undefined
  else none

/-- The number that a whole text means: that of a literal or of a signed word. Texts with anything
else in them mean none. -/
def ofText? (cs : List Char) : Option Binary64 :=
  match readLiteral? cs with
  | some (lit, []) => some lit.decimal.toBinary64
  | _ => wordNumber? (readSign cs).1.isNegative (readSign cs).2

theorem ofText?_chars (lit : Literal) : ofText? lit.chars = some lit.decimal.toBinary64 := by
  rw [ofText?, lit.readLiteral?_chars]

example : ofText? "12.5kg".toList = none := by decide +kernel

/-- What can go wrong when a number is cut out of a text. -/
inductive Fault
  /-- A cut lies inside a character. -/
  | insideCharacter
  /-- What was cut out is no number. -/
  | refused

/-- The number that a text means up to a position in its bytes. -/
def convertUpTo (cs : List Char) (stop : Nat) : Except Fault Binary64 :=
  match splitAt? cs stop with
  | none => .error .insideCharacter
  | some (literal, _) =>
    match ofText? literal with
    | none => .error .refused
    | some x => .ok x

/-- The number that a text opens with, found by walking along its bytes: the text is cut after the
sign to look for the word, and after the literal to convert it. -/
def scan (text : String) : Except Fault (Option Binary64) :=
  let cs := Text.trimStart text.toList
  match splitAt? cs (skipSign (bytes cs) 0) with
  | none => .error .insideCharacter
  | some (_, unsigned) =>
    if infinityWord.isPrefixOf unsigned then
      .ok (some (.infinite (cs.head? == some '-')))
    else
      match literalEnd? (bytes cs) with
      | none => .ok none
      | some stop => (convertUpTo cs stop).map some

/-- Up to the end of a literal at the start of a text, the text means what the literal does. -/
theorem convertUpTo_chars (lit : Literal) (rest : List Char) :
    convertUpTo (lit.chars ++ rest) (bytes lit.chars).length = .ok lit.decimal.toBinary64 := by
  rw [convertUpTo, splitAt?_bytes]
  dsimp only
  rw [ofText?_chars]

theorem head?_eq_minus (cs : List Char) :
    (cs.head? == some '-') = (readSign cs).1.isNegative := by
  cases cs with
  | nil => rfl
  | cons c rest =>
    by_cases hminus : c = '-'
    · subst hminus
      rfl
    by_cases hplus : c = '+'
    · subst hplus
      rfl
    rw [readSign_of_ne hminus hplus]
    simp [hminus, Sign.isNegative]

/-- Walking along the bytes finds what reading the characters does, and nothing goes wrong. -/
theorem scan_eq (text : String) : scan text = .ok (leadingNumber? text) := by
  rw [leadingNumber?_eq, scan]
  generalize Text.trimStart text.toList = cs
  have hcut := splitAt?_bytes (readSign cs).1.chars (readSign cs).2
  rw [chars_readSign_append] at hcut
  -- both cuts are at ends of leading parts: of the sign, and of the literal
  rw [skipSign_bytes, hcut, literalEnd?_bytes]
  dsimp only
  simp only [List.isPrefixOf_iff_prefix]
  split
  · rw [head?_eq_minus]
  · cases hread : readLiteral? cs with
    | none => rfl
    | some read =>
      obtain ⟨lit, rest⟩ := read
      rw [← chars_append_of_readLiteral? hread, Option.map_some, Option.map_some]
      dsimp only
      rw [convertUpTo_chars]
      rfl

/-- The reader of numbers finds what a text opens with after white space, which is never the
undefined number. It is found as well by walking along the bytes: the text is never cut inside a
character, and the literal that is cut out is not refused. -/
theorem leadingNumber?_eq_iff_opensWith (text : String) :
    (∀ result, leadingNumber? text = result ↔
      OpensWith (Text.trimStart text.toList) result) ∧
    leadingNumber? text ≠ some .undefined ∧
    scan text = .ok (leadingNumber? text) := by
  have hopens := opensWith_leadingNumber? text
  refine ⟨fun result => ⟨?_, hopens.eq⟩, fun hundefined => ?_, scan_eq text⟩
  · intro hresult
    rwa [hresult] at hopens
  · rw [hundefined] at hopens
    exact hopens.ne_undefined rfl

end ForestQuery.Decimal
