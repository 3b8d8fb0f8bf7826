import ForestQuery.Proofs.Predicate.Source

/-!
# Patterns as regular expressions

A store takes the source of a pattern as a regular expression. Read as one, without regard to case,
the source finds exactly the texts that the pattern does: every character of the literal stands for
itself, whatever it means elsewhere in an expression, and whatever is before and after it.

The expressions here are sequences of characters, of the class of characters that are no word
characters, and of the two ends of the text. No other operator is read.

## Key results

- `Expression.matches_append_iff`: a sequence matches a piece of a text in two parts
- `Pattern.ofSource?_source_toList`: the source of a pattern is an expression, its literal as it is
- `Pattern.occursIn_iff`: where a pattern is found
- `Pattern.finds_iff`: the expression finds what the pattern does
-/

namespace ForestQuery

/-! ### Letters but for case -/

namespace Text

/-- Two texts are the same, character by character, but for case. -/
def SameLetters (a b : List Char) : Prop := a.map fold = b.map fold

theorem sameLetters_nil_iff {a : List Char} : SameLetters a [] ↔ a = [] := by
  simp [SameLetters]

theorem sameLetters_cons_iff {a b : List Char} {c : Char} :
    SameLetters a (c :: b) ↔ ∃ d a', a = d :: a' ∧ fold d = fold c ∧ SameLetters a' b := by
  constructor
  · intro h
    cases a with
    | nil => exact nomatch h
    | cons d a =>
      obtain ⟨hd, ha⟩ := List.cons.inj h
      exact ⟨d, a, rfl, hd, ha⟩
  · intro h
    obtain ⟨d, a, rfl, hd, ha⟩ := h
    rw [SameLetters, List.map_cons, List.map_cons, hd, ha]

/-- A character beyond ASCII is not folded to the hyphen. -/
theorem fold_ne_hyphen_of_le {c : Char} (hc : 128 ≤ c.toNat) : fold c ≠ '-' := by
  have htargets : ∀ run ∈ foldRuns, '-'.toNat < run.target := by decide +kernel
  -- what a run takes a character to lies above the hyphen, and so does what no run has
  have hlong : '-'.toNat < (foldRuns.findSome? (·.fold? c.toNat)).getD c.toNat := by
    cases hfind : foldRuns.findSome? (·.fold? c.toNat) with
    | none => exact Nat.lt_of_lt_of_le (by decide) hc
    | some n =>
      obtain ⟨run, hrun, hn⟩ := List.exists_of_findSome?_eq_some hfind
      unfold FoldRun.fold? at hn
      split at hn
      · have htarget := htargets run hrun
        obtain rfl := Option.some.inj hn
        exact Nat.lt_of_lt_of_le htarget (Nat.le_add_right _ _)
      · exact nomatch hn
  unfold fold
  rw [if_neg (Nat.not_lt.2 hc)]
  intro heq
  generalize (foldRuns.findSome? (·.fold? c.toNat)).getD c.toNat = n at hlong heq
  by_cases hvalid : n.isValidChar
  · have hnat : n = '-'.toNat := by
      rw [Char.ofNat, dif_pos hvalid] at heq
      exact congrArg Char.toNat heq
    exact Nat.ne_of_gt hlong hnat
  · rw [Char.ofNat, dif_neg hvalid] at heq
    exact absurd heq (by decide)

/-- Only the hyphen is folded as the hyphen is. -/
theorem fold_eq_fold_hyphen_iff {c : Char} : fold c = fold '-' ↔ c = '-' := by
  have hhyphen : fold '-' = '-' := rfl
  rw [hhyphen]
  constructor
  · intro hc
    by_cases hshort : c.toNat < 128
    · have hlower : ∀ n < 128, (Char.ofNat n).toLower = '-' → Char.ofNat n = '-' := by
        decide +kernel
      have hfold := hlower c.toNat hshort
      rw [Char.ofNat_toNat] at hfold
      unfold fold at hc
      rw [if_pos hshort] at hc
      exact hfold hc
    · exact absurd hc (fold_ne_hyphen_of_le (Nat.not_lt.1 hshort))
  · intro hc
    rw [hc, hhyphen]

end Text

/-! ### Expressions -/

/-- A part of an expression. -/
inductive Atom
  /-- A character, its case aside. -/
  | letter (c : Char)
  /-- A character that is not a word character. -/
  | nonWord
  /-- The start of the text. -/
  | textStart
  /-- The end of the text. -/
  | textEnd
deriving DecidableEq

namespace Expression

/-- The characters that are operators outside of a class of characters. -/
def operators : List Char :=
  ['\\', '.', '+', '*', '?', '(', ')', '|', '[', ']', '\x7b', '\x7d', '^', '$']

/-- The parts of an expression, read from its source. Repetitions, alternatives, groups and classes
in brackets are not read, nor is an escaped letter but for the one for non-word characters. -/
def ofSource? : List Char → Option (List Atom)
  | [] => some []
  | '\\' :: c :: rest =>
    if Pattern.special.contains c then (ofSource? rest).map (.letter c :: ·)
    else if c = 'W' then (ofSource? rest).map (.nonWord :: ·)
    else none
  | c :: rest =>
    if c = '^' then (ofSource? rest).map (.textStart :: ·)
    else if c = '$' then (ofSource? rest).map (.textEnd :: ·)
    else if operators.contains c then none
    else (ofSource? rest).map (.letter c :: ·)

/-- Parts in a row match a piece of a text, after what is before it and before what is after it. -/
inductive Matches : List Atom → List Char → List Char → List Char → Prop
  /-- No parts match the empty piece. -/
  | nil (before after : List Char) : Matches [] before [] after
  /-- A character matches one that is the same but for case. -/
  | letter {c d : Char} {atoms : List Atom} {before part after : List Char}
    (hsame : Text.fold d = Text.fold c) (hrest : Matches atoms (before ++ [d]) part after) :
    Matches (.letter c :: atoms) before (d :: part) after
  /-- The class matches a character that is not a word character. -/
  | nonWord {d : Char} {atoms : List Atom} {before part after : List Char}
    (hd : Text.isWord d = false) (hrest : Matches atoms (before ++ [d]) part after) :
    Matches (.nonWord :: atoms) before (d :: part) after
  /-- The start of the text has nothing before it. -/
  | textStart {atoms : List Atom} {part after : List Char} (hrest : Matches atoms [] part after) :
    Matches (.textStart :: atoms) [] part after
  /-- The end of the text has nothing after it. -/
  | textEnd {atoms : List Atom} {before : List Char} (hrest : Matches atoms before [] []) :
    Matches (.textEnd :: atoms) before [] []

/-- An expression finds a text if it matches a piece of it. -/
def Finds (atoms : List Atom) (text : List Char) : Prop :=
  ∃ before part after, text = before ++ (part ++ after) ∧ Matches atoms before part after

/-! ### Matching in parts -/

section Parts

variable {xs ys atoms : List Atom} {before part after : List Char}

/-- What two sequences match, one after the other, they match in a row. -/
theorem Matches.append {p q : List Char} (hxs : Matches xs before p (q ++ after))
    (hys : Matches ys (before ++ p) q after) : Matches (xs ++ ys) before (p ++ q) after := by
  generalize hrest : q ++ after = rest at hxs
  induction hxs with
  | nil => rw [List.append_nil] at hys; exact hys
  | letter hsame _ ih =>
    rw [List.append_cons] at hys
    exact .letter hsame (ih hys hrest)
  | nonWord hd _ ih =>
    rw [List.append_cons] at hys
    exact .nonWord hd (ih hys hrest)
  | textStart _ ih => exact .textStart (ih hys hrest)
  | textEnd _ ih =>
    -- the end of the text is here, so that nothing is left for the second sequence
    obtain ⟨rfl, rfl⟩ := List.append_eq_nil_iff.1 hrest
    exact .textEnd (ih hys rfl)

/-- Parts in a row match a piece of which the first ones match a part and the others the rest. -/
theorem matches_append_iff :
    Matches (xs ++ ys) before part after ↔
      ∃ p q, part = p ++ q ∧ Matches xs before p (q ++ after) ∧
        Matches ys (before ++ p) q after := by
  constructor
  · intro h
    induction xs generalizing before part with
    | nil => exact ⟨[], part, rfl, .nil _ _, by rw [List.append_nil]; exact h⟩
    | cons x xs ih =>
      cases h with
      | letter hsame hrest =>
        obtain ⟨p, q, rfl, hxs, hys⟩ := ih hrest
        exact ⟨_ :: p, q, rfl, .letter hsame hxs, by rw [List.append_cons]; exact hys⟩
      | nonWord hd hrest =>
        obtain ⟨p, q, rfl, hxs, hys⟩ := ih hrest
        exact ⟨_ :: p, q, rfl, .nonWord hd hxs, by rw [List.append_cons]; exact hys⟩
      | textStart hrest =>
        obtain ⟨p, q, rfl, hxs, hys⟩ := ih hrest
        exact ⟨p, q, rfl, .textStart hxs, hys⟩
      | textEnd hrest =>
        obtain ⟨p, q, hpart, hxs, hys⟩ := ih hrest
        obtain ⟨rfl, rfl⟩ := List.nil_eq_append_iff.1 hpart
        exact ⟨[], [], rfl, .textEnd hxs, hys⟩
  · intro h
    obtain ⟨p, q, rfl, hxs, hys⟩ := h
    exact hxs.append hys

theorem matches_nil_iff : Matches [] before part after ↔ part = [] := by
  constructor
  · intro h
    cases h
    rfl
  · intro h
    rw [h]
    exact .nil _ _

theorem matches_letter_iff {c : Char} :
    Matches [.letter c] before part after ↔ ∃ d, part = [d] ∧ Text.fold d = Text.fold c := by
  constructor
  · intro h
    cases h with
    | letter hsame hrest =>
      obtain rfl := matches_nil_iff.1 hrest
      exact ⟨_, rfl, hsame⟩
  · intro h
    obtain ⟨d, rfl, hsame⟩ := h
    exact .letter hsame (.nil _ _)

theorem matches_nonWord_iff :
    Matches [.nonWord] before part after ↔ ∃ d, part = [d] ∧ Text.isWord d = false := by
  constructor
  · intro h
    cases h with
    | nonWord hd hrest =>
      obtain rfl := matches_nil_iff.1 hrest
      exact ⟨_, rfl, hd⟩
  · intro h
    obtain ⟨d, rfl, hd⟩ := h
    exact .nonWord hd (.nil _ _)

theorem matches_textStart_iff :
    Matches [.textStart] before part after ↔ part = [] ∧ before = [] := by
  constructor
  · intro h
    cases h with
    | textStart hrest => exact ⟨matches_nil_iff.1 hrest, rfl⟩
  · intro h
    obtain ⟨rfl, rfl⟩ := h
    exact .textStart (.nil _ _)

theorem matches_textEnd_iff :
    Matches [.textEnd] before part after ↔ part = [] ∧ after = [] := by
  constructor
  · intro h
    cases h with
    | textEnd hrest => exact ⟨rfl, rfl⟩
  · intro h
    obtain ⟨rfl, rfl⟩ := h
    exact .textEnd (.nil _ _)

/-- Characters in a row match the texts that are the same but for case. -/
theorem matches_letters_iff {literal : List Char} :
    Matches (literal.map .letter) before part after ↔ Text.SameLetters part literal := by
  induction literal generalizing before part with
  | nil => rw [List.map_nil, matches_nil_iff, Text.sameLetters_nil_iff]
  | cons c literal ih =>
    rw [List.map_cons, Text.sameLetters_cons_iff]
    constructor
    · intro h
      cases h with
      | letter hsame hrest => exact ⟨_, _, rfl, hsame, ih.1 hrest⟩
    · intro h
      obtain ⟨d, part, rfl, hsame, hrest⟩ := h
      exact .letter hsame (ih.2 hrest)

end Parts

end Expression

/-! ### The source of a pattern -/

/-- An opening as parts of an expression. -/
def Opening.atoms : Opening → List Atom
  | anywhere => []
  | textStart => [.textStart]
  | nonWord => [.nonWord]

/-- A closing as parts of an expression. -/
def Closing.atoms : Closing → List Atom
  | anything => []
  | textEnd => [.textEnd]
  | hyphen => [.letter '-']
  | nonWord => [.nonWord]

/-- A pattern as an expression. -/
def Pattern.atoms (p : Pattern) : List Atom :=
  p.opening.atoms ++ (p.literal.toList.map .letter ++ p.closing.atoms)

namespace Expression

/-- An escaped character is read as the character. -/
theorem ofSource?_escapeChar (c : Char) (rest : List Char) :
    ofSource? (Pattern.escapeChar c ++ rest) = (ofSource? rest).map (.letter c :: ·) := by
  by_cases hspecial : Pattern.special.contains c
  · rw [Pattern.escapeChar, if_pos hspecial, List.cons_append, List.singleton_append, ofSource?,
      if_pos hspecial]
  · -- what needs no backslash is no operator
    have hescaped : ∀ d ∈ operators, Pattern.special.contains d := by
      simp [operators, Pattern.special]
    have hne (d : Char) (hd : d ∈ operators) : c ≠ d := by
      rintro rfl
      exact hspecial (hescaped _ hd)
    have hoperators : ¬ operators.contains c := by
      rw [List.contains_iff_mem]
      exact fun hc => hne c hc rfl
    rw [Pattern.escapeChar, if_neg hspecial, List.singleton_append, ofSource?,
      if_neg (hne '^' (by decide)), if_neg (hne '$' (by decide)), if_neg hoperators]
    intro d more hc
    exact absurd hc (hne _ (by decide))

/-- An escaped literal is read as its characters. -/
theorem ofSource?_escape (literal rest : List Char) :
    ofSource? (literal.flatMap Pattern.escapeChar ++ rest) =
      (ofSource? rest).map (literal.map .letter ++ ·) := by
  induction literal with
  | nil => simp
  | cons c literal ih =>
    rw [List.flatMap_cons, List.append_assoc, ofSource?_escapeChar, ih, Option.map_map]
    rfl

theorem ofSource?_opening (opening : Opening) (rest : List Char) :
    ofSource? (opening.source.toList ++ rest) = (ofSource? rest).map (opening.atoms ++ ·) := by
  cases opening with
  | anywhere => simp [Opening.source, Opening.atoms]
  | textStart => rfl
  | nonWord => rfl

theorem ofSource?_closing (closing : Closing) :
    ofSource? closing.source.toList = some closing.atoms := by
  cases closing <;> rfl

end Expression

namespace Pattern

/-- The source of a pattern is read as the pattern. -/
theorem ofSource?_source_toList (p : Pattern) :
    Expression.ofSource? p.source.toList = some p.atoms := by
  rw [toList_source, Expression.ofSource?_opening, Expression.ofSource?_escape,
    Expression.ofSource?_closing]
  rfl

example : Expression.ofSource? (TextMatch.word.pattern "$5").source.toList =
    some [.nonWord, .letter '$', .letter '5', .nonWord] := rfl

end Pattern

/-! ### Where a pattern is found -/

/-- What is before a literal is as the opening asks. -/
def Opening.Admits : Opening → List Char → Prop
  | anywhere, _ => True
  | textStart, before => before = []
  | nonWord, before => ∃ front d, before = front ++ [d] ∧ Text.isWord d = false

/-- What is after a literal is as the closing asks. -/
def Closing.Admits : Closing → List Char → Prop
  | anything, _ => True
  | textEnd, after => after = []
  | hyphen, after => ∃ rest, after = '-' :: rest
  | nonWord, after => ∃ d rest, after = d :: rest ∧ Text.isWord d = false

namespace Pattern

/-- A pattern occurs in a text: a part of it is the literal but for case, between what the two
conditions ask for. -/
def Occurs (p : Pattern) (text : List Char) : Prop :=
  ∃ before part after, text = before ++ (part ++ after) ∧ p.opening.Admits before ∧
    Text.SameLetters part p.literal.toList ∧ p.closing.Admits after

theorem startsNonWord_iff {text : List Char} :
    startsNonWord text = true ↔ ∃ d rest, text = d :: rest ∧ Text.isWord d = false := by
  cases text with
  | nil => simp [startsNonWord]
  | cons c text => simp [startsNonWord]

theorem closes_iff {closing : Closing} {after : List Char} :
    closes closing after = true ↔ closing.Admits after := by
  cases closing with
  | anything => simp [closes, Closing.Admits]
  | textEnd => simp [closes, Closing.Admits]
  | hyphen =>
    show (after.head? == some '-') = true ↔ ∃ rest, after = '-' :: rest
    rw [beq_iff_eq, List.head?_eq_some_iff]
  | nonWord => exact startsNonWord_iff

/-- A pattern matches at the start of a text exactly if its literal is there, and then what the
closing asks for. -/
theorem matchesHere_iff {p : Pattern} {text : List Char} :
    p.matchesHere text = true ↔
      ∃ part after, text = part ++ after ∧ Text.SameLetters part p.literal.toList ∧
        p.closing.Admits after := by
  rw [matchesHere, Option.any_eq_true]
  constructor
  · intro h
    obtain ⟨after, hdrop, hcloses⟩ := h
    obtain ⟨part, htext, hsame⟩ := dropLiteral_eq_some_iff.1 hdrop
    exact ⟨part, after, htext, hsame, closes_iff.1 hcloses⟩
  · intro h
    obtain ⟨part, after, htext, hsame, hadmits⟩ := h
    exact ⟨after, dropLiteral_eq_some_iff.2 ⟨part, htext, hsame⟩, closes_iff.2 hadmits⟩

/-- A pattern is found exactly in the texts that it occurs in. -/
theorem occursIn_iff {p : Pattern} {text : List Char} : p.occursIn text = true ↔ p.Occurs text := by
  obtain ⟨opening, literal, closing⟩ := p
  cases opening with
  | textStart =>
    show matchesHere _ text = true ↔ _
    rw [matchesHere_iff]
    constructor
    · intro h
      obtain ⟨part, after, htext, h⟩ := h
      exact ⟨[], part, after, htext, rfl, h⟩
    · intro h
      obtain ⟨before, part, after, htext, rfl, h⟩ := h
      exact ⟨part, after, htext, h⟩
  | anywhere =>
    show anyPlace (matchesHere _) text = true ↔ _
    rw [anyPlace_eq_true_iff]
    constructor
    · intro h
      obtain ⟨before, rest, rfl, hmatches⟩ := h
      obtain ⟨part, after, rfl, h⟩ := matchesHere_iff.1 hmatches
      exact ⟨before, part, after, rfl, trivial, h⟩
    · intro h
      obtain ⟨before, part, after, htext, -, h⟩ := h
      exact ⟨before, part ++ after, htext, matchesHere_iff.2 ⟨part, after, rfl, h⟩⟩
  | nonWord =>
    show anyPlace (fun rest => startsNonWord rest && matchesHere _ rest.tail) text = true ↔ _
    rw [anyPlace_eq_true_iff]
    constructor
    · intro h
      obtain ⟨front, rest, rfl, hplace⟩ := h
      obtain ⟨hstarts, hmatches⟩ := Bool.and_eq_true_iff.1 hplace
      obtain ⟨d, rest, rfl, hd⟩ := startsNonWord_iff.1 hstarts
      obtain ⟨part, after, rfl, h⟩ := matchesHere_iff.1 hmatches
      exact ⟨front ++ [d], part, after, by simp, ⟨front, d, rfl, hd⟩, h⟩
    · intro h
      obtain ⟨_, part, after, rfl, ⟨front, d, rfl, hd⟩, h⟩ := h
      refine ⟨front, d :: (part ++ after), by simp, Bool.and_eq_true_iff.2 ⟨?_, ?_⟩⟩
      · exact startsNonWord_iff.2 ⟨d, _, rfl, hd⟩
      · exact matchesHere_iff.2 ⟨part, after, rfl, h⟩

end Pattern

/-! ### What the expression finds -/

/-- The parts of an opening match up to the literal exactly if it admits what is before it. -/
theorem Opening.matches_atoms_iff {opening : Opening} {before : List Char} (after : List Char) :
    (∃ b p, before = b ++ p ∧ Expression.Matches opening.atoms b p after) ↔
      opening.Admits before := by
  cases opening with
  | anywhere => exact ⟨fun _ => trivial, fun _ => ⟨before, [], by simp, .nil _ _⟩⟩
  | textStart =>
    simp only [atoms, Admits, Expression.matches_textStart_iff]
    constructor
    · intro h
      obtain ⟨b, p, rfl, rfl, rfl⟩ := h
      rfl
    · intro h
      exact ⟨[], [], h, rfl, rfl⟩
  | nonWord =>
    simp only [atoms, Admits, Expression.matches_nonWord_iff]
    constructor
    · intro h
      obtain ⟨b, p, rfl, d, rfl, hd⟩ := h
      exact ⟨b, d, rfl, hd⟩
    · intro h
      obtain ⟨front, d, rfl, hd⟩ := h
      exact ⟨front, [d], rfl, d, rfl, hd⟩

/-- The parts of a closing match from the literal on exactly if it admits what is after it. -/
theorem Closing.matches_atoms_iff {closing : Closing} (before : List Char) {after : List Char} :
    (∃ q a, after = q ++ a ∧ Expression.Matches closing.atoms before q a) ↔
      closing.Admits after := by
  cases closing with
  | anything => exact ⟨fun _ => trivial, fun _ => ⟨[], after, rfl, .nil _ _⟩⟩
  | textEnd =>
    simp only [atoms, Admits, Expression.matches_textEnd_iff]
    constructor
    · intro h
      obtain ⟨q, a, rfl, rfl, rfl⟩ := h
      rfl
    · intro h
      exact ⟨[], [], h, rfl, rfl⟩
  | hyphen =>
    simp only [atoms, Admits, Expression.matches_letter_iff, Text.fold_eq_fold_hyphen_iff]
    constructor
    · intro h
      obtain ⟨q, a, rfl, d, rfl, rfl⟩ := h
      exact ⟨a, rfl⟩
    · intro h
      obtain ⟨rest, rfl⟩ := h
      exact ⟨['-'], rest, rfl, '-', rfl, rfl⟩
  | nonWord =>
    simp only [atoms, Admits, Expression.matches_nonWord_iff]
    constructor
    · intro h
      obtain ⟨q, a, rfl, d, rfl, hd⟩ := h
      exact ⟨d, a, rfl, hd⟩
    · intro h
      obtain ⟨d, rest, rfl, hd⟩ := h
      exact ⟨[d], rest, rfl, d, rfl, hd⟩

namespace Pattern

/-- A pattern, as an expression, finds exactly the texts that it occurs in. -/
theorem finds_iff {p : Pattern} {text : List Char} :
    Expression.Finds p.atoms text ↔ p.Occurs text := by
  constructor
  · intro h
    obtain ⟨b, piece, a, rfl, hmatches⟩ := h
    obtain ⟨front, piece, rfl, hopening, hmatches⟩ := Expression.matches_append_iff.1 hmatches
    obtain ⟨part, back, rfl, hletters, hclosing⟩ := Expression.matches_append_iff.1 hmatches
    have hbefore := (Opening.matches_atoms_iff _).1 ⟨b, front, rfl, hopening⟩
    have hafter := (Closing.matches_atoms_iff _).1 ⟨back, a, rfl, hclosing⟩
    exact ⟨b ++ front, part, back ++ a, by simp, hbefore, Expression.matches_letters_iff.1 hletters,
      hafter⟩
  · intro h
    obtain ⟨before, part, after, rfl, hbefore, hletters, hafter⟩ := h
    obtain ⟨b, front, rfl, hopening⟩ := (Opening.matches_atoms_iff (part ++ after)).2 hbefore
    obtain ⟨back, a, rfl, hclosing⟩ := (Closing.matches_atoms_iff (b ++ front ++ part)).2 hafter
    have hrest : Expression.Matches (p.literal.toList.map .letter ++ p.closing.atoms) (b ++ front)
        (part ++ back) a :=
      Expression.Matches.append (Expression.matches_letters_iff.2 hletters) hclosing
    rw [← List.append_assoc] at hopening
    exact ⟨b, front ++ (part ++ back), a, by simp, hopening.append hrest⟩

end Pattern

end ForestQuery
