import ForestQuery.Operator

/-!
# Reading a pattern from its source

The source of a pattern can be read back: an opening is never taken for the start of a literal, for
a character that means something in a source is escaped in a literal, and the literal ends at the
first character that is neither plain nor escaped. Only a pattern that may start anywhere and ends
before a character that is not a word character reads as another one, and no operator makes it.

## Key results

- `Pattern.takeLiteral_escape`: an escaped literal is read back, whatever closes it
- `Pattern.ofSource?_source`: a pattern is read back from its source
-/

namespace ForestQuery

namespace Pattern

/-! ### Reading -/

/-- The opening of a source, and what is left. -/
def takeOpening : List Char → Opening × List Char
  | '^' :: rest => (.textStart, rest)
  | '\\' :: 'W' :: rest => (.nonWord, rest)
  | text => (.anywhere, text)

/-- The literal that a source goes on with, and what is left. -/
def takeLiteral : List Char → List Char × List Char
  | '\\' :: c :: rest =>
    if special.contains c then (c :: (takeLiteral rest).1, (takeLiteral rest).2)
    else ([], '\\' :: c :: rest)
  | c :: rest =>
    if special.contains c then ([], c :: rest)
    else (c :: (takeLiteral rest).1, (takeLiteral rest).2)
  | [] => ([], [])

/-- The closing that a source ends with. -/
def closing? : List Char → Option Closing
  | [] => some .anything
  | ['$'] => some .textEnd
  | ['-'] => some .hyphen
  | ['\\', 'W'] => some .nonWord
  | _ => none

/-- The pattern with a source. -/
def ofSource? (source : String) : Option Pattern :=
  let (opening, text) := takeOpening source.toList
  let (literal, rest) := takeLiteral text
  (closing? rest).map fun closing => ⟨opening, String.ofList literal, closing⟩

/-! ### What is read -/

/-- A character is read back from its escaped form. -/
theorem takeLiteral_escapeChar (c : Char) (rest : List Char) :
    takeLiteral (escapeChar c ++ rest) = (c :: (takeLiteral rest).1, (takeLiteral rest).2) := by
  by_cases hspecial : special.contains c
  · rw [escapeChar, if_pos hspecial]
    exact if_pos hspecial
  · have hne : c ≠ '\\' := by
      rintro rfl
      exact hspecial rfl
    rw [escapeChar, if_neg hspecial, List.singleton_append, takeLiteral]
    · exact if_neg hspecial
    · intro d more hc
      exact absurd hc hne

/-- A literal is read back from its escaped form, up to what no literal goes on with. -/
theorem takeLiteral_escape {rest : List Char} (hrest : takeLiteral rest = ([], rest))
    (literal : List Char) :
    takeLiteral (literal.flatMap escapeChar ++ rest) = (literal, rest) := by
  induction literal with
  | nil => exact hrest
  | cons c literal ih => rw [List.flatMap_cons, List.append_assoc, takeLiteral_escapeChar, ih]

/-- No literal goes on with a closing. -/
theorem takeLiteral_closing (closing : Closing) :
    takeLiteral closing.source.toList = ([], closing.source.toList) := by
  cases closing <;> rfl

theorem closing?_source (closing : Closing) : closing? closing.source.toList = some closing := by
  cases closing <;> rfl

/-- An escaped literal does not start as an opening does. -/
theorem takeOpening_escapeChar (c : Char) (rest : List Char) :
    takeOpening (escapeChar c ++ rest) = (.anywhere, escapeChar c ++ rest) := by
  by_cases hspecial : special.contains c
  · have hne : c ≠ 'W' := by
      rintro rfl
      exact absurd hspecial (by decide)
    rw [escapeChar, if_pos hspecial, List.cons_append, List.singleton_append, takeOpening]
    · simp
    · simpa using hne
  · have hne : c ≠ '^' ∧ c ≠ '\\' := by
      constructor
      · rintro rfl
        exact hspecial rfl
      · rintro rfl
        exact hspecial rfl
    rw [escapeChar, if_neg hspecial, List.singleton_append, takeOpening]
    · simpa using hne.1
    · simpa using fun _ hc => absurd hc hne.2

theorem toList_source (p : Pattern) :
    p.source.toList = p.opening.source.toList ++
      (p.literal.toList.flatMap escapeChar ++ p.closing.source.toList) := by
  rw [source, escape, String.toList_append, String.toList_append, String.toList_ofList,
    List.append_assoc]

/-- An opening is read back, unless there is none and the closing reads as one. -/
theorem takeOpening_source {p : Pattern} (hp : p.opening = .anywhere → p.closing ≠ .nonWord) :
    takeOpening p.source.toList =
      (p.opening, p.literal.toList.flatMap escapeChar ++ p.closing.source.toList) := by
  rw [toList_source]
  cases hopening : p.opening with
  | textStart => rfl
  | nonWord => rfl
  | anywhere =>
    rw [show Opening.anywhere.source.toList = [] from rfl, List.nil_append]
    cases p.literal.toList with
    | nil =>
      -- nothing but the closing
      cases hclosing : p.closing with
      | anything | textEnd | hyphen => rfl
      | nonWord => exact absurd hclosing (hp hopening)
    | cons c literal =>
      rw [List.flatMap_cons, List.append_assoc]
      exact takeOpening_escapeChar c _

/-- A pattern is read back from its source, unless it may start anywhere and closes as a pattern may
open. -/
theorem ofSource?_source {p : Pattern} (hp : p.opening = .anywhere → p.closing ≠ .nonWord) :
    ofSource? p.source = some p := by
  rw [ofSource?, takeOpening_source hp]
  dsimp only
  rw [takeLiteral_escape (takeLiteral_closing p.closing)]
  dsimp only
  rw [closing?_source, String.ofList_toList]
  rfl

example : ofSource? (⟨.anywhere, "", .nonWord⟩ : Pattern).source =
    some ⟨.nonWord, "", .anything⟩ := rfl

/-- The pattern of an operator is read back from its source. -/
theorem ofSource?_textMatch (place : TextMatch) (literal : String) :
    ofSource? (place.pattern literal).source = some (place.pattern literal) := by
  refine ofSource?_source ?_
  cases place <;> simp [TextMatch.pattern]

end Pattern

end ForestQuery
