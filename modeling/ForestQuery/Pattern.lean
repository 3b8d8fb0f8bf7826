import ForestQuery.Text.CaseFold
import ForestQuery.Text.Word

/-!
# Text patterns

A text pattern is a literal text between an opening and a closing condition, matched without regard
to case. Stores take it as the source of a regular expression, in which every character of the
literal that means something there is escaped; two patterns are equal if their sources are.

To match a pattern here, its source has to be accepted by a library for regular expressions, which
may refuse it, for instance as too large. Which sources the library accepts is a parameter of all
that matches: `compiles` tells it of each. A pattern whose source is refused constrains a query that
is sent to a store like any other, but finds nothing here.

`dropLiteral_eq_some_iff` says which texts start with a literal but for case, and
`anyPlace_eq_true_iff` that every place of a text is tried.
-/

namespace ForestQuery

/-- Where the literal of a pattern may start. -/
inductive Opening
  /-- Anywhere. -/
  | anywhere
  /-- At the start of the text. -/
  | textStart
  /-- After a character that is not a word character. -/
  | nonWord
deriving DecidableEq

/-- What must follow the literal of a pattern. -/
inductive Closing
  /-- Anything. -/
  | anything
  /-- The end of the text. -/
  | textEnd
  /-- A hyphen. -/
  | hyphen
  /-- A character that is not a word character. -/
  | nonWord
deriving DecidableEq

/-- A literal text between two conditions. -/
structure Pattern where
  /-- Where the literal may start. -/
  opening : Opening
  /-- The literal text. -/
  literal : String
  /-- What must follow. -/
  closing : Closing

/-- The source of an opening. -/
def Opening.source : Opening → String
  | anywhere => ""
  | textStart => "^"
  | nonWord => "\\W"

/-- The source of a closing. -/
def Closing.source : Closing → String
  | anything => ""
  | textEnd => "$"
  | hyphen => "-"
  | nonWord => "\\W"

namespace Pattern

/-- The characters that are escaped in the source of a regular expression. -/
def special : List Char :=
  ['\\', '.', '+', '*', '?', '(', ')', '|', '[', ']', '\x7b', '\x7d', '^', '$', '#', '&', '-', '~']

/-- A character as a regular expression that matches it. -/
def escapeChar (c : Char) : List Char :=
  if special.contains c then ['\\', c] else [c]

/-- A text as a regular expression that matches it. -/
def escape (s : String) : String := String.ofList (s.toList.flatMap escapeChar)

/-- The pattern as the source of a regular expression. -/
def source (p : Pattern) : String := p.opening.source ++ escape p.literal ++ p.closing.source

/-- The pattern as a regular expression without regard to case. -/
def display (p : Pattern) : String := "/" ++ p.source ++ "/i"

/-- Patterns are equal if their sources are. -/
def same (p q : Pattern) : Bool := p.source == q.source

/-- Whether the pattern can be matched here: the library accepts its source. -/
def isCompiled (compiles : String → Bool) (p : Pattern) : Bool := compiles p.source

/-- The text after a literal at its start, letter case aside. -/
def dropLiteral : List Char → List Char → Option (List Char)
  | [], text => some text
  | l :: literal, c :: text => if Text.sameFolded l c then dropLiteral literal text else none
  | _ :: _, [] => none

/-- The literal is dropped exactly from a text that goes on, after characters that are those of the
literal but for case, with what is left. -/
theorem dropLiteral_eq_some_iff {literal text rest : List Char} :
    dropLiteral literal text = some rest ↔
      ∃ front, text = front ++ rest ∧ front.map Text.fold = literal.map Text.fold := by
  fun_induction dropLiteral literal text with
  | case1 text =>
    constructor
    · rintro ⟨⟩
      exact ⟨[], rfl, rfl⟩
    · rintro ⟨front, rfl, hfold⟩
      rw [List.map_nil, List.map_eq_nil_iff] at hfold
      rw [hfold, List.nil_append]
  | case2 l literal c text hsame ih =>
    rw [ih]
    have hfold : Text.fold l = Text.fold c := by simpa [Text.sameFolded] using hsame
    constructor
    · rintro ⟨front, rfl, hfront⟩
      exact ⟨c :: front, rfl, by rw [List.map_cons, List.map_cons, hfront, hfold]⟩
    · rintro ⟨front, htext, hfront⟩
      obtain ⟨d, front, rfl⟩ : ∃ d tail, front = d :: tail := by
        cases front with
        | nil => simp at hfront
        | cons d tail => exact ⟨d, tail, rfl⟩
      rw [List.cons_append, List.cons.injEq] at htext
      rw [List.map_cons, List.map_cons, List.cons.injEq] at hfront
      exact ⟨front, htext.2, hfront.2⟩
  | case3 l literal c text hsame =>
    constructor
    · exact fun h => nomatch h
    · -- a front that folds to the literal would start with a character that folds as `l` does
      rintro ⟨front, htext, hfront⟩
      cases front with
      | nil => simp at hfront
      | cons d tail =>
        rw [List.cons_append, List.cons.injEq] at htext
        rw [List.map_cons, List.map_cons, List.cons.injEq] at hfront
        exact absurd (by simp [Text.sameFolded, htext.1, hfront.1]) hsame
  | case4 l literal =>
    constructor
    · exact fun h => nomatch h
    · rintro ⟨front, htext, hfront⟩
      rw [List.nil_eq, List.append_eq_nil_iff] at htext
      simp [htext.1] at hfront

/-- Whether a text starts with a character that is not a word character. -/
def startsNonWord : List Char → Bool
  | c :: _ => !Text.isWord c
  | [] => false

/-- Whether a closing holds of the text after the literal. -/
def closes : Closing → List Char → Bool
  | .anything, _ => true
  | .textEnd, rest => rest.isEmpty
  | .hyphen, rest => rest.head? == some '-'
  | .nonWord, rest => startsNonWord rest

/-- Whether the literal and the closing match at the start of a text. -/
def matchesHere (p : Pattern) (text : List Char) : Bool :=
  (dropLiteral p.literal.toList text).any (closes p.closing)

/-- Whether a condition holds of the text from one of its places on, the end included. -/
def anyPlace (condition : List Char → Bool) : List Char → Bool
  | [] => condition []
  | c :: rest => condition (c :: rest) || anyPlace condition rest

/-- Some place is one that parts the text in two. -/
theorem anyPlace_eq_true_iff {condition : List Char → Bool} {text : List Char} :
    anyPlace condition text = true ↔ ∃ front rest, text = front ++ rest ∧ condition rest := by
  induction text with
  | nil =>
    constructor
    · exact fun h => ⟨[], [], rfl, h⟩
    · rintro ⟨front, rest, htext, h⟩
      rw [List.nil_eq, List.append_eq_nil_iff] at htext
      rw [htext.2] at h
      exact h
  | cons c text ih =>
    rw [anyPlace, Bool.or_eq_true, ih]
    constructor
    · rintro (h | ⟨front, rest, rfl, h⟩)
      · exact ⟨[], c :: text, rfl, h⟩
      · exact ⟨c :: front, rest, rfl, h⟩
    · rintro ⟨front, rest, htext, h⟩
      cases front with
      | nil => exact Or.inl (by rw [htext]; exact h)
      | cons d front =>
        rw [List.cons_append, List.cons.injEq] at htext
        exact Or.inr ⟨front, rest, htext.2, h⟩

/-- Whether the pattern occurs somewhere in a text. -/
def occursIn (p : Pattern) (text : List Char) : Bool :=
  match p.opening with
  | .textStart => p.matchesHere text
  | .anywhere => anyPlace p.matchesHere text
  | .nonWord => anyPlace (fun rest => startsNonWord rest && p.matchesHere rest.tail) text

/-- Whether the pattern matches a text: it can be matched, and it occurs there. -/
def isMatch (compiles : String → Bool) (p : Pattern) (text : String) : Bool :=
  p.isCompiled compiles && p.occursIn text.toList

end Pattern

end ForestQuery
