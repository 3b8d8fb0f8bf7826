import ForestQuery.Pattern

/-!
# Operators

The operators that a term may use, with their symbols. `Operator.ofSymbol?_symbol` says that each is
found by its symbol, so that no two share one (`Operator.symbol_inj`).
-/

namespace ForestQuery

/-- How a stored value must stand to a bound. -/
inductive Relation
  /-- Above it. -/
  | greater
  /-- Not below it. -/
  | greaterOrEqual
  /-- Below it. -/
  | less
  /-- Not above it. -/
  | lessOrEqual
deriving DecidableEq

/-- Whether a stored value that compares so to the bound stands in the relation. -/
def Relation.admits : Relation → Ordering → Bool
  | greater, o => o == .gt
  | greaterOrEqual, o => o != .lt
  | less, o => o == .lt
  | lessOrEqual, o => o != .gt

/-- Where in a text the value of a term must occur. -/
inductive TextMatch
  /-- At the start. -/
  | startsWith
  /-- At the end. -/
  | endsWith
  /-- Between two characters that are not word characters. -/
  | word
  /-- At the start, before a hyphen. -/
  | hyphenPrefix
  /-- Anywhere. -/
  | contains
deriving DecidableEq

/-- The pattern that finds a text in a place. -/
def TextMatch.pattern (m : TextMatch) (literal : String) : Pattern :=
  match m with
  | startsWith => ⟨.textStart, literal, .anything⟩
  | endsWith => ⟨.anywhere, literal, .textEnd⟩
  | word => ⟨.nonWord, literal, .nonWord⟩
  | hyphenPrefix => ⟨.textStart, literal, .hyphen⟩
  | contains => ⟨.anywhere, literal, .anything⟩

/-- An operator of a term. -/
inductive Operator
  /-- The field equals the value. -/
  | equal
  /-- The field does not equal the value. -/
  | unequal
  /-- The field stands in a relation to the value. -/
  | range (relation : Relation)
  /-- The field is a text in which the value occurs. -/
  | text (place : TextMatch)
deriving DecidableEq

namespace Operator

/-- All operators. -/
def all : List Operator :=
  [equal, unequal, range .greater, range .greaterOrEqual, range .less, range .lessOrEqual,
    text .startsWith, text .endsWith, text .word, text .hyphenPrefix, text .contains]

/-- The symbol of an operator. -/
def symbol : Operator → String
  | equal => "="
  | unequal => "!="
  | range .greater => ">"
  | range .greaterOrEqual => ">="
  | range .less => "<"
  | range .lessOrEqual => "<="
  | text .startsWith => "^="
  | text .endsWith => "$="
  | text .word => "~="
  | text .hyphenPrefix => "|="
  | text .contains => "*="

/-- The operator with a symbol. -/
def ofSymbol? (symbol : String) : Option Operator := all.find? (·.symbol == symbol)

/-- Whether an operator looks for its value in a text. -/
def isText : Operator → Bool
  | text _ => true
  | _ => false

/-- An operator is found by its symbol. -/
theorem ofSymbol?_symbol (op : Operator) : ofSymbol? op.symbol = some op := by
  rcases op with _ | _ | r | m
  · rfl
  · rfl
  · cases r <;> rfl
  · cases m <;> rfl

/-- No two operators share a symbol. -/
theorem symbol_inj {op op' : Operator} : op.symbol = op'.symbol ↔ op = op' := by
  constructor
  · intro hsymbol
    have hfound := ofSymbol?_symbol op
    rw [hsymbol, ofSymbol?_symbol] at hfound
    exact (Option.some.inj hfound).symm
  · intro hop
    rw [hop]

end Operator

end ForestQuery
