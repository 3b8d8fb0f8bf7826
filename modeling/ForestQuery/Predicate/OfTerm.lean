import ForestQuery.Decimal.Literal
import ForestQuery.Layout
import ForestQuery.Predicate.Basic
import ForestQuery.Term.Wire

/-!
# The predicates of terms

A term with a known operator means a condition on its field. A group means that every one of its
meaningful children holds, and nothing if it has none. `Compilation` is what a list of nodes comes
to: a predicate for every node that means something, and the number of terms that do not.
-/

namespace ForestQuery

/-- The numeric form of a value: the number that its text opens with, infinities drawn in to the
largest finite numbers. A text that opens with no number becomes null, to which nothing compares. -/
def TermValue.numeric (value : TermValue) : Json :=
  match (Decimal.leadingNumber? value.display).bind (·.clamp?) with
  | some x => .number (.float x)
  | none => .null

namespace Layout

/-- The boundary field that a relation leaves alone: the left bound from below, the right bound from
above. -/
def boundaryField (l : Layout) : Relation → String
  | .greater | .greaterOrEqual => l.leftField
  | .less | .lessOrEqual => l.rightField

/-- The bound of a range condition: the value as it is on the relation's boundary field, and its
numeric form on every other field. -/
def bound (l : Layout) (relation : Relation) (field : String) (value : TermValue) : Json :=
  if field = l.boundaryField relation then value.toJson else value.numeric

/-- What an operator asks of a field. -/
def condition (l : Layout) (operator : Operator) (field : String) (value : TermValue) : Condition :=
  match operator with
  | .equal => .equals value.toJson
  | .unequal => .differs value.toJson
  | .range relation => .range relation (l.bound relation field value)
  | .text place => .pattern (place.pattern value.display)

end Layout

namespace Term

/-- Whether the term's operator is known. -/
def isRegistered (term : Term) : Bool := (Operator.ofSymbol? term.operator).isSome

/-- The predicate that a term means; none if its operator is not known. -/
def predicate? (term : Term) (l : Layout) : Option Predicate :=
  (Operator.ofSymbol? term.operator).map fun operator =>
    .field term.field (l.condition operator term.field term.value)

end Term

namespace TermNode

mutual

/-- The predicate that a node means; none if none of its terms means anything. -/
def predicate? (l : Layout) : TermNode → Option Predicate
  | leaf term => term.predicate? l
  | group children =>
    match predicates l children with
    | [] => none
    | ps => some (.all ps)

/-- The predicates of the nodes that mean something, in order. -/
def predicates (l : Layout) : List TermNode → List Predicate
  | [] => []
  | node :: rest =>
    match predicate? l node with
    | some p => p :: predicates l rest
    | none => predicates l rest

end

theorem predicates_eq_filterMap (l : Layout) (nodes : List TermNode) :
    predicates l nodes = nodes.filterMap (predicate? l) := by
  induction nodes with
  | nil => rfl
  | cons node rest ih =>
    rw [predicates, List.filterMap_cons, ih]
    split <;> rename_i h <;> rw [h]

end TermNode

/-- What a list of nodes comes to. -/
structure Compilation where
  /-- A predicate for every node that means something, in order. -/
  predicates : List Predicate
  /-- The number of terms that mean nothing. -/
  dropped : Nat

namespace Compilation

/-- The terms of a node that its predicate says nothing about. -/
def droppedOf (l : Layout) (node : TermNode) : Nat :=
  match node.predicate? l with
  | some p => node.leafCount - p.conditionCount
  | none => node.leafCount

/-- What nodes come to. -/
def ofNodes (l : Layout) (nodes : List TermNode) : Compilation :=
  ⟨nodes.filterMap (·.predicate? l), nodes.foldr (fun node n => droppedOf l node + n) 0⟩

/-- Whether nothing has any meaning. -/
def isEmpty (c : Compilation) : Bool := c.predicates.isEmpty

end Compilation

end ForestQuery
