import ForestQuery.Json.Basic
import ForestQuery.Operator

/-!
# Predicates

A predicate is a condition on one field, or a group of predicates of which every one or any one must
hold. `Predicate.toDocument` writes it in the query language of document stores, and
`Predicate.length_conditions` says that its conditions are as many as are counted.
-/

namespace ForestQuery

/-- What is asked of one field. -/
inductive Condition
  /-- The field equals a value. -/
  | equals (value : Json)
  /-- The field does not equal a value. -/
  | differs (value : Json)
  /-- The field stands in a relation to a bound. -/
  | range (relation : Relation) (bound : Json)
  /-- The field is a text that a pattern matches. -/
  | pattern (pattern : Pattern)

/-- The name of a relation in the query language. -/
def Relation.operatorName : Relation → String
  | greater => "$gt"
  | greaterOrEqual => "$gte"
  | less => "$lt"
  | lessOrEqual => "$lte"

namespace Condition

/-- The name of the condition in the query language; equality has none. -/
def operatorName? : Condition → Option String
  | equals _ => none
  | differs _ => some "$ne"
  | range relation _ => some relation.operatorName
  | pattern _ => some "$regex"

/-- The condition in the query language. -/
def toDocument : Condition → Json
  | equals value => value
  | differs value => .object [("$ne", value)]
  | range relation bound => .object [(relation.operatorName, bound)]
  | pattern p => .object [("$options", .string "i"), ("$regex", .string p.source)]

/-- Equality of conditions: values as values, and patterns by their sources. -/
def same : Condition → Condition → Bool
  | equals a, equals b => a.same b
  | differs a, differs b => a.same b
  | range r a, range s b => r == s && a.same b
  | pattern p, pattern q => p.same q
  | _, _ => false

end Condition

/-- A condition on a document. -/
inductive Predicate
  /-- A condition on the field at a path. -/
  | field (path : String) (condition : Condition)
  /-- Every child must hold. -/
  | all (children : List Predicate)
  /-- At least one child must hold. -/
  | any (children : List Predicate)

namespace Predicate

mutual

/-- The predicate in the query language. -/
def toDocument : Predicate → Json
  | field path condition => .object [(path, condition.toDocument)]
  | all children => .object [("$and", .array (toDocuments children))]
  | any children => .object [("$or", .array (toDocuments children))]

/-- Predicates in the query language. -/
def toDocuments : List Predicate → List Json
  | [] => []
  | p :: rest => p.toDocument :: toDocuments rest

end

mutual

/-- The conditions on single fields, from left to right. -/
def conditions : Predicate → List (String × Condition)
  | field path condition => [(path, condition)]
  | all children => conditionsOf children
  | any children => conditionsOf children

/-- The conditions of several predicates, from left to right. -/
def conditionsOf : List Predicate → List (String × Condition)
  | [] => []
  | p :: rest => p.conditions ++ conditionsOf rest

end

mutual

/-- The number of conditions on single fields. -/
def conditionCount : Predicate → Nat
  | field _ _ => 1
  | all children => conditionCountOf children
  | any children => conditionCountOf children

/-- The number of conditions of several predicates. -/
def conditionCountOf : List Predicate → Nat
  | [] => 0
  | p :: rest => p.conditionCount + conditionCountOf rest

end

mutual

/-- A predicate has as many conditions as are counted. -/
theorem length_conditions : (p : Predicate) → p.conditions.length = p.conditionCount
  | field _ _ => rfl
  | all children => length_conditionsOf children
  | any children => length_conditionsOf children

/-- Predicates have as many conditions as are counted. -/
theorem length_conditionsOf : (ps : List Predicate) →
    (conditionsOf ps).length = conditionCountOf ps
  | [] => rfl
  | p :: rest => by
    rw [conditionsOf, conditionCountOf, List.length_append, length_conditions p,
      length_conditionsOf rest]

end

mutual

/-- Equality of predicates: values as values, and patterns by their sources. -/
def same : Predicate → Predicate → Bool
  | field path a, field path' b => path == path' && a.same b
  | all as, all bs => sameAll as bs
  | any as, any bs => sameAll as bs
  | _, _ => false

/-- Predicate by predicate equality. -/
def sameAll : List Predicate → List Predicate → Bool
  | [], [] => true
  | a :: as, b :: bs => a.same b && sameAll as bs
  | _, _ => false

end

end Predicate

end ForestQuery
