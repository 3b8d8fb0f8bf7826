import ForestQuery.Predicate.Matching
import ForestQuery.Predicate.OfTerm
import Mathlib.Data.List.Basic

/-!
# What compiled terms say

A node compiles to a predicate whose conditions are those of its known terms, from left to right,
and to nothing if it has none. Groups only ever ask that all their children hold, so the predicate
of a node holds of a document exactly if every known term in it does, at whatever depth.

## Key results

- `conditions_predicate?`: compilation keeps the condition of every known term, in order
- `predicate?_eq_none_iff`: a node means nothing exactly if none of its terms is known
- `isMatch_predicate?`: the predicate of a node holds exactly if all its known terms do
- `dropped_ofNodes`: the dropped terms are those that are not known
-/

namespace ForestQuery

namespace Term

/-- The condition on one field that a term means; none if its operator is not known. -/
def condition? (term : Term) (l : Layout) : Option (String × Condition) :=
  (Operator.ofSymbol? term.operator).map fun operator =>
    (term.field, l.condition operator term.field term.value)

/-- What a term asks of a document: its predicate must hold. A term whose operator is not known asks
nothing. -/
def Holds (compiles : String → Bool) (l : Layout) (document : Json) (term : Term) : Prop :=
  ∀ p, term.predicate? l = some p → p.isMatch compiles document = true

theorem predicate?_eq_map (term : Term) (l : Layout) :
    term.predicate? l = (term.condition? l).map fun c => .field c.1 c.2 := by
  rw [predicate?, condition?, Option.map_map]
  rfl

theorem isSome_condition? (term : Term) (l : Layout) :
    (term.condition? l).isSome = term.isRegistered := by
  rw [condition?, Option.isSome_map, isRegistered]

theorem predicate?_eq_none_iff {term : Term} {l : Layout} :
    term.predicate? l = none ↔ term.isRegistered = false := by
  rw [predicate?, Option.map_eq_none_iff, isRegistered, Option.isSome_eq_false_iff,
    Option.isNone_iff_eq_none]

end Term

namespace TermNode

/-- The terms of nodes are those of each of them. -/
theorem mem_leavesOf {nodes : List TermNode} {term : Term} :
    term ∈ leavesOf nodes ↔ ∃ node ∈ nodes, term ∈ node.leaves := by
  induction nodes with
  | nil => simp [leavesOf]
  | cons node rest ih => simp [leavesOf, ih]

/-! ### Conditions -/

mutual

/-- The conditions of a node are those of its known terms, from left to right. -/
theorem conditions_predicate? (l : Layout) : (node : TermNode) →
    (node.predicate? l).elim [] Predicate.conditions = node.leaves.filterMap (·.condition? l)
  | leaf term => by
    rw [predicate?, leaves, Term.predicate?_eq_map]
    cases h : term.condition? l with
    | none => simp [h]
    | some c => simp [h, Predicate.conditions]
  | group children => by
    rw [leaves, ← conditionsOf_predicates l children, predicate?]
    split
    · next h =>
      -- a group without meaningful children has no known terms
      rw [h]
      rfl
    · next ps h => rfl

/-- The conditions of nodes are those of their known terms, from left to right. -/
theorem conditionsOf_predicates (l : Layout) : (nodes : List TermNode) →
    Predicate.conditionsOf (predicates l nodes) = (leavesOf nodes).filterMap (·.condition? l)
  | [] => rfl
  | node :: rest => by
    rw [leavesOf, List.filterMap_append, ← conditions_predicate? l node,
      ← conditionsOf_predicates l rest, predicates]
    split
    · next p h =>
      rw [h]
      rfl
    · next h =>
      rw [h]
      rfl

end

/-! ### Nodes without a meaning -/

mutual

/-- A node means nothing exactly if none of its terms is known. -/
theorem predicate?_eq_none_iff (l : Layout) : (node : TermNode) →
    (node.predicate? l = none ↔ ∀ term ∈ node.leaves, term.isRegistered = false)
  | leaf term => by
    rw [predicate?, leaves, List.forall_mem_singleton, Term.predicate?_eq_none_iff]
  | group children => by
    rw [leaves, ← predicates_eq_nil_iff l children, predicate?]
    split
    · next h => simp [h]
    · next h => simpa using h

/-- Nodes mean nothing exactly if none of their terms is known. -/
theorem predicates_eq_nil_iff (l : Layout) : (nodes : List TermNode) →
    (predicates l nodes = [] ↔ ∀ term ∈ leavesOf nodes, term.isRegistered = false)
  | [] => by simp [predicates, leavesOf]
  | node :: rest => by
    rw [leavesOf, List.forall_mem_append, ← predicate?_eq_none_iff l node,
      ← predicates_eq_nil_iff l rest, predicates]
    split
    · next p h => simp [h]
    · next h => simp [h]

end

/-- Whether a node means something: one of its terms, at whatever depth, is known. -/
def isMeaningful (node : TermNode) : Bool := node.leaves.any (·.isRegistered)

/-- A node has a predicate exactly if it means something. -/
theorem isSome_predicate? (l : Layout) (node : TermNode) :
    (node.predicate? l).isSome = node.isMeaningful := by
  rw [Bool.eq_iff_iff, Option.isSome_iff_ne_none, ne_eq, predicate?_eq_none_iff, isMeaningful,
    List.any_eq_true]
  simp

/-! ### Matching -/

section

variable {compiles : String → Bool} {l : Layout} {document : Json}

mutual

/-- The predicate of a node holds of a document exactly if every known term in it does. -/
theorem isMatch_predicate? : {node : TermNode} → {p : Predicate} → node.predicate? l = some p →
    (p.isMatch compiles document = true ↔ ∀ term ∈ node.leaves, term.Holds compiles l document)
  | leaf term, p, h => by
    rw [predicate?] at h
    simp [leaves, Term.Holds, h]
  | group children, p, h => by
    rw [leaves, ← allMatch_predicates]
    rw [predicate?] at h
    split at h
    · exact nomatch h
    · obtain rfl := Option.some.inj h
      rw [Predicate.isMatch]

/-- The predicates of nodes all hold of a document exactly if every known term in them does. -/
theorem allMatch_predicates : {nodes : List TermNode} →
    (Predicate.allMatch compiles document (predicates l nodes) = true ↔
      ∀ term ∈ leavesOf nodes, term.Holds compiles l document)
  | [] => by simp [predicates, leavesOf, Predicate.allMatch]
  | node :: rest => by
    rw [leavesOf, List.forall_mem_append, ← allMatch_predicates, predicates]
    split
    · next p h =>
      rw [Predicate.allMatch, Bool.and_eq_true, isMatch_predicate? h]
    · next h =>
      -- a node without a meaning asks nothing
      have hnone := (predicate?_eq_none_iff l node).1 h
      rw [iff_and_self]
      intro _ term hterm p hp
      rw [Term.predicate?_eq_none_iff.2 (hnone term hterm)] at hp
      exact nomatch hp

end

end

/-! ### Dropped terms -/

/-- A node's predicate has as many conditions as the node has known terms. -/
theorem conditionCount_predicate? {l : Layout} {node : TermNode} {p : Predicate}
    (h : node.predicate? l = some p) :
    p.conditionCount = node.leaves.countP (·.isRegistered) := by
  have hconditions := conditions_predicate? l node
  rw [h, Option.elim_some] at hconditions
  rw [← Predicate.length_conditions, hconditions, List.length_filterMap_eq_countP]
  simp only [Term.isSome_condition?]

end TermNode

namespace Compilation

/-- The dropped terms of a node are those that are not known. -/
theorem droppedOf_eq (l : Layout) (node : TermNode) :
    droppedOf l node = node.leaves.countP (!·.isRegistered) := by
  -- the terms are those that are known and those that are not
  have hsum := List.length_eq_countP_add_countP (·.isRegistered) (l := node.leaves)
  rw [TermNode.length_leaves] at hsum
  simp only [Bool.not_eq_true, Bool.decide_eq_false] at hsum
  rw [droppedOf]
  split
  · next p h =>
    rw [TermNode.conditionCount_predicate? h]
    omega
  · next h =>
    -- without a predicate all terms are dropped, and none of them is known
    have hnone := (TermNode.predicate?_eq_none_iff l node).1 h
    have hzero : node.leaves.countP (·.isRegistered) = 0 := by
      rw [List.countP_eq_zero]
      intro term hterm
      simp [hnone term hterm]
    omega

/-- The dropped terms of nodes are those that are not known. -/
theorem dropped_ofNodes (l : Layout) (nodes : List TermNode) :
    (ofNodes l nodes).dropped = (TermNode.leavesOf nodes).countP (!·.isRegistered) := by
  induction nodes with
  | nil => rfl
  | cons node rest ih =>
    rw [TermNode.leavesOf, List.countP_append, ← ih, ← droppedOf_eq]
    rfl

theorem predicates_ofNodes (l : Layout) (nodes : List TermNode) :
    (ofNodes l nodes).predicates = TermNode.predicates l nodes :=
  (TermNode.predicates_eq_filterMap l nodes).symm

/-- Nodes come to nothing exactly if none of their terms is known. -/
theorem isEmpty_ofNodes (l : Layout) (nodes : List TermNode) :
    (ofNodes l nodes).isEmpty = true ↔
      ∀ term ∈ TermNode.leavesOf nodes, term.isRegistered = false := by
  rw [isEmpty, List.isEmpty_iff, predicates_ofNodes, TermNode.predicates_eq_nil_iff]

end Compilation

end ForestQuery
