import ForestQuery.Proofs.Plan.Compilation

/-!
# What compilation keeps and what it drops

No term is lost between nodes and their predicates: the known terms are there, in order and one
condition for each, and the others are counted. The count is made by taking the conditions of a
predicate from the terms of its node, and a predicate never has more of them. Whether a pattern can
be matched here does not matter: a term that looks for a text has a condition like any other.

## Key results

- `TermNode.conditionCount_le_leafCount`: a predicate has no more conditions than its node has terms
- `Compilation.dropped_add_conditionCountOf`: what is dropped and what is kept are all terms
- `Compilation.ofNodes_accountsFor`: what nodes come to accounts for all their terms
-/

namespace ForestQuery

/-- The values that a partial function has, in order, are its values where it has one. -/
theorem map_some_filterMap {α β : Type} (f : α → Option β) (xs : List α) :
    (xs.filterMap f).map some = (xs.filter fun x => (f x).isSome).map f := by
  rw [List.map_filterMap_some_eq_filter_map_isSome, List.filter_map]
  rfl

/-! ### Counting -/

namespace TermNode

/-- A predicate has no more conditions than its node has terms. -/
theorem conditionCount_le_leafCount {l : Layout} {node : TermNode} {p : Predicate}
    (hp : node.predicate? l = some p) : p.conditionCount ≤ node.leafCount := by
  rw [conditionCount_predicate? hp, ← length_leaves]
  exact List.countP_le_length

/-- The conditions of nodes as predicates are those of their known terms. -/
theorem map_field_conditionsOf_predicates (l : Layout) (nodes : List TermNode) :
    ((Predicate.conditionsOf (predicates l nodes)).map fun c => some (.field c.1 c.2)) =
      ((leavesOf nodes).filter (·.isRegistered)).map (·.predicate? l) := by
  have hfields : (fun term : Term => term.predicate? l) =
      fun term => (term.condition? l).map fun c => .field c.1 c.2 := by
    funext term
    exact term.predicate?_eq_map l
  have hregistered : (fun term : Term => (term.predicate? l).isSome) = (·.isRegistered) := by
    funext term
    rw [Term.predicate?_eq_map, Option.isSome_map, Term.isSome_condition?]
  calc ((Predicate.conditionsOf (predicates l nodes)).map fun c => some (.field c.1 c.2))
      = (((leavesOf nodes).filterMap (·.condition? l)).map fun c => .field c.1 c.2).map some := by
        rw [conditionsOf_predicates, List.map_map]
        rfl
    _ = ((leavesOf nodes).filterMap (·.predicate? l)).map some := by
        rw [List.map_filterMap, hfields]
    _ = ((leavesOf nodes).filter (·.isRegistered)).map (·.predicate? l) := by
        rw [map_some_filterMap, hregistered]

end TermNode

namespace Compilation

/-- The predicates of nodes are those of the nodes that mean something, one for each. -/
theorem map_some_predicates (l : Layout) (nodes : List TermNode) :
    (ofNodes l nodes).predicates.map some =
      (nodes.filter (·.isMeaningful)).map (·.predicate? l) := by
  rw [ofNodes, map_some_filterMap]
  simp only [TermNode.isSome_predicate?]

/-- The conditions of nodes are as many as their known terms. -/
theorem conditionCountOf_predicates (l : Layout) (nodes : List TermNode) :
    Predicate.conditionCountOf (ofNodes l nodes).predicates =
      (TermNode.leavesOf nodes).countP (·.isRegistered) := by
  rw [← Predicate.length_conditionsOf, predicates_ofNodes, TermNode.conditionsOf_predicates,
    List.length_filterMap_eq_countP]
  simp only [Term.isSome_condition?]

/-- What is dropped and what is kept are all terms. -/
theorem dropped_add_conditionCountOf (l : Layout) (nodes : List TermNode) :
    (ofNodes l nodes).dropped + Predicate.conditionCountOf (ofNodes l nodes).predicates =
      TermNode.leafCountOf nodes := by
  have hall := List.length_eq_countP_add_countP (·.isRegistered) (l := TermNode.leavesOf nodes)
  simp only [Bool.not_eq_true, Bool.decide_eq_false] at hall
  rw [dropped_ofNodes, conditionCountOf_predicates, ← TermNode.length_leavesOf, hall, Nat.add_comm]

/-- The condition of a term that looks for a text is kept, whatever the text. -/
theorem pattern_mem_conditionsOf {l : Layout} {nodes : List TermNode} {term : Term}
    (hterm : term ∈ TermNode.leavesOf nodes) {place : TextMatch}
    (hplace : Operator.ofSymbol? term.operator = some (.text place)) :
    (term.field, .pattern (place.pattern term.value.display)) ∈
      Predicate.conditionsOf (ofNodes l nodes).predicates := by
  rw [predicates_ofNodes, TermNode.conditionsOf_predicates, List.mem_filterMap]
  refine ⟨term, hterm, ?_⟩
  rw [Term.condition?, hplace]
  rfl

/-- What nodes come to accounts for all their terms. -/
structure AccountsFor (c : Compilation) (l : Layout) (nodes : List TermNode) : Prop where
  /-- The conditions, from left to right, are the predicates of the known terms. -/
  conditions : ((Predicate.conditionsOf c.predicates).map fun e => some (.field e.1 e.2)) =
    ((TermNode.leavesOf nodes).filter (·.isRegistered)).map (·.predicate? l)
  /-- The predicates, in order, are those of the nodes with a known term, one for each. -/
  predicates : c.predicates.map some = (nodes.filter (·.isMeaningful)).map (·.predicate? l)
  /-- The terms that are not known are dropped. -/
  dropped : c.dropped = (TermNode.leavesOf nodes).countP (!·.isRegistered)
  /-- What is dropped and what is kept are all terms. -/
  balance : c.dropped + Predicate.conditionCountOf c.predicates = TermNode.leafCountOf nodes
  /-- No node has fewer terms than its predicate has conditions, which are taken from them. -/
  covered : ∀ node ∈ nodes, ∀ p, node.predicate? l = some p → p.conditionCount ≤ node.leafCount
  /-- A term that looks for a text is kept, whether its pattern can be matched here or not. -/
  texts : ∀ term ∈ TermNode.leavesOf nodes, ∀ place,
    Operator.ofSymbol? term.operator = some (.text place) →
      (term.field, .pattern (place.pattern term.value.display)) ∈
        Predicate.conditionsOf c.predicates

/-- What nodes come to accounts for all their terms, in whatever layout and however they are
nested. -/
theorem ofNodes_accountsFor (l : Layout) (nodes : List TermNode) :
    (ofNodes l nodes).AccountsFor l nodes where
  conditions := by
    rw [predicates_ofNodes]
    exact TermNode.map_field_conditionsOf_predicates l nodes
  predicates := map_some_predicates l nodes
  dropped := dropped_ofNodes l nodes
  balance := dropped_add_conditionCountOf l nodes
  covered _ _ _ hp := TermNode.conditionCount_le_leafCount hp
  texts _ hterm _ hplace := pattern_mem_conditionsOf hterm hplace

/-- A group that loses one of its terms, one that loses all, and a term that looks for a text: two
predicates stay, and two terms are dropped. -/
theorem ofNodes_accountsFor_emptied_group :
    let unknown := TermNode.leaf ⟨"x", "??", .text "y"⟩
    let nodes := [.group [.leaf ⟨"a", "=", .text "b"⟩, unknown],
      .group [.group [], .group [unknown]], .leaf ⟨"name", "*=", .text "k"⟩]
    ("name", .pattern (TextMatch.contains.pattern "k")) ∈
      Predicate.conditionsOf (ofNodes {} nodes).predicates ∧
    (ofNodes {} nodes).predicates.length = 2 ∧ (ofNodes {} nodes).dropped = 2 := by
  intro unknown nodes
  have haccounts := ofNodes_accountsFor {} nodes
  have hterm : ⟨"name", "*=", .text "k"⟩ ∈ TermNode.leavesOf nodes :=
    List.mem_append_right _ (List.mem_append_right _ (List.mem_singleton_self _))
  exact ⟨haccounts.texts _ hterm .contains rfl, rfl, haccounts.dropped.trans rfl⟩

end Compilation

end ForestQuery
