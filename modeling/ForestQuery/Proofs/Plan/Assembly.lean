import ForestQuery.Plan
import ForestQuery.Proofs.Plan.Compilation

/-!
# What an assembled query says

The filter of a plan is the conjunction of the search predicates and, if any skeleton term is known,
of one group of alternatives for the skeleton nodes. This file says what it asks of a document in
terms of the query alone.

## Key results

- `isMatch_conjunction`: a lone predicate stands for its conjunction
- `anyMatch_predicates`: the skeleton group holds exactly if some meaningful node holds
- `assemble_means`: when there is a plan, what its filter asks, and what was dropped
-/

namespace ForestQuery

variable (compiles : String → Bool)

/-- A conjunction holds if all its predicates do, also when a single one stands for itself. -/
theorem Predicate.isMatch_conjunction (document : Json) (ps : List Predicate) :
    (conjunction ps).isMatch compiles document = allMatch compiles document ps := by
  unfold conjunction
  split
  · next p => rw [allMatch, allMatch, Bool.and_true]
  · rw [isMatch]

/-- Some predicate of the nodes holds exactly if a node with a known term holds. -/
theorem TermNode.anyMatch_predicates (l : Layout) (document : Json) (nodes : List TermNode) :
    Predicate.anyMatch compiles document (predicates l nodes) = true ↔
      ∃ node ∈ nodes, (∃ term ∈ node.leaves, term.isRegistered = true) ∧
        ∀ term ∈ node.leaves, term.Holds compiles l document := by
  -- a node has a predicate exactly if it has a known term
  have hmeans (node : TermNode) :
      (∃ term ∈ node.leaves, term.isRegistered = true) ↔ ∃ p, node.predicate? l = some p := by
    rw [← Option.ne_none_iff_exists', ne_eq, predicate?_eq_none_iff]
    simp
  simp only [Predicate.anyMatch_eq_any, List.any_eq_true, predicates_eq_filterMap,
    List.mem_filterMap, hmeans]
  constructor
  · intro hsome
    obtain ⟨p, ⟨node, hnode, hp⟩, hmatch⟩ := hsome
    exact ⟨node, hnode, ⟨p, hp⟩, (isMatch_predicate? hp).1 hmatch⟩
  · intro hsome
    obtain ⟨node, hnode, ⟨p, hp⟩, hholds⟩ := hsome
    exact ⟨p, ⟨node, hnode, hp⟩, (isMatch_predicate? hp).2 hholds⟩

namespace Query

/-- What the predicates of a plan ask together. -/
theorem allMatch_planPredicates (l : Layout) (document : Json) (search skeleton : List TermNode) :
    Predicate.allMatch compiles document
        (planPredicates (.ofNodes l search) (.ofNodes l skeleton)) = true ↔
      (∀ term ∈ TermNode.leavesOf search, term.Holds compiles l document) ∧
      ((∀ term ∈ TermNode.leavesOf skeleton, term.isRegistered = false) ∨
        ∃ node ∈ skeleton, (∃ term ∈ node.leaves, term.isRegistered = true) ∧
          ∀ term ∈ node.leaves, term.Holds compiles l document) := by
  rw [← TermNode.allMatch_predicates, ← TermNode.anyMatch_predicates,
    ← Compilation.isEmpty_ofNodes l skeleton, planPredicates]
  split
  · next hempty =>
    -- no skeleton term is known: the search predicates stand alone
    simp [hempty, Compilation.predicates_ofNodes]
  · next hempty =>
    simp [hempty, Compilation.predicates_ofNodes, Predicate.allMatch_eq_all, Predicate.isMatch]

/-- The plan of a query, if any search node means something. -/
theorem assemble_eq (l : Layout) (q : Query) :
    (q.assemble l).plan? =
      if (Compilation.ofNodes l q.terms.search).isEmpty then none
      else some {
        filter := .conjunction (planPredicates (.ofNodes l q.terms.search)
          (.ofNodes l q.terms.skeleton))
        projection := if q.modifier.laststep then .full else .skeleton l.skeletonKey
        limit := q.modifier.effectiveLimit
        includeChildren := q.modifier.includesChildren } := by
  rw [assemble]
  split <;> rfl

/-- There is no plan exactly if no search term is known. -/
theorem plan?_assemble_eq_none_iff (l : Layout) (q : Query) :
    (q.assemble l).plan? = none ↔
      ∀ term ∈ TermNode.leavesOf q.terms.search, term.isRegistered = false := by
  rw [← Compilation.isEmpty_ofNodes l, assemble_eq]
  split <;> simp [*]

/-- The terms that are not known are dropped, whether there is a plan or not. -/
theorem dropped_assemble (l : Layout) (q : Query) :
    (q.assemble l).dropped =
      (TermNode.leavesOf q.terms.search ++ TermNode.leavesOf q.terms.skeleton).countP
        (!·.isRegistered) := by
  rw [List.countP_append, ← Compilation.dropped_ofNodes l, ← Compilation.dropped_ofNodes l,
    assemble]
  split <;> rfl

/-- A query has no plan exactly if no search term is known. Otherwise its filter asks that every
known search term holds and, if any skeleton term is known, that all known terms of some meaningful
skeleton node do. The terms that are not known are counted. -/
theorem assemble_means (l : Layout) (q : Query) :
    ((q.assemble l).plan? = none ↔
      ∀ term ∈ TermNode.leavesOf q.terms.search, term.isRegistered = false) ∧
    (∀ plan, (q.assemble l).plan? = some plan → ∀ document,
      (plan.filter.isMatch compiles document = true ↔
        (∀ term ∈ TermNode.leavesOf q.terms.search, term.Holds compiles l document) ∧
        ((∀ term ∈ TermNode.leavesOf q.terms.skeleton, term.isRegistered = false) ∨
          ∃ node ∈ q.terms.skeleton, (∃ term ∈ node.leaves, term.isRegistered = true) ∧
            ∀ term ∈ node.leaves, term.Holds compiles l document))) ∧
    (q.assemble l).dropped =
      (TermNode.leavesOf q.terms.search ++ TermNode.leavesOf q.terms.skeleton).countP
        (!·.isRegistered) := by
  refine ⟨?_, fun plan hplan document => ?_, dropped_assemble l q⟩
  · rw [← Compilation.isEmpty_ofNodes l, assemble_eq]
    split <;> simp [*]
  · rw [assemble_eq] at hplan
    split at hplan
    · exact nomatch hplan
    · obtain rfl := Option.some.inj hplan
      rw [Predicate.isMatch_conjunction, allMatch_planPredicates]

/-- A query with groups of every kind: one with a known and an unknown term, an empty one, and a
skeleton node that means nothing beside one that does. -/
theorem assemble_means_mixed_groups :
    let unknown := TermNode.leaf ⟨"x", "??", .text "y"⟩
    let q : Query := {
      terms := {
        search := [.group [.leaf ⟨"tag", "=", .text "folder"⟩, unknown], .group []]
        skeleton := [.group [unknown], .group [.leaf ⟨"a.b", "!=", .text "c"⟩]] } }
    let document := Json.object [("tag", .string "folder")]
    let compiles (_ : String) : Bool := true
    ∃ plan, (q.assemble {}).plan? = some plan ∧ plan.filter.isMatch compiles document = true ∧
      (q.assemble {}).dropped = 2 := by
  intro unknown q document compiles
  obtain ⟨-, hmatch, hdropped⟩ := assemble_means compiles {} q
  refine ⟨_, rfl, (hmatch _ rfl document).2 ⟨?_, .inr ⟨_, .tail _ (.head _), ?_⟩⟩,
    hdropped.trans rfl⟩
  · intro term hterm p hp
    have hterms : TermNode.leavesOf q.terms.search =
      [⟨"tag", "=", .text "folder"⟩, ⟨"x", "??", .text "y"⟩] := rfl
    rw [hterms] at hterm
    rcases List.mem_cons.1 hterm with rfl | hterm
    · obtain rfl := Option.some.inj hp
      decide
    · obtain rfl := List.mem_singleton.1 hterm
      exact nomatch hp
  · refine ⟨⟨_, .head _, rfl⟩, fun term hterm p hp => ?_⟩
    obtain rfl := List.mem_singleton.1 hterm
    obtain rfl := Option.some.inj hp
    decide

end Query

end ForestQuery
