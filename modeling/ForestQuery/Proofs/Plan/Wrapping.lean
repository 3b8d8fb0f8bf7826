import ForestQuery.Proofs.Plan.Accounting
import ForestQuery.Proofs.Plan.Assembly

/-!
# Conjunctions of a single predicate

A plan joins its predicates by a conjunction only if there are several, so that no conjunction of
one is put around them. But a search node may come to such a conjunction by itself: a group of which
a single child means something does. If that group is all that a query asks for, its conjunction is
the filter of the plan. The main statement says that this happens in no other case.

## Key results

- `TermNode.predicate?_eq_some_all_iff`: only groups come to conjunctions
- `Query.filter_eq_all_singleton_iff`: where the conjunction of one in a filter comes from
- `Query.wrapsOne_iff`: which queries have a conjunction of one as their filter
-/

namespace ForestQuery

namespace Predicate

/-- Joined predicates are a conjunction of one only if a single one is given that is so itself. -/
theorem conjunction_eq_all_singleton_iff {ps : List Predicate} {child : Predicate} :
    conjunction ps = .all [child] ↔ ps = [.all [child]] := by
  match ps with
  | [] => simp [conjunction]
  | [p] => simp [conjunction]
  | p :: q :: rest => simp [conjunction]

end Predicate

namespace TermNode

/-- Only a group comes to a conjunction: to that of what its children come to. -/
theorem predicate?_eq_some_all_iff {l : Layout} {node : TermNode} {ps : List Predicate} :
    node.predicate? l = some (.all ps) ↔
      ∃ children, node = .group children ∧ predicates l children = ps ∧ ps ≠ [] := by
  constructor
  · intro hnode
    cases node with
    | leaf term =>
      rw [predicate?, Term.predicate?_eq_map] at hnode
      obtain ⟨c, -, hfield⟩ := Option.map_eq_some_iff.1 hnode
      cases hfield
    | group children =>
      rw [predicate?] at hnode
      split at hnode
      · cases hnode
      · next hne =>
        obtain rfl := Predicate.all.inj (Option.some.inj hnode)
        exact ⟨children, rfl, rfl, hne⟩
  · intro hgroup
    obtain ⟨children, rfl, rfl, hne⟩ := hgroup
    rw [predicate?]
    split
    · next hnil => exact absurd hnil hne
    · rfl

/-- Nodes come to a single predicate exactly if a single one of them means something. -/
theorem predicates_eq_singleton_iff {l : Layout} {nodes : List TermNode} {p : Predicate} :
    predicates l nodes = [p] ↔
      ∃ node, nodes.filter (·.isMeaningful) = [node] ∧ node.predicate? l = some p := by
  have hmap := Compilation.map_some_predicates l nodes
  rw [Compilation.predicates_ofNodes] at hmap
  constructor
  · intro hone
    rw [hone, List.map_singleton] at hmap
    obtain ⟨node, hnode, hp⟩ := List.map_eq_singleton_iff.1 hmap.symm
    exact ⟨node, hnode, hp⟩
  · intro hone
    obtain ⟨node, hnode, hp⟩ := hone
    rw [hnode, List.map_singleton, hp] at hmap
    obtain ⟨q, hq, hqp⟩ := List.map_eq_singleton_iff.1 hmap
    rw [hq, Option.some.inj hqp]

end TermNode

namespace Query

/-- The predicates of a plan are a single conjunction only if the search nodes come to it and no
skeleton term is known. -/
theorem planPredicates_eq_singleton_iff {search skeleton : Compilation}
    {children : List Predicate} :
    planPredicates search skeleton = [.all children] ↔
      skeleton.isEmpty = true ∧ search.predicates = [.all children] := by
  rw [planPredicates]
  split
  · next hempty => simp [hempty]
  · next hsome =>
    -- the alternatives stand last, and they are no conjunction
    have hlast : search.predicates ++ [.any skeleton.predicates] ≠ [.all children] := by
      intro heq
      have hend := congrArg List.getLast? heq
      simp at hend
    simp [hsome, hlast]

/-- The filter of a plan is a conjunction of one exactly if no skeleton term is known, a single
search node means something, and that is a group of which a single child does. -/
theorem filter_eq_all_singleton_iff {l : Layout} {q : Query} {plan : Plan}
    (hplan : (q.assemble l).plan? = some plan) {p : Predicate} :
    plan.filter = .all [p] ↔
      (∀ term ∈ TermNode.leavesOf q.terms.skeleton, term.isRegistered = false) ∧
      ∃ children child, q.terms.search.filter (·.isMeaningful) = [.group children] ∧
        children.filter (·.isMeaningful) = [child] ∧ child.predicate? l = some p := by
  rw [assemble_eq] at hplan
  split at hplan
  · cases hplan
  obtain rfl := Option.some.inj hplan
  rw [Predicate.conjunction_eq_all_singleton_iff, planPredicates_eq_singleton_iff,
    Compilation.isEmpty_ofNodes, Compilation.predicates_ofNodes,
    TermNode.predicates_eq_singleton_iff]
  refine and_congr_right fun _ => ?_
  constructor
  · intro hsearch
    obtain ⟨node, hnode, hall⟩ := hsearch
    obtain ⟨children, rfl, hchildren, -⟩ := TermNode.predicate?_eq_some_all_iff.1 hall
    obtain ⟨child, hchild, hp⟩ := TermNode.predicates_eq_singleton_iff.1 hchildren
    exact ⟨children, child, hnode, hchild, hp⟩
  · intro hsearch
    obtain ⟨children, child, hnode, hchild, hp⟩ := hsearch
    have hchildren := TermNode.predicates_eq_singleton_iff.2 ⟨child, hchild, hp⟩
    have hall := TermNode.predicate?_eq_some_all_iff.2 ⟨children, rfl, hchildren, by simp⟩
    exact ⟨.group children, hnode, hall⟩

/-- A query has a plan if one of its search nodes means something. -/
theorem exists_plan_of_isMeaningful (l : Layout) {q : Query} {node : TermNode}
    (hnode : node ∈ q.terms.search) (hmeans : node.isMeaningful = true) :
    ∃ plan, (q.assemble l).plan? = some plan := by
  rw [← Option.ne_none_iff_exists']
  intro hnone
  obtain ⟨term, hterm, hknown⟩ := List.any_eq_true.1 hmeans
  have hleaf := TermNode.mem_leavesOf.2 ⟨node, hnode, hterm⟩
  have hunknown := (plan?_assemble_eq_none_iff l q).1 hnone term hleaf
  rw [hknown] at hunknown
  cases hunknown

/-- Whether the filter of the query's plan is a conjunction of a single predicate. -/
def WrapsOne (q : Query) (l : Layout) : Prop :=
  ∃ plan p, (q.assemble l).plan? = some plan ∧ plan.filter = .all [p]

/-- The filter of a query's plan is a conjunction of a single predicate exactly if none of its
skeleton terms is known and a single one of its search nodes means something, which is a group of
which a single child means something. How deep the terms of that child lie, and how many others are
dropped, does not matter. -/
theorem wrapsOne_iff (l : Layout) (q : Query) :
    q.WrapsOne l ↔
      (∀ term ∈ TermNode.leavesOf q.terms.skeleton, term.isRegistered = false) ∧
      ∃ children child, q.terms.search.filter (·.isMeaningful) = [.group children] ∧
        children.filter (·.isMeaningful) = [child] := by
  constructor
  · intro hwraps
    obtain ⟨plan, p, hplan, hfilter⟩ := hwraps
    obtain ⟨hskeleton, children, child, hsearch, hchild, -⟩ :=
      (filter_eq_all_singleton_iff hplan).1 hfilter
    exact ⟨hskeleton, children, child, hsearch, hchild⟩
  · intro hquery
    obtain ⟨hskeleton, children, child, hsearch, hchild⟩ := hquery
    have hnode := List.mem_filter.1 (hsearch ▸ List.mem_singleton_self (TermNode.group children))
    have hmeans := (List.mem_filter.1 (hchild ▸ List.mem_singleton_self child)).2
    obtain ⟨plan, hplan⟩ := exists_plan_of_isMeaningful l hnode.1 hnode.2
    obtain ⟨p, hp⟩ := Option.isSome_iff_exists.1 ((child.isSome_predicate? l).trans hmeans)
    have hfilter := (filter_eq_all_singleton_iff hplan).2
      ⟨hskeleton, children, child, hsearch, hchild, hp⟩
    exact ⟨plan, p, hplan, hfilter⟩

/-- A query that asks for one term inside a group: the plan wraps it. -/
theorem wrapsOne_single_group :
    let term : Term := ⟨"tag", "=", .text "folder"⟩
    let q : Query := { terms := { search := [.group [.leaf term]] } }
    ¬ ∀ plan, (q.assemble {}).plan? = some plan → ∀ p, plan.filter ≠ .all [p] := by
  intro term q hnever
  exact hnever _ rfl _ rfl

end Query

end ForestQuery
