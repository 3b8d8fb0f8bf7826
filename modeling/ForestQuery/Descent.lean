import ForestQuery.Predicate.OfTerm
import ForestQuery.Skeleton

/-!
# Looking for descendants

A descent says how the descendants of records are looked for: it makes terms from their skeletons,
each of which selects the descendants of some of them. Intervals are the usual way. The filter of a
descent is the predicate for all its terms together, of which any one must hold.
-/

namespace ForestQuery

/-- Makes, from what is set before every path and from skeletons, the terms that select their
descendants. -/
abbrev Descent := String → List Skeleton → List TermNode

namespace Descent

/-- The terms of one interval: the left bound above its left, and the right bound below its
right. -/
def intervalNode (l : Layout) (before : String) (s : Skeleton) : TermNode :=
  .group [
    .leaf ⟨before ++ l.leftField, ">", .ofBinary64 s.left⟩,
    .leaf ⟨before ++ l.rightField, "<", .ofBinary64 s.right⟩]

/-- Looks for descendants by their intervals: those inside the interval of some skeleton, empty
intervals left out. -/
def intervals (l : Layout) : Descent := fun before skeletons =>
  (skeletons.filter (·.isWellFormed)).map (intervalNode l before)

/-- Looks for children only, by the parent's id. -/
def parentIds (l : Layout) : Descent := fun before skeletons =>
  skeletons.map fun s => .leaf ⟨before ++ l.parentField, "=", .text s.id⟩

/-- Looks for the same terms whatever the skeletons. -/
def constant (nodes : List TermNode) : Descent := fun _ _ => nodes

/-- The predicate of a list of descent predicates: none if there is none, a group of which every one
must hold for a single one, and of which any one must hold for several. -/
def filterOf : List Predicate → Option Predicate
  | [] => none
  | [p] => some (.all [p])
  | ps => some (.any ps)

theorem filterOf_eq_none_iff {ps : List Predicate} : filterOf ps = none ↔ ps = [] := by
  unfold filterOf
  split <;> simp_all

/-- The filter for the descendants of records; none if there are no descendants to look for. -/
def filter? (descent : Descent) (l : Layout) (records : List Record) : Option Predicate :=
  let nodes := descent l.treePrefix (records.map (·.skeleton))
  filterOf (Compilation.ofNodes l nodes).predicates

end Descent

end ForestQuery
