import ForestQuery.Proofs.Linking.Reach
import Mathlib.Data.List.Nodup
import Mathlib.Data.List.Sigma

/-!
# Where linking places descendants

A tree of documents does not say which descendant stands at which node: several may have the same
document. A `Placement` is a tree that keeps the descendants at its nodes. `placement` is the one
that linking makes under a record.

## Key results

- `mem_occurrences_placement`: every occurrence hangs from a node whose id it names as its parent
- `mem_positions_placement`: what occurs is what can be reached
- `nodup_positions_placement`: if ids are unique, nothing occurs twice
-/

namespace ForestQuery

/-- A descendant with its position, and what is placed under it. -/
inductive Branch
  /-- A placed descendant. -/
  | node (child : Record × Nat) (below : List Branch)

/-- A place where a descendant occurs. -/
structure Occurrence where
  /-- The record at the node above it. -/
  parent : Record
  /-- The descendant. -/
  child : Record
  /-- The position of the descendant among all. -/
  position : Nat

namespace Branch

mutual

/-- The documents of a branch. -/
def tree : Branch → Tree
  | node child below => .node child.1.document (trees below)

/-- The documents of several branches. -/
def trees : List Branch → List Tree
  | [] => []
  | branch :: rest => branch.tree :: trees rest

end

mutual

/-- The occurrences in a branch under a record, from the top down. -/
def occurrences (parent : Record) : Branch → List Occurrence
  | node child below => ⟨parent, child.1, child.2⟩ :: occurrencesOf child.1 below

/-- The occurrences in several branches under a record, from the top down. -/
def occurrencesOf (parent : Record) : List Branch → List Occurrence
  | [] => []
  | branch :: rest => branch.occurrences parent ++ occurrencesOf parent rest

end

/-- The positions of the descendants that occur in branches under a record. -/
def positionsOf (parent : Record) (branches : List Branch) : List Nat :=
  (occurrencesOf parent branches).map (·.position)

theorem trees_eq_map (branches : List Branch) : trees branches = branches.map tree := by
  induction branches with
  | nil => rfl
  | cons branch rest ih => rw [trees, ih, List.map_cons]

theorem occurrencesOf_eq_flatMap (parent : Record) (branches : List Branch) :
    occurrencesOf parent branches = branches.flatMap (occurrences parent) := by
  induction branches with
  | nil => rfl
  | cons branch rest ih => rw [occurrencesOf, ih, List.flatMap_cons]

mutual

/-- A branch has a node for every occurrence. -/
theorem nodeCount_tree (parent : Record) : (branch : Branch) →
    branch.tree.nodeCount = (branch.occurrences parent).length
  | node child below => by
    rw [tree, occurrences, Tree.nodeCount, nodeCountOf_trees child.1 below, List.length_cons]

/-- Branches have a node for every occurrence. -/
theorem nodeCountOf_trees (parent : Record) : (branches : List Branch) →
    Tree.nodeCountOf (trees branches) = (occurrencesOf parent branches).length
  | [] => rfl
  | branch :: rest => by
    rw [trees, occurrencesOf, Tree.nodeCountOf, List.length_append, nodeCount_tree parent branch,
      nodeCountOf_trees parent rest]

end

end Branch

/-- A record with the descendants that are placed under it. -/
structure Placement where
  /-- The record at the root. -/
  root : Record
  /-- What is placed under it. -/
  below : List Branch

namespace Placement

/-- The documents of a placement. -/
def tree (p : Placement) : Tree := .node p.root.document (Branch.trees p.below)

/-- The occurrences under the root, from the top down. -/
def occurrences (p : Placement) : List Occurrence := Branch.occurrencesOf p.root p.below

/-- The positions of the descendants that occur, from the top down. -/
def positions (p : Placement) : List Nat := Branch.positionsOf p.root p.below

/-- A placement has a node for the root and one for every occurrence. -/
theorem size_tree (p : Placement) : p.tree.size = 1 + p.positions.length := by
  rw [tree, Tree.size_eq, Branch.nodeCountOf_trees p.root, positions, Branch.positionsOf,
    List.length_map, Nat.add_comm]

end Placement

/-- What linking places under an id, with the ids above it on the way. A child whose id is on the
way already gets nothing under it. -/
def branches (descendants : List Record) (above : List String) (id : String) : List Branch :=
  (childrenOf descendants id).attach.map fun ⟨child, _⟩ =>
    .node child (if (id :: above).contains child.1.id then []
      else branches descendants (id :: above) child.1.id)
termination_by room descendants (id :: above)
decreasing_by exact room_cons_lt (mem_of_mem_childrenOf ‹_›) ‹_›

/-- What linking makes of a child at the end of a way. -/
def branchAt (descendants : List Record) (way : List String) (child : Record × Nat) : Branch :=
  .node child (if way.contains child.1.id then [] else branches descendants way child.1.id)

/-- What linking places under a record. -/
def placement (descendants : List Record) (root : Record) : Placement :=
  ⟨root, branches descendants [] root.id⟩

theorem branches_eq (descendants : List Record) (above : List String) (id : String) :
    branches descendants above id =
      (childrenOf descendants id).map (branchAt descendants (id :: above)) := by
  rw [branches]
  exact List.attach_map_val (f := branchAt descendants (id :: above))

/-! ### What occurs -/

/-- An occurrence hangs from a node whose id the descendant names as its parent. -/
theorem mem_childrenOf_of_mem_occurrencesOf {descendants : List Record} {above : List String}
    {id : String} {parent : Record} {o : Occurrence} (hid : parent.id = id)
    (h : o ∈ Branch.occurrencesOf parent (branches descendants above id)) :
    (o.child, o.position) ∈ childrenOf descendants o.parent.id := by
  -- either the child itself, or below it, where the child is the record at the node above
  induction above, id using branches.induct descendants generalizing parent with
  | case1 above id ih =>
    subst hid
    rw [branches_eq, Branch.occurrencesOf_eq_flatMap, List.flatMap_map, List.mem_flatMap] at h
    obtain ⟨child, hchild, h⟩ := h
    rw [branchAt, Branch.occurrences, List.mem_cons] at h
    rcases h with rfl | h
    · exact hchild
    · split at h
      · simp [Branch.occurrencesOf] at h
      · next hnew => exact ih child hchild hnew rfl h

/-- The positions of what is placed under a child: its own, and those further down unless its id is
on the way already. -/
def positionsAt (descendants : List Record) (way : List String) (child : Record × Nat) : List Nat :=
  child.2 :: (if way.contains child.1.id then []
    else Branch.positionsOf child.1 (branches descendants way child.1.id))

theorem positionsOf_branches (descendants : List Record) (above : List String) (id : String)
    (parent : Record) :
    Branch.positionsOf parent (branches descendants above id) =
      (childrenOf descendants id).flatMap (positionsAt descendants (id :: above)) := by
  rw [Branch.positionsOf, branches_eq, Branch.occurrencesOf_eq_flatMap, List.flatMap_map,
    List.map_flatMap]
  congr 1
  funext child
  rw [branchAt, Branch.occurrences, List.map_cons, positionsAt, Branch.positionsOf]
  split <;> simp [Branch.occurrencesOf]

/-- What occurs under an id are the children of the open nodes there. -/
theorem mem_positionsOf_branches {descendants : List Record} {above : List String} {id : String}
    {parent : Record} {position : Nat} :
    position ∈ Branch.positionsOf parent (branches descendants above id) ↔
      ∃ x xs, Opens descendants (id :: above) (x :: xs) ∧ IsChild descendants x position := by
  induction above, id using branches.induct descendants generalizing parent with
  | case1 above id ih =>
    rw [positionsOf_branches, List.mem_flatMap]
    constructor
    · intro hoccurs
      obtain ⟨child, hchild, h⟩ := hoccurs
      rw [positionsAt, List.mem_cons] at h
      rcases h with rfl | h
      · -- the child itself hangs from the end of the way
        exact ⟨id, above, .refl, isChild_of_mem_childrenOf hchild⟩
      · split at h
        · exact absurd h List.not_mem_nil
        · next hnew =>
          obtain ⟨x, xs, hway, hx⟩ := (ih child hchild hnew).1 h
          exact ⟨x, xs, .head (.child hchild (by simpa using hnew)) hway, hx⟩
    · intro hopen
      obtain ⟨x, xs, hway, hx⟩ := hopen
      -- the first step of the way says under which child it goes on
      rcases Relation.ReflTransGen.cases_head hway with heq | ⟨next, hstep, hway⟩
      · obtain ⟨rfl, rfl⟩ := List.cons.inj heq
        obtain ⟨d, hmem⟩ := hx.exists_mem_childrenOf
        exact ⟨(d, position), hmem, List.mem_cons_self⟩
      · cases hstep with
        | @child _ _ child hchild hnew =>
          have hnew' : ¬ (id :: above).contains child.1.id := by simpa using hnew
          refine ⟨child, hchild, ?_⟩
          rw [positionsAt, if_neg hnew']
          exact List.mem_cons_of_mem _ ((ih child hchild hnew').2 ⟨x, xs, hway, hx⟩)

/-! ### Unique ids -/

theorem nodup_childrenOf (descendants : List Record) (id : String) :
    (childrenOf descendants id).Nodup :=
  (List.Nodup.of_map _ (List.nodup_zipIdx_map_snd descendants)).filter _

/-- A descendant is a child of one id only. -/
theorem IsChild.eq_parent {descendants : List Record} {id id' : String} {position : Nat}
    (h : IsChild descendants id position) (h' : IsChild descendants id' position) : id = id' := by
  obtain ⟨d, hd, hid, -⟩ := h
  obtain ⟨d', hd', hid', -⟩ := h'
  obtain rfl := Option.some.inj (hd.symm.trans hd')
  exact Option.some.inj (hid.symm.trans hid')

/-- Below a child of an open node, the ways go on from the way to the child. -/
private theorem exists_suffix_of_mem_positionsAt {descendants : List Record} {way : List String}
    {child : Record × Nat} {position : Nat} (hposition : position ≠ child.2)
    (h : position ∈ positionsAt descendants way child) :
    ∃ x xs, Opens descendants (child.1.id :: way) (x :: xs) ∧ IsChild descendants x position ∧
      child.1.id ∉ way := by
  rw [positionsAt, List.mem_cons, or_iff_right hposition] at h
  split at h
  · exact absurd h List.not_mem_nil
  · next hnew =>
    obtain ⟨x, xs, hway, hx⟩ := mem_positionsOf_branches.1 h
    exact ⟨x, xs, hway, hx, by simpa using hnew⟩

section

variable {descendants : List Record} (hids : (descendants.map Record.id).Nodup)
  {id : String} {above : List String}

include hids

/-- If ids are unique, no child of an id occurs below a child of the id. -/
private theorem not_isChild_below {child other : Record × Nat}
    (hchild : child ∈ childrenOf descendants id) (hother : other ∈ childrenOf descendants id)
    (hnew : child.1.id ∉ id :: above) {x : String} {xs : List String}
    (hway : Opens descendants (child.1.id :: id :: above) (x :: xs)) :
    ¬ IsChild descendants x other.2 := by
  intro hx
  obtain rfl := hx.eq_parent (isChild_of_mem_childrenOf hother)
  -- the way would come back to the id from below
  obtain rfl := Opens.eq_of_nodup_ids hids .refl (.head (.child hchild hnew) hway)
  have hlength := hway.suffix.length_le
  simp only [List.length_cons] at hlength
  omega

/-- If ids are unique, what occurs under one child does not occur under another. -/
private theorem disjoint_positionsAt {child other : Record × Nat}
    (hchild : child ∈ childrenOf descendants id) (hother : other ∈ childrenOf descendants id)
    (hne : child ≠ other) :
    List.Disjoint (positionsAt descendants (id :: above) child)
      (positionsAt descendants (id :: above) other) := by
  intro position h h'
  -- the position is that of a child or further down, on either side
  by_cases hposition : position = child.2 <;> by_cases hposition' : position = other.2
  · -- a position has one record
    have hget := (mem_childrenOf_iff.1 hchild).1
    rw [← hposition, hposition', (mem_childrenOf_iff.1 hother).1] at hget
    exact hne (Prod.ext (Option.some.inj hget).symm (hposition.symm.trans hposition'))
  · obtain ⟨x, xs, hway, hx, hnew⟩ := exists_suffix_of_mem_positionsAt hposition' h'
    exact not_isChild_below hids hother hchild hnew hway (hposition ▸ hx)
  · obtain ⟨x, xs, hway, hx, hnew⟩ := exists_suffix_of_mem_positionsAt hposition h
    exact not_isChild_below hids hchild hother hnew hway (hposition' ▸ hx)
  · -- the only way to the parent goes through both children
    obtain ⟨x, xs, hway, hx, hnew⟩ := exists_suffix_of_mem_positionsAt hposition h
    obtain ⟨y, ys, hway', hy, hnew'⟩ := exists_suffix_of_mem_positionsAt hposition' h'
    obtain rfl := hx.eq_parent hy
    obtain rfl := Opens.eq_of_nodup_ids hids (.head (.child hchild hnew) hway)
      (.head (.child hother hnew') hway')
    have hsuffix := List.suffix_of_suffix_length_le hway.suffix hway'.suffix (Nat.le_refl _)
    have hid := (List.cons.inj (hsuffix.eq_of_length rfl)).1
    exact hne (eq_of_mem_childrenOf hids hchild hother hid)

/-- If ids are unique, nothing occurs twice under an id. -/
theorem nodup_positionsOf_branches (parent : Record) :
    (Branch.positionsOf parent (branches descendants above id)).Nodup := by
  induction above, id using branches.induct descendants generalizing parent with
  | case1 above id ih =>
    rw [positionsOf_branches, List.nodup_flatMap]
    constructor
    · -- under one child: the child itself does not occur further down
      intro child hchild
      rw [positionsAt]
      split
      · exact List.nodup_singleton _
      · next hnew =>
        refine List.nodup_cons.2 ⟨fun h => ?_, ih child hchild hnew child.1⟩
        obtain ⟨x, xs, hway, hx⟩ := mem_positionsOf_branches.1 h
        exact not_isChild_below hids hchild hchild (by simpa using hnew) hway hx
    · -- under different children: no descendant has two parents
      exact (nodup_childrenOf descendants id).imp_of_mem fun hchild hother hne =>
        disjoint_positionsAt hids hchild hother hne

end

/-! ### What linking places under a record -/

section

variable {descendants : List Record} {root : Record}

/-- Every occurrence hangs from a node whose id the descendant names as its parent. -/
theorem mem_occurrences_placement {o : Occurrence}
    (h : o ∈ (placement descendants root).occurrences) :
    (o.child, o.position) ∈ childrenOf descendants o.parent.id :=
  mem_childrenOf_of_mem_occurrencesOf rfl h

/-- What occurs is what can be reached. -/
theorem mem_positions_placement {position : Nat} :
    position ∈ (placement descendants root).positions ↔ Reaches descendants root.id position :=
  mem_positionsOf_branches.trans reaches_iff_opens.symm

/-- If ids are unique, nothing occurs twice. -/
theorem nodup_positions_placement (hids : (descendants.map Record.id).Nodup) :
    (placement descendants root).positions.Nodup :=
  nodup_positionsOf_branches hids root

end

end ForestQuery
