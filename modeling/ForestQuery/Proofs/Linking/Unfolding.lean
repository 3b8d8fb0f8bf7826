import ForestQuery.Proofs.Linking.Forest

/-!
# The linked forest by plain recursion

Linking walks with a stack of half-built nodes and the ids on the way down. What it builds is what
`unfold` says by plain recursion, without stack or positions: under a record stand the trees of the
descendants that name it, and one whose id is on the way already stands alone.

## Key results

- `unfold_eq`: the recursion, in terms of the descendants only
- `link_forest_eq_unfold`: the linked forest is the recursion on every primary record
-/

namespace ForestQuery

/-- Under a record stand the descendants that name it and not themselves, in their order. One whose
id is on the way down stands alone, any other one has its own tree with its id on the way. -/
theorem unfold_eq (descendants : List Record) (record : Record) (path : List String) :
    unfold descendants record path =
      .node record.document
        ((descendants.filter (·.skeleton.namesParent record.id)).map fun c =>
          if c.id ∈ path then .leaf c.document else unfold descendants c (c.id :: path)) := by
  rw [unfold, ← map_fst_childrenOf, List.map_map]
  congr 1
  rw [List.attach_map_val (f := fun child : Record × Nat =>
    if path.contains child.1.id then Tree.leaf child.1.document
    else unfold descendants child.1 (child.1.id :: path))]
  simp only [List.contains_iff_mem]
  rfl

/-- What linking places under an id is what the recursion puts there. -/
theorem node_trees_branches (descendants : List Record) (above : List String) (record : Record) :
    Tree.node record.document (Branch.trees (branches descendants above record.id)) =
      unfold descendants record (record.id :: above) := by
  generalize hid : record.id = id
  -- induction on the ids on the way, with the child in place of the record
  induction above, id using branches.induct descendants generalizing record with
  | case1 above id ih =>
    subst hid
    rw [unfold_eq, Branch.trees_eq_map, branches_eq, ← map_fst_childrenOf, List.map_map,
      List.map_map]
    congr 1
    refine List.map_congr_left fun child hchild => ?_
    dsimp only [Function.comp_apply]
    rw [branchAt, Branch.tree]
    by_cases hon : child.1.id ∈ record.id :: above
    · rw [if_pos hon, if_pos (List.contains_iff_mem.2 hon)]
      rfl
    · have hnew : ¬ (record.id :: above).contains child.1.id = true := by simpa using hon
      rw [if_neg hon, if_neg hnew, ih child hchild hnew child.1 rfl]

theorem tree_placement (descendants : List Record) (root : Record) :
    (placement descendants root).tree = unfold descendants root [root.id] :=
  node_trees_branches descendants [] root

/-- The linked forest has a tree for every primary record, in order: the one that plain recursion
makes of it, where under a record stand the descendants that name it and not themselves, in their
order, and an id that is on the way down already gets nothing under it. -/
theorem link_forest_eq_unfold (primary descendants : List Record) :
    (link primary descendants).forest =
      primary.map (fun record => unfold descendants record [record.id]) ∧
    ∀ record path, unfold descendants record path =
      .node record.document
        ((descendants.filter (·.skeleton.namesParent record.id)).map fun c =>
          if c.id ∈ path then .leaf c.document else unfold descendants c (c.id :: path)) := by
  refine ⟨?_, unfold_eq descendants⟩
  rw [forest_link]
  exact List.map_congr_left fun record _ => tree_placement descendants record

end ForestQuery
