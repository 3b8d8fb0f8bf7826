import ForestQuery.Proofs.Linking.Placement

/-!
# The nodes of linked trees

A result is a tree of documents, and every node of it is the root of a subtree. `Tree.nodes` lists
these subtrees from the top down. In a linked tree they are the root and one for every occurrence.

## Key results

- `Placement.map_document_nodes`: the documents at the nodes are those of the root and what occurs
- `mem_nodes_placement`: a node below the root is a child of an open node, with what is placed there
-/

namespace ForestQuery

namespace Tree

mutual

/-- The subtrees of a tree, itself included, from the top down. -/
def nodes : Tree → List Tree
  | node document children => node document children :: nodesOf children

/-- The subtrees of several trees, from the top down. -/
def nodesOf : List Tree → List Tree
  | [] => []
  | t :: rest => t.nodes ++ nodesOf rest

end

theorem nodesOf_eq_flatMap (ts : List Tree) : nodesOf ts = ts.flatMap nodes := by
  induction ts with
  | nil => rfl
  | cons t rest ih => rw [nodesOf, ih, List.flatMap_cons]

end Tree

namespace Branch

mutual

/-- The documents in a branch are those of its occurrences. -/
theorem map_document_nodes (parent : Record) : (branch : Branch) →
    branch.tree.nodes.map Tree.document =
      (branch.occurrences parent).map (·.child.document)
  | node child below => by
    rw [tree, occurrences, Tree.nodes, List.map_cons, List.map_cons,
      map_document_nodesOf child.1 below]
    rfl

/-- The documents in branches are those of their occurrences. -/
theorem map_document_nodesOf (parent : Record) : (branches : List Branch) →
    (Tree.nodesOf (trees branches)).map Tree.document =
      (occurrencesOf parent branches).map (·.child.document)
  | [] => rfl
  | branch :: rest => by
    rw [trees, occurrencesOf, Tree.nodesOf, List.map_append, List.map_append,
      map_document_nodes parent branch, map_document_nodesOf parent rest]

end

end Branch

namespace Placement

/-- The documents in a placement are those of its root and of its occurrences. -/
theorem map_document_nodes (p : Placement) :
    p.tree.nodes.map Tree.document =
      p.root.document :: p.occurrences.map (·.child.document) := by
  rw [tree, Tree.nodes, List.map_cons, Branch.map_document_nodesOf p.root p.below]
  rfl

end Placement

/-! ### Nodes and ways -/

/-- A node of what is placed under an id is a child of an open node. -/
theorem mem_nodesOf_branches {descendants : List Record} {above : List String} {id : String}
    {t : Tree} (h : t ∈ Tree.nodesOf (Branch.trees (branches descendants above id))) :
    ∃ x xs child, Opens descendants (id :: above) (x :: xs) ∧ child ∈ childrenOf descendants x ∧
      t = (branchAt descendants (x :: xs) child).tree := by
  induction above, id using branches.induct descendants with
  | case1 above id ih =>
    rw [Branch.trees_eq_map, branches_eq, Tree.nodesOf_eq_flatMap, List.map_map, List.flatMap_map,
      List.mem_flatMap] at h
    obtain ⟨child, hchild, h⟩ := h
    rw [Function.comp_apply, branchAt, Branch.tree, Tree.nodes, List.mem_cons] at h
    rcases h with rfl | h
    · exact ⟨id, above, child, .refl, hchild, rfl⟩
    · split at h
      · exact absurd h List.not_mem_nil
      · next hnew =>
        obtain ⟨x, xs, further, hway, hfurther, rfl⟩ := ih child hchild hnew h
        have hstep : Deepens descendants (id :: above) (child.1.id :: id :: above) :=
          .child hchild (by simpa using hnew)
        exact ⟨x, xs, further, .head hstep hway, hfurther, rfl⟩

/-- A node under a record is its root or a child of an open node. -/
theorem mem_nodes_placement {descendants : List Record} {root : Record} {t : Tree}
    (h : t ∈ (placement descendants root).tree.nodes) :
    t = (placement descendants root).tree ∨
      ∃ x xs child, Opens descendants [root.id] (x :: xs) ∧ child ∈ childrenOf descendants x ∧
        t = (branchAt descendants (x :: xs) child).tree := by
  rw [Placement.tree, Tree.nodes, List.mem_cons] at h
  rcases h with rfl | h
  · exact .inl rfl
  · exact .inr (mem_nodesOf_branches h)

/-- The children of a root are the descendants that name it, in their order. -/
theorem map_document_children_placement (descendants : List Record) (root : Record) :
    (placement descendants root).tree.children.map Tree.document =
      (childrenOf descendants root.id).map (·.1.document) := by
  rw [Placement.tree, Tree.children, Branch.trees_eq_map, placement, branches_eq, List.map_map,
    List.map_map]
  rfl

/-- The children of a node that stands on the way only once are the descendants that name it, in
their order. -/
theorem map_document_children_branchAt {descendants : List Record} {way : List String}
    {child : Record × Nat} (hnew : child.1.id ∉ way) :
    (branchAt descendants way child).tree.children.map Tree.document =
      (childrenOf descendants child.1.id).map (·.1.document) := by
  have hnew' : ¬ way.contains child.1.id := by simpa using hnew
  rw [branchAt, if_neg hnew', Branch.tree, Tree.children, Branch.trees_eq_map, branches_eq,
    List.map_map, List.map_map]
  rfl

end ForestQuery
