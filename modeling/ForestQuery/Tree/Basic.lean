import ForestQuery.Json.Basic

/-!
# Result trees

A result is a tree of documents. The documents are as they were fetched; their children stand beside
them. `Tree.size` counts the nodes of a tree by working off a list of trees, so that deep trees need
no deep recursion; `Tree.size_eq` says that it is one more than the sizes of the children together.
-/

namespace ForestQuery

/-- A document with the trees under it. -/
inductive Tree
  /-- A node of a tree. -/
  | node (document : Json) (children : List Tree)

namespace Tree

/-- A tree without children. -/
def leaf (document : Json) : Tree := node document []

/-- The document at the root. -/
def document : Tree → Json
  | node document _ => document

/-- The trees under the root. -/
def children : Tree → List Tree
  | node _ children => children

/-- Whether nothing stands under the root. -/
def isLeaf (t : Tree) : Bool := t.children.isEmpty

mutual

/-- The number of nodes of a tree. -/
def nodeCount : Tree → Nat
  | node _ children => nodeCountOf children + 1

/-- The number of nodes of several trees. -/
def nodeCountOf : List Tree → Nat
  | [] => 0
  | t :: rest => t.nodeCount + nodeCountOf rest

end

theorem nodeCountOf_append (as bs : List Tree) :
    nodeCountOf (as ++ bs) = nodeCountOf as + nodeCountOf bs := by
  induction as with
  | nil => simp [nodeCountOf]
  | cons a as ih => simp only [List.cons_append, nodeCountOf, ih]; omega

theorem nodeCountOf_reverse (ts : List Tree) : nodeCountOf ts.reverse = nodeCountOf ts := by
  induction ts with
  | nil => rfl
  | cons t rest ih =>
    simp only [List.reverse_cons, nodeCountOf_append, nodeCountOf, ih]
    omega

/-- Counts the nodes of waiting trees on top of a count. The children of a tree that is counted wait
before the other trees, the last of them first. -/
def countWaiting (count : Nat) : List Tree → Nat
  | [] => count
  | node _ children :: waiting => countWaiting (count + 1) (children.reverse ++ waiting)
termination_by waiting => nodeCountOf waiting
decreasing_by
  simp only [List.unattach_reverse, List.unattach_attach, nodeCountOf_append, nodeCountOf_reverse,
    nodeCountOf, nodeCount]
  omega

/-- The number of nodes of a tree, the root included. -/
def size (t : Tree) : Nat := countWaiting 0 [t]

theorem countWaiting_eq (count : Nat) (waiting : List Tree) :
    countWaiting count waiting = count + nodeCountOf waiting := by
  fun_induction countWaiting count waiting with
  | case1 => simp [nodeCountOf]
  | case2 count _ children waiting ih =>
    rw [List.unattach_reverse, List.unattach_attach] at ih
    rw [ih, nodeCountOf_append, nodeCountOf_reverse, nodeCountOf, nodeCount]
    omega

/-- The size of a tree is one more than the sizes of its children together. -/
theorem size_eq (document : Json) (children : List Tree) :
    (node document children).size = nodeCountOf children + 1 := by
  simp [size, countWaiting_eq, nodeCountOf, nodeCount]

mutual

/-- The nodes of a tree from the top down, each with its depth under a depth. -/
def outline (depth : Nat) : Tree → List (Nat × Json)
  | node document children => (depth, document) :: outlineOf (depth + 1) children

/-- The nodes of several trees from the top down. -/
def outlineOf (depth : Nat) : List Tree → List (Nat × Json)
  | [] => []
  | t :: rest => t.outline depth ++ outlineOf depth rest

end

end Tree

end ForestQuery
