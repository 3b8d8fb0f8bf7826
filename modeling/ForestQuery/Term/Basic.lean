import ForestQuery.Number

/-!
# Selector terms

A term is one condition `field operator value` as a selector states it. The operator is kept as the
symbol that was written; whether it means anything is decided where terms become predicates. Terms
nest: a group is a sequence of which every part must hold. `TermNode.length_leaves` says that the
terms of a node are as many as are counted.
-/

namespace ForestQuery

/-- The value of a term. -/
inductive TermValue
  /-- A number. -/
  | number (value : Number)
  /-- A text. -/
  | text (value : String)
deriving DecidableEq

namespace TermValue

/-- The value of a number of the binary format. A number that is not finite becomes its text. -/
def ofBinary64 : Binary64 → TermValue
  | .finite x => number (.float x)
  | .infinite true => text "-inf"
  | .infinite false => text "inf"
  | .undefined => text "NaN"

/-- The text of the value. -/
def display : TermValue → String
  | number value => value.text
  | text value => value

/-- Equality of values: texts as texts, numbers as document numbers. -/
def same : TermValue → TermValue → Bool
  | number a, number b => a.same b
  | text a, text b => a == b
  | _, _ => false

/-- Every value equals itself. -/
theorem same_self : (value : TermValue) → value.same value
  | number n => n.same_self
  | text s => beq_self_eq_true s

end TermValue

/-- One condition of a selector. -/
structure Term where
  /-- The dotted path of the field. -/
  field : String
  /-- The symbol of the operator. -/
  operator : String
  /-- The value to compare with. -/
  value : TermValue
deriving DecidableEq

namespace Term

/-- The term as a selector writes it. -/
def display (term : Term) : String :=
  "[" ++ term.field ++ term.operator ++ term.value.display ++ "]"

/-- Equality of terms, their values as values. -/
def same (a b : Term) : Bool :=
  a.field == b.field && a.operator == b.operator && a.value.same b.value

/-- Every term equals itself. -/
theorem same_self (term : Term) : term.same term := by
  simp [same, term.value.same_self]

end Term

/-- A term, or a group of nodes of which every one must hold. -/
inductive TermNode
  /-- A single term. -/
  | leaf (term : Term)
  /-- A group. -/
  | group (children : List TermNode)

namespace TermNode

mutual

/-- The terms of a node, from left to right. -/
def leaves : TermNode → List Term
  | leaf term => [term]
  | group children => leavesOf children

/-- The terms of several nodes, from left to right. -/
def leavesOf : List TermNode → List Term
  | [] => []
  | node :: rest => node.leaves ++ leavesOf rest

end

mutual

/-- The number of terms of a node. -/
def leafCount : TermNode → Nat
  | leaf _ => 1
  | group children => leafCountOf children

/-- The number of terms of several nodes. -/
def leafCountOf : List TermNode → Nat
  | [] => 0
  | node :: rest => node.leafCount + leafCountOf rest

end

mutual

/-- A node has as many terms as are counted. -/
theorem length_leaves : (node : TermNode) → node.leaves.length = node.leafCount
  | leaf _ => rfl
  | group children => length_leavesOf children

/-- Nodes have as many terms as are counted. -/
theorem length_leavesOf : (nodes : List TermNode) → (leavesOf nodes).length = leafCountOf nodes
  | [] => rfl
  | node :: rest => by
    rw [leavesOf, leafCountOf, List.length_append, length_leaves node, length_leavesOf rest]

end

mutual

/-- Equality of nodes, their terms' values as values. -/
def same : TermNode → TermNode → Bool
  | leaf a, leaf b => a.same b
  | group as, group bs => sameAll as bs
  | _, _ => false

/-- Node by node equality. -/
def sameAll : List TermNode → List TermNode → Bool
  | [], [] => true
  | a :: as, b :: bs => a.same b && sameAll as bs
  | _, _ => false

end

mutual

/-- Every node equals itself. -/
theorem same_self : (node : TermNode) → node.same node
  | leaf term => Term.same_self term
  | group children => sameAll_self children

/-- Every list of nodes equals itself. -/
theorem sameAll_self : (nodes : List TermNode) → sameAll nodes nodes
  | [] => rfl
  | node :: rest => by rw [sameAll, same_self node, sameAll_self rest, Bool.true_and]

end

end TermNode

end ForestQuery
