import ForestQuery.Term.Basic

/-!
# Select queries

A query is one step of a selector: search terms, of which every one must hold, skeleton terms from
the step before, of which any one must hold, and modifiers that say how much of the result is
wanted.
-/

namespace ForestQuery

/-- How much of a result is wanted. -/
structure Modifier where
  /-- The greatest number of results; zero sets no limit. -/
  limit : Option UInt64 := none
  /-- At most one result, whatever the limit. -/
  first : Bool := false
  /-- The last step of a selector: whole records are wanted, and not only their skeletons. -/
  laststep : Bool := false
  /-- The descendants of the results are wanted too. -/
  tree : Bool := false
deriving DecidableEq

namespace Modifier

/-- The limit that counts: one for the first result, else the given one unless it is zero. -/
def effectiveLimit (m : Modifier) : Option UInt64 :=
  if m.first then some 1 else m.limit.filter (0 < ·)

/-- Descendants are loaded only for whole records. -/
def includesChildren (m : Modifier) : Bool := m.laststep && m.tree

end Modifier

/-- The terms of a query. -/
structure QueryTerms where
  /-- The terms of which every one must hold. -/
  search : List TermNode := []
  /-- The terms of which any one must hold. -/
  skeleton : List TermNode := []

/-- A select query. -/
structure Query where
  /-- The terms. -/
  terms : QueryTerms := {}
  /-- How much is wanted. -/
  modifier : Modifier := {}

namespace QueryTerms

/-- Equality of terms, node by node. -/
def same (a b : QueryTerms) : Bool :=
  TermNode.sameAll a.search b.search && TermNode.sameAll a.skeleton b.skeleton

end QueryTerms

namespace Query

/-- The query with these search terms and nothing else. -/
def ofSearch (search : List TermNode) : Query := { terms := { search } }

/-- The query with more skeleton terms. -/
def withSkeleton (q : Query) (skeleton : List TermNode) : Query :=
  { q with terms := { q.terms with skeleton := q.terms.skeleton ++ skeleton } }

/-- Equality of queries. -/
def same (a b : Query) : Bool := a.terms.same b.terms && a.modifier == b.modifier

end Query

end ForestQuery
