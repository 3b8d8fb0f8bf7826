import ForestQuery.Predicate.OfTerm
import ForestQuery.Query.Basic

/-!
# Query plans

A query becomes a plan for one find: its search predicates, followed by one group of its skeleton
predicates of which any one must hold. A single predicate stands for itself, several must all hold.
A query without a meaningful search term has no plan, and finds nothing.
-/

namespace ForestQuery

/-- Which part of the records a find returns. -/
inductive Projection
  /-- Whole records. -/
  | full
  /-- The skeleton under a key. -/
  | skeleton (key : String)
deriving DecidableEq

namespace Projection

/-- Whether whole records are returned. -/
def isFull : Projection → Bool
  | full => true
  | skeleton _ => false

/-- The projection in the query language; whole records need none. -/
def toDocument? : Projection → Option Json
  | full => none
  | skeleton key => some (.object [(key, .bool true)])

/-- What a projection leaves of a document. -/
def apply (document : Json) : Projection → Json
  | full => document
  | skeleton key =>
    match document.member? key with
    | some value => .object [(key, value)]
    | none => .object []

end Projection

/-- A limit as a JSON value. -/
def limitJson (limit : Option UInt64) : Json :=
  .ofOption (limit.map fun n => .number (.ofUInt64 n))

/-- What a find is asked for. -/
structure Find where
  /-- Which records. -/
  filter : Predicate
  /-- Which part of them. -/
  projection : Projection
  /-- How many of them at most. -/
  limit : Option UInt64

/-- The plan of a query. -/
structure Plan extends Find where
  /-- Whether descendants are loaded for the results. -/
  includeChildren : Bool

/-- The plan for diagnostics. -/
def Plan.explain (plan : Plan) : Json :=
  .object [("filter", plan.filter.toDocument), ("limit", limitJson plan.limit),
    ("projection", .ofOption plan.projection.toDocument?), ("tree", .bool plan.includeChildren)]

/-- What a query comes to: a plan, if it has a meaningful search term. -/
structure Assembly where
  /-- The plan. -/
  plan? : Option Plan
  /-- The number of search and skeleton terms without a meaning. -/
  dropped : Nat

/-- Predicates that must all hold; a single one stands for itself. -/
def Predicate.conjunction : List Predicate → Predicate
  | [p] => p
  | ps => .all ps

namespace Query

/-- The predicates of a plan: those of the search terms, and one for all skeleton terms together if
any of them means something. -/
def planPredicates (search skeleton : Compilation) : List Predicate :=
  if skeleton.isEmpty then search.predicates
  else search.predicates ++ [.any skeleton.predicates]

/-- What the query comes to. -/
def assemble (q : Query) (l : Layout) : Assembly :=
  let search := Compilation.ofNodes l q.terms.search
  let skeleton := Compilation.ofNodes l q.terms.skeleton
  let dropped := search.dropped + skeleton.dropped
  if search.isEmpty then
    ⟨none, dropped⟩
  else
    let plan : Plan := {
      filter := .conjunction (planPredicates search skeleton)
      projection := if q.modifier.laststep then .full else .skeleton l.skeletonKey
      limit := q.modifier.effectiveLimit
      includeChildren := q.modifier.includesChildren }
    ⟨some plan, dropped⟩

end Query

end ForestQuery
