import ForestQuery.Descent
import ForestQuery.Select.Counters
import ForestQuery.Select.Event
import ForestQuery.Tree.Link

/-!
# Running selects

A select assembles the plan of its query and stops there if no search term means anything. Else it
acquires a collection and finds the results. If whole records with their descendants are wanted, it
finds the descendants and links them under the results. It asks the store for nothing else, tries
nothing twice, and returns all or an error.

A session is what is left of the selects that ran: the state of the store, the counters, the log,
and what was asked of the store.
-/

namespace ForestQuery

/-- What runs selects: how records are laid out, and how descendants are looked for. -/
structure Selector where
  /-- Where records keep their skeletons. -/
  layout : Layout
  /-- How descendants are looked for. -/
  descent : Descent

namespace Selector

/-- The selector that looks for descendants by their intervals. -/
def ofLayout (l : Layout) : Selector := ⟨l, .intervals l⟩

/-- The plan that a query would run; none if no search term means anything. -/
def plan? (selector : Selector) (q : Query) : Option Plan := (q.assemble selector.layout).plan?

end Selector

/-- What is left of the selects that ran on a store. -/
structure Session (σ : Type) where
  /-- The state of the store. -/
  store : σ
  /-- The counters. -/
  counters : Counters := {}
  /-- What was logged, in order. -/
  log : List Event := []
  /-- The number of times that a collection was asked for. -/
  acquisitions : Nat := 0
  /-- The finds that were asked for, in order. -/
  finds : List Find := []

/-- A step of a select: it changes the session, and gives a value or an error. -/
abbrev SelectM (σ : Type) := ExceptT SelectError (StateM (Session σ))

namespace SelectM

variable {σ : Type}

/-- Logs an event. -/
def emit (event : Event) : SelectM σ Unit :=
  modify fun s => { s with log := s.log ++ [event] }

/-- Lets a counter count further. -/
def count (counter : Counter) (n : Nat) : SelectM σ Unit :=
  modify fun s => { s with counters := s.counters.add counter (.ofNat n) }

/-- Asks the store for a collection. -/
def acquire (store : Store σ) (request : Request) : SelectM σ Unit := do
  let session ← get
  let (reply, next) := store.acquire request session.store
  set { session with store := next, acquisitions := session.acquisitions + 1 }
  match reply with
  | .ok () => return ()
  | .error cause => throw (.acquisition cause)

/-- Asks the store for documents. An error of the store becomes the error of the select that the
stage makes of it. -/
def find (store : Store σ) (stage : StoreError → SelectError) (request : Find) :
    SelectM σ (List Json) := do
  let session ← get
  let (reply, next) := store.find request session.store
  set { session with store := next, finds := session.finds ++ [request] }
  match reply with
  | .ok documents => return documents
  | .error cause => throw (stage cause)

end SelectM

namespace Selector

open SelectM

variable {σ : Type}

/-- Links the fetched descendants under the results. A descendant without a skeleton stands
nowhere. -/
def merge (selector : Selector) (primary : List Record) (fetched : List Json) :
    SelectM σ (List Tree) := do
  let descendants := fetched.filterMap (Record.ofDocument? selector.layout)
  let linked := link primary descendants
  let orphaned := linked.orphaned + (fetched.length - descendants.length)
  count .descendantsAttached linked.attached
  emit (.treeMerged linked.forest.length linked.attached)
  if 0 < orphaned then
    count .descendantsOrphaned orphaned
    emit (.descendantsOrphaned orphaned)
  return linked.forest

/-- Finds the descendants of results and links them. -/
def expand (selector : Selector) (store : Store σ) (results : List Json) :
    SelectM σ (List Tree) := do
  match results.mapM (Record.ofDocument? selector.layout) with
  | none => throw (.noSkeleton selector.layout)
  | some primary =>
    match selector.descent.filter? selector.layout primary with
    -- there are no descendants to look for
    | none => return primary.map (Tree.leaf ·.document)
    | some filter =>
      count .descendantQueries 1
      let fetched ← find store .descendantQuery ⟨filter, .full, none⟩
      emit (.descendantQueryComplete fetched.length)
      selector.merge primary fetched

/-- Finds the results of a plan, with their descendants if they are wanted. -/
def execute (selector : Selector) (store : Store σ) (request : Request) (plan : Plan) :
    SelectM σ (List Tree) := do
  acquire store request
  count .selectsExecuted 1
  count .primaryQueries 1
  let results ← find store .primaryQuery plan.toFind
  emit (.primaryQueryComplete results.length)
  if plan.includeChildren && plan.projection.isFull && !results.isEmpty then
    selector.expand store results
  else
    return results.map Tree.leaf

/-- Runs a query, but for the first and the last event. -/
def run (selector : Selector) (store : Store σ) (request : Request) (q : Query) :
    SelectM σ (List Tree) := do
  let assembly := q.assemble selector.layout
  if 0 < assembly.dropped then
    count .termsDropped assembly.dropped
    emit (.termsDropped assembly.dropped)
  match assembly.plan? with
  -- nothing to look for: the store is not asked
  | none =>
    count .selectsShortCircuited 1
    emit .selectShortCircuit
    return []
  | some plan => selector.execute store request plan

/-- Runs a query. -/
def select (selector : Selector) (store : Store σ) (request : Request) (q : Query) :
    SelectM σ (List Tree) := do
  emit (.selectStart q.terms.search.length q.terms.skeleton.length)
  try
    let forest ← selector.run store request q
    emit (.selectComplete forest.length)
    return forest
  catch error =>
    count .selectsFailed 1
    emit (.selectFailed error)
    throw error

/-- Runs a query in a session. -/
def selectIn (selector : Selector) (store : Store σ) (request : Request) (q : Query)
    (session : Session σ) : Except SelectError (List Tree) × Session σ :=
  (selector.select store request q).run.run session

end Selector

end ForestQuery
