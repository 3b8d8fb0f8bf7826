import ForestQuery.Select.Session

/-!
# A select, step by step

What every step of a select does to a session, as equations: each step either goes on with a value
or ends the select with an error, and leaves a session in both cases.

## Key results

- `SelectM.runIn_bind`: a step that fails ends the select
- `SelectM.runIn_acquire`, `SelectM.runIn_find`: what is asked of a store is recorded, and the
  store's error becomes the select's
- `Selector.runIn_merge`, `Selector.runIn_expand`, `Selector.runIn_execute`, `Selector.runIn_run`,
  `Selector.selectIn_eq`: the stages of a select
-/

namespace ForestQuery

variable {σ α β : Type}

namespace Session

/-- The session after an event was logged. -/
def logged (s : Session σ) (event : Event) : Session σ := { s with log := s.log ++ [event] }

/-- The session after a counter has counted further. -/
def counted (s : Session σ) (counter : Counter) (n : Nat) : Session σ :=
  { s with counters := s.counters.add counter (.ofNat n) }

/-- The session after a collection was asked for. -/
def acquired (s : Session σ) (next : σ) : Session σ :=
  { s with store := next, acquisitions := s.acquisitions + 1 }

/-- The session after a find was asked for. -/
def searched (s : Session σ) (request : Find) (next : σ) : Session σ :=
  { s with store := next, finds := s.finds ++ [request] }

section

variable (s : Session σ)

@[simp] theorem store_logged (event : Event) : (s.logged event).store = s.store := rfl

@[simp] theorem store_counted (counter : Counter) (n : Nat) :
    (s.counted counter n).store = s.store := rfl

@[simp] theorem store_acquired (next : σ) : (s.acquired next).store = next := rfl

@[simp] theorem store_searched (request : Find) (next : σ) :
    (s.searched request next).store = next := rfl

@[simp] theorem acquisitions_logged (event : Event) :
    (s.logged event).acquisitions = s.acquisitions := rfl

@[simp] theorem acquisitions_counted (counter : Counter) (n : Nat) :
    (s.counted counter n).acquisitions = s.acquisitions := rfl

@[simp] theorem acquisitions_searched (request : Find) (next : σ) :
    (s.searched request next).acquisitions = s.acquisitions := rfl

@[simp] theorem finds_logged (event : Event) : (s.logged event).finds = s.finds := rfl

@[simp] theorem finds_counted (counter : Counter) (n : Nat) :
    (s.counted counter n).finds = s.finds := rfl

@[simp] theorem finds_searched (request : Find) (next : σ) :
    (s.searched request next).finds = s.finds ++ [request] := rfl

@[simp] theorem finds_acquired (next : σ) : (s.acquired next).finds = s.finds := rfl

@[simp] theorem log_logged (event : Event) : (s.logged event).log = s.log ++ [event] := rfl

@[simp] theorem log_counted (counter : Counter) (n : Nat) : (s.counted counter n).log = s.log := rfl

@[simp] theorem log_acquired (next : σ) : (s.acquired next).log = s.log := rfl

@[simp] theorem log_searched (request : Find) (next : σ) :
    (s.searched request next).log = s.log := rfl

@[simp] theorem counters_logged (event : Event) : (s.logged event).counters = s.counters := rfl

@[simp] theorem get_counted (counter other : Counter) (n : Nat) :
    (s.counted counter n).counters.get other =
      s.counters.get other + if other = counter then .ofNat n else 0 := by
  rw [counted, Counters.get_add]
  split
  · rfl
  · exact (UInt64.add_zero _).symm

@[simp] theorem counters_acquired (next : σ) : (s.acquired next).counters = s.counters := rfl

@[simp] theorem counters_searched (request : Find) (next : σ) :
    (s.searched request next).counters = s.counters := rfl

/-- The session after a number was counted and logged, unless it is zero. -/
def noted (counter : Counter) (n : Nat) (event : Event) : Session σ :=
  if 0 < n then (s.counted counter n).logged event else s

@[simp] theorem store_noted (counter : Counter) (n : Nat) (event : Event) :
    (s.noted counter n event).store = s.store := by
  unfold noted
  split <;> rfl

@[simp] theorem acquisitions_noted (counter : Counter) (n : Nat) (event : Event) :
    (s.noted counter n event).acquisitions = s.acquisitions := by
  unfold noted
  split <;> rfl

@[simp] theorem finds_noted (counter : Counter) (n : Nat) (event : Event) :
    (s.noted counter n event).finds = s.finds := by
  unfold noted
  split <;> rfl

@[simp] theorem log_noted (counter : Counter) (n : Nat) (event : Event) :
    (s.noted counter n event).log = s.log ++ if 0 < n then [event] else [] := by
  unfold noted
  split
  · rfl
  · exact (List.append_nil _).symm

@[simp] theorem get_noted (counter other : Counter) (n : Nat) (event : Event) :
    (s.noted counter n event).counters.get other =
      s.counters.get other + if other = counter then .ofNat n else 0 := by
  unfold noted
  split
  · rw [counters_logged, get_counted]
  · next hn =>
    obtain rfl : n = 0 := by omega
    simp

end

end Session

namespace SelectM

/-- What a step comes to in a session. -/
def runIn (m : SelectM σ α) (s : Session σ) : Except SelectError α × Session σ := m.run.run s

/-- A step that fails ends the select; else the next step goes on in the session it leaves. -/
theorem runIn_bind (m : SelectM σ α) (f : α → SelectM σ β) (s : Session σ) :
    (m >>= f).runIn s =
      match m.runIn s with
      | (.ok a, t) => (f a).runIn t
      | (.error e, t) => (.error e, t) := by
  change (match m.runIn s with
    | (r, t) => StateT.run (ExceptT.bindCont f r) t) = _
  rcases m.runIn s with ⟨_ | _, t⟩ <;> rfl

theorem runIn_bind_ok {m : SelectM σ α} {s t : Session σ} {a : α} (h : m.runIn s = (.ok a, t))
    (f : α → SelectM σ β) : (m >>= f).runIn s = (f a).runIn t := by
  rw [runIn_bind, h]

/-- A failed step is caught, in the session that it leaves. -/
theorem runIn_tryCatch (m : SelectM σ α) (handler : SelectError → SelectM σ α) (s : Session σ) :
    (tryCatch m handler).runIn s =
      match m.runIn s with
      | (.ok a, t) => (.ok a, t)
      | (.error e, t) => (handler e).runIn t := by
  rw [runIn, runIn, ExceptT.run_tryCatch, StateT.run_bind]
  rcases StateT.run (ExceptT.run m) s with ⟨_ | _, t⟩ <;> rfl

theorem runIn_emit (event : Event) (s : Session σ) :
    (emit event).runIn s = (.ok (), s.logged event) := rfl

theorem runIn_count (counter : Counter) (n : Nat) (s : Session σ) :
    (count counter n).runIn s = (.ok (), s.counted counter n) := rfl

/-- A collection is asked for once; the store's error becomes the select's. -/
theorem runIn_acquire (store : Store σ) (request : Request) (s : Session σ) :
    (acquire store request).runIn s =
      ((store.acquire request s.store).1.mapError .acquisition,
        s.acquired (store.acquire request s.store).2) := by
  have hget : (get : SelectM σ (Session σ)).runIn s = (.ok s, s) := rfl
  rw [acquire, runIn_bind_ok hget]
  rcases store.acquire request s.store with ⟨reply, next⟩
  cases reply <;> rfl

/-- A find is asked for once; the store's error becomes that of the stage. -/
theorem runIn_find (store : Store σ) (stage : StoreError → SelectError) (request : Find)
    (s : Session σ) :
    (find store stage request).runIn s =
      ((store.find request s.store).1.mapError stage,
        s.searched request (store.find request s.store).2) := by
  have hget : (get : SelectM σ (Session σ)).runIn s = (.ok s, s) := rfl
  rw [find, runIn_bind_ok hget]
  rcases store.find request s.store with ⟨reply, next⟩
  cases reply <;> rfl

end SelectM

namespace Selector

open SelectM

/-- The session after descendants were linked. -/
def merged (s : Session σ) (roots attached orphaned : Nat) : Session σ :=
  let t := (s.counted .descendantsAttached attached).logged (.treeMerged roots attached)
  if 0 < orphaned then
    (t.counted .descendantsOrphaned orphaned).logged (.descendantsOrphaned orphaned)
  else
    t

/-- Linking always succeeds. -/
theorem runIn_merge (selector : Selector) (primary : List Record) (fetched : List Json)
    (s : Session σ) :
    let descendants := fetched.filterMap (Record.ofDocument? selector.layout)
    let linked := link primary descendants
    (selector.merge primary fetched).runIn s =
      (.ok linked.forest, merged s linked.forest.length linked.attached
        (linked.orphaned + (fetched.length - descendants.length))) := by
  intro descendants linked
  rw [merge, runIn_bind_ok (runIn_count _ _ _), runIn_bind_ok (runIn_emit _ _), merged]
  dsimp only
  split
  · rfl
  · rfl

/-- Results are expanded only if all of them have skeletons. Nothing is asked of the store if there
are no descendants to look for. -/
theorem runIn_expand (selector : Selector) (store : Store σ) (results : List Json)
    (s : Session σ) :
    (selector.expand store results).runIn s =
      match results.mapM (Record.ofDocument? selector.layout) with
      | none => (.error (.noSkeleton selector.layout), s)
      | some primary =>
        match selector.descent.filter? selector.layout primary with
        | none => (.ok (primary.map (Tree.leaf ·.document)), s)
        | some filter =>
          let request : Find := ⟨filter, .full, none⟩
          let t := s.counted .descendantQueries 1
          match store.find request s.store with
          | (.error cause, next) => (.error (.descendantQuery cause), t.searched request next)
          | (.ok fetched, next) =>
            (selector.merge primary fetched).runIn
              ((t.searched request next).logged (.descendantQueryComplete fetched.length)) := by
  rw [expand]
  cases results.mapM (Record.ofDocument? selector.layout) with
  | none => rfl
  | some primary =>
    dsimp only
    cases selector.descent.filter? selector.layout primary with
    | none => rfl
    | some filter =>
      dsimp only
      rw [runIn_bind_ok (runIn_count _ _ _), runIn_bind, runIn_find, Session.store_counted]
      rcases store.find ⟨filter, .full, none⟩ s.store with ⟨_ | _, next⟩
      · rfl
      · rfl

/-- The results are found once, and expanded if whole records with their descendants are wanted and
there are any. -/
theorem runIn_execute (selector : Selector) (store : Store σ) (request : Request) (plan : Plan)
    (s : Session σ) :
    (selector.execute store request plan).runIn s =
      match store.acquire request s.store with
      | (.error cause, next) => (.error (.acquisition cause), s.acquired next)
      | (.ok (), next) =>
        let t := ((s.acquired next).counted .selectsExecuted 1).counted .primaryQueries 1
        match store.find plan.toFind next with
        | (.error cause, next) => (.error (.primaryQuery cause), t.searched plan.toFind next)
        | (.ok results, next) =>
          let u := (t.searched plan.toFind next).logged (.primaryQueryComplete results.length)
          if plan.includeChildren && plan.projection.isFull && !results.isEmpty then
            (selector.expand store results).runIn u
          else
            (.ok (results.map Tree.leaf), u) := by
  rw [execute, runIn_bind, runIn_acquire]
  rcases store.acquire request s.store with ⟨cause | ⟨⟩, next⟩
  · rfl
  · dsimp only [Except.mapError]
    rw [runIn_bind_ok (runIn_count _ _ _), runIn_bind_ok (runIn_count _ _ _), runIn_bind,
      runIn_find, Session.store_counted, Session.store_counted, Session.store_acquired]
    rcases store.find plan.toFind next with ⟨_ | results, last⟩
    · rfl
    · dsimp only [Except.mapError]
      rw [runIn_bind_ok (runIn_emit _ _)]
      split
      · rfl
      · rfl

/-- Dropped terms are counted; a query without a plan asks nothing of the store. -/
theorem runIn_run (selector : Selector) (store : Store σ) (request : Request) (q : Query)
    (s : Session σ) :
    (selector.run store request q).runIn s =
      let assembly := q.assemble selector.layout
      let t := if 0 < assembly.dropped then
        (s.counted .termsDropped assembly.dropped).logged (.termsDropped assembly.dropped) else s
      match assembly.plan? with
      | none => (.ok [], (t.counted .selectsShortCircuited 1).logged .selectShortCircuit)
      | some plan => (selector.execute store request plan).runIn t := by
  rw [run]
  dsimp only
  split
  · cases (q.assemble selector.layout).plan? with
    | none => rfl
    | some plan => rfl
  · cases (q.assemble selector.layout).plan? with
    | none => rfl
    | some plan => rfl

/-- A select logs its start and its end, and counts a failure. -/
theorem selectIn_eq (selector : Selector) (store : Store σ) (request : Request) (q : Query)
    (s : Session σ) :
    selector.selectIn store request q s =
      match (selector.run store request q).runIn
        (s.logged (.selectStart q.terms.search.length q.terms.skeleton.length)) with
      | (.ok forest, t) => (.ok forest, t.logged (.selectComplete forest.length))
      | (.error e, t) => (.error e, (t.counted .selectsFailed 1).logged (.selectFailed e)) := by
  change (selector.select store request q).runIn s = _
  rw [select, runIn_bind_ok (runIn_emit _ _)]
  rw [runIn_bind, runIn_tryCatch, runIn_bind]
  rcases (selector.run store request q).runIn
      (s.logged (.selectStart q.terms.search.length q.terms.skeleton.length)) with ⟨_ | _, t⟩
  · rfl
  · rfl

end Selector

end ForestQuery
