import ForestQuery.Proofs.Select.Courses

/-!
# What a course decides

The course of a select decides all that the select does: what it returns, what it logs, what it asks
for, and the state in which it leaves the store. And what the store replies decides the course, so a
select goes the same way on any two stores that reply the same to it.

## Key results

- `Selector.Takes.exists_selectIn`: what a select on a course comes to
- `Selector.Takes.of_replies`: a select goes the same way on a store that replies the same
-/

namespace ForestQuery

variable {σ : Type}

/-! ### The log of a course -/

/-- The event that ends a select. -/
def Event.ofOutcome : Except SelectError (List Tree) → Event
  | .ok forest => .selectComplete forest.length
  | .error e => .selectFailed e

/-- The event for dropped terms, if there are any. -/
def Query.dropEvents (q : Query) (l : Layout) : List Event :=
  if 0 < (q.assemble l).dropped then [.termsDropped (q.assemble l).dropped] else []

namespace Course

/-- What is logged when fetched documents are linked under results. -/
def mergeEvents (l : Layout) (results fetched : List Json) : List Event :=
  let linked := link (l.records results) (l.records fetched)
  let orphaned := linked.orphaned + (fetched.length - (l.records fetched).length)
  .treeMerged linked.forest.length linked.attached ::
    if 0 < orphaned then [.descendantsOrphaned orphaned] else []

/-- What a select logs on its way, but for its start, dropped terms and its end. -/
def events (l : Layout) : Course → List Event
  | idle => [.selectShortCircuit]
  | refused _ | unanswered _ _ => []
  | flat _ results | malformed _ results | cutShort _ results _ _ =>
    [.primaryQueryComplete results.length]
  | linked _ results _ fetched =>
    .primaryQueryComplete results.length :: .descendantQueryComplete fetched.length ::
      mergeEvents l results fetched

/-- What a select on a query logs. -/
def log (l : Layout) (q : Query) (course : Course) : List Event :=
  .selectStart q.terms.search.length q.terms.skeleton.length ::
    (q.dropEvents l ++ course.events l ++ [.ofOutcome (course.result l)])

end Course

/-- A session goes on in another: with these events in the log, these finds asked for, and the store
in this state. -/
structure Session.Continues (s u : Session σ) (events : List Event) (finds : List Find) (t : σ) :
    Prop where
  /-- The events are logged. -/
  log : u.log = s.log ++ events
  /-- The finds are asked for. -/
  finds : u.finds = s.finds ++ finds
  /-- The store is left in this state. -/
  store : u.store = t

namespace Selector

section

variable {selector : Selector} {store : Store σ} {request : Request} {q : Query} {plan : Plan}
  {results : List Json} {course : Course} {s : Session σ} {t : σ}

/-- Once there are results, they are expanded or returned. -/
theorem Finds.exists_runIn_execute
    (hfinds : selector.Finds store request q s.store plan results t) :
    ∃ u, s.Continues u [.primaryQueryComplete results.length] [plan.toFind] t ∧
      (q.Expands results → (selector.execute store request plan).runIn s =
        (selector.expand store results).runIn u) ∧
      (¬ q.Expands results →
        (selector.execute store request plan).runIn s = (.ok (results.map .leaf), u)) := by
  obtain ⟨hplan, v, hacquire, hfind⟩ := hfinds
  rw [runIn_execute, hacquire]
  dsimp only
  rw [hfind, ← Query.expands_iff hplan]
  refine ⟨_, ⟨?_, ?_, ?_⟩, fun hexpands => if_pos hexpands, fun hplain => if_neg hplain⟩
  · simp
  · simp
  · simp

/-- Results with descendants to look for are expanded by a second find. -/
theorem Seeks.runIn_expand {filter : Predicate} (hseeks : selector.Seeks q results filter)
    (u : Session σ) :
    (selector.expand store results).runIn u =
      let t := u.counted .descendantQueries 1
      match store.find ⟨filter, .full, none⟩ u.store with
      | (.error cause, next) =>
        (.error (.descendantQuery cause), t.searched ⟨filter, .full, none⟩ next)
      | (.ok fetched, next) =>
        (selector.merge (selector.layout.records results) fetched).runIn
          ((t.searched ⟨filter, .full, none⟩ next).logged
            (.descendantQueryComplete fetched.length)) := by
  rw [Selector.runIn_expand, mapM_ofDocument? hseeks.decodes]
  dsimp only
  rewrite [hseeks.filtered]
  rfl

/-- A plan is run as the course says. -/
theorem Takes.exists_runIn_execute (htakes : selector.Takes store request q s.store course t)
    (hplan : selector.plan? q = some plan) :
    ∃ u, (selector.execute store request plan).runIn s = (course.result selector.layout, u) ∧
      s.Continues u (course.events selector.layout) course.finds t := by
  cases htakes with
  | idle hnone => exact nomatch hplan.symm.trans hnone
  | refused _ hacquire =>
    rw [runIn_execute, hacquire]
    refine ⟨_, rfl, ?_, ?_, rfl⟩
    · exact (List.append_nil _).symm
    · exact (List.append_nil _).symm
  | unanswered hplan' hacquire hfind =>
    obtain rfl := Option.some.inj (hplan.symm.trans hplan')
    rw [runIn_execute, hacquire]
    dsimp only
    rw [hfind]
    exact ⟨_, rfl, (List.append_nil _).symm, rfl, rfl⟩
  | plain hfinds hplain =>
    obtain rfl := Option.some.inj (hplan.symm.trans hfinds.planned)
    obtain ⟨u, hu, -, hrun⟩ := hfinds.exists_runIn_execute
    exact ⟨u, hrun hplain, hu⟩
  | childless hfinds hexpands hdecodes hnone =>
    obtain rfl := Option.some.inj (hplan.symm.trans hfinds.planned)
    obtain ⟨u, hu, hrun, -⟩ := hfinds.exists_runIn_execute
    refine ⟨u, ?_, hu⟩
    rw [hrun hexpands, Selector.runIn_expand, mapM_ofDocument? hdecodes]
    dsimp only
    rw [hnone]
    -- the documents of the records are the results
    have hdocuments := congrArg (List.map Tree.leaf) (map_document_records hdecodes)
    rw [List.map_map] at hdocuments
    exact congrArg (fun forest => (Except.ok forest, u)) hdocuments
  | malformed hfinds hexpands hmem hnone =>
    obtain rfl := Option.some.inj (hplan.symm.trans hfinds.planned)
    obtain ⟨u, hu, hrun, -⟩ := hfinds.exists_runIn_execute
    refine ⟨u, ?_, hu⟩
    rw [hrun hexpands, Selector.runIn_expand, mapM_ofDocument?_eq_none hmem hnone]
    rfl
  | cutShort hfinds hseeks hsecond =>
    obtain rfl := Option.some.inj (hplan.symm.trans hfinds.planned)
    obtain ⟨u, ⟨hlog, hasked, rfl⟩, hrun, -⟩ := hfinds.exists_runIn_execute
    rw [hrun hseeks.expands, hseeks.runIn_expand]
    dsimp only
    rw [hsecond]
    refine ⟨_, rfl, hlog, ?_, rfl⟩
    simp [hasked, Course.finds]
  | linked hfinds hseeks hsecond =>
    obtain rfl := Option.some.inj (hplan.symm.trans hfinds.planned)
    obtain ⟨u, ⟨hlog, hasked, rfl⟩, hrun, -⟩ := hfinds.exists_runIn_execute
    rw [hrun hseeks.expands, hseeks.runIn_expand]
    dsimp only
    rw [hsecond]
    dsimp only
    rw [runIn_merge, merged_eq]
    refine ⟨_, rfl, ?_, ?_, ?_⟩
    · simp only [Session.log_noted, Session.log_logged, Session.log_counted, Session.log_searched,
        hlog, List.append_assoc, List.singleton_append]
      rfl
    · simp [hasked, Course.finds]
    · simp

/-- A query is run as the course says, once dropped terms are logged. -/
theorem Takes.exists_runIn_run (htakes : selector.Takes store request q s.store course t) :
    ∃ u, (selector.run store request q).runIn s = (course.result selector.layout, u) ∧
      s.Continues u (q.dropEvents selector.layout ++ course.events selector.layout) course.finds
        t := by
  rw [runIn_run]
  dsimp only
  generalize hu : (if 0 < (q.assemble selector.layout).dropped then _ else s) = u
  replace hu : s.noted .termsDropped (q.assemble selector.layout).dropped
    (.termsDropped (q.assemble selector.layout).dropped) = u := hu
  have hstore : u.store = s.store := by simp [← hu]
  have hlog : u.log = s.log ++ q.dropEvents selector.layout := by simp [← hu, Query.dropEvents]
  have hasked : u.finds = s.finds := by simp [← hu]
  cases hplan : (q.assemble selector.layout).plan? with
  | none =>
    obtain ⟨rfl, rfl⟩ := htakes.eq_idle hplan
    refine ⟨_, rfl, ?_, ?_, ?_⟩
    · simp [hlog, Course.events]
    · simp [hasked, Course.finds]
    · simp [hstore]
  | some plan =>
    rw [← hstore] at htakes
    obtain ⟨v, hrun, hv⟩ := htakes.exists_runIn_execute hplan
    refine ⟨v, hrun, ?_, ?_, hv.store⟩
    · rw [hv.log, hlog, List.append_assoc]
    · rw [hv.finds, hasked]

/-- A select on a course returns the result of the course, logs its events, and asks for its
finds. -/
theorem Takes.exists_selectIn (htakes : selector.Takes store request q s.store course t) :
    ∃ u, selector.selectIn store request q s = (course.result selector.layout, u) ∧
      s.Continues u (course.log selector.layout q) course.finds t := by
  rw [selectIn_eq]
  obtain ⟨u, hrun, hu⟩ := Takes.exists_runIn_run
    (s := s.logged (.selectStart q.terms.search.length q.terms.skeleton.length)) htakes
  rw [hrun]
  cases hresult : course.result selector.layout with
  | ok forest =>
    refine ⟨_, rfl, ?_, hu.finds, hu.store⟩
    simp [hu.log, Course.log, hresult, Event.ofOutcome]
  | error e =>
    refine ⟨_, rfl, ?_, hu.finds, hu.store⟩
    simp [hu.log, Course.log, hresult, Event.ofOutcome]

end

/-! ### What decides the course -/

section

variable {selector : Selector} {store : Store σ} {request : Request} {q : Query} {plan : Plan}
  {course : Course} {s t : σ} {τ : Type} {store' : Store τ} {s' : τ}

/-- A find is answered first, and then those after it. -/
theorem exists_find_of_answer {find : Find} {rest : List Find}
    {reply : Except StoreError (List Json)} {replies : List (Except StoreError (List Json))}
    (hreplies : (store.answer (find :: rest) s).1 = reply :: replies) :
    ∃ u, store.find find s = (reply, u) ∧ (store.answer rest u).1 = replies := by
  rw [Store.answer] at hreplies
  obtain ⟨hreply, hrest⟩ := List.cons.inj hreplies
  exact ⟨(store.find find s).2, Prod.ext hreply rfl, hrest⟩

/-- A select with results from a store gets them from every store that replies the same. -/
theorem Finds.of_replies {results : List Json}
    (hfinds : selector.Finds store request q s plan results t) {rest : List Find}
    {replies : List (Except StoreError (List Json))}
    (hacquire : (store'.acquire request s').1 = (store.acquire request s).1)
    (hreplies : (store'.answer (plan.toFind :: rest) (store'.acquire request s').2).1 =
      .ok results :: replies) :
    ∃ t', selector.Finds store' request q s' plan results t' ∧
      (store'.answer rest t').1 = replies := by
  obtain ⟨hplan, u, hu, -⟩ := hfinds
  obtain ⟨t', hfind, hrest⟩ := exists_find_of_answer hreplies
  rw [hu] at hacquire
  exact ⟨t', ⟨hplan, _, Prod.ext hacquire rfl, hfind⟩, hrest⟩

/-- A select goes the same way on a store that replies the same to it. -/
theorem Takes.of_replies (htakes : selector.Takes store request q s course t)
    (hacquire : (store'.acquire request s').1 = (store.acquire request s).1)
    (hreplies : (store'.answer course.finds (store'.acquire request s').2).1 = course.replies) :
    ∃ t', selector.Takes store' request q s' course t' := by
  cases htakes with
  | idle hplan => exact ⟨s', .idle hplan⟩
  | refused hplan hu =>
    rw [hu] at hacquire
    exact ⟨_, .refused hplan (Prod.ext hacquire rfl)⟩
  | unanswered hplan hu hfind =>
    rw [hu] at hacquire
    obtain ⟨t', hfind', -⟩ := exists_find_of_answer hreplies
    exact ⟨t', .unanswered hplan (Prod.ext hacquire rfl) hfind'⟩
  | plain hfinds hplain =>
    obtain ⟨t', hfinds', -⟩ := hfinds.of_replies hacquire hreplies
    exact ⟨t', .plain hfinds' hplain⟩
  | childless hfinds hexpands hdecodes hnone =>
    obtain ⟨t', hfinds', -⟩ := hfinds.of_replies hacquire hreplies
    exact ⟨t', .childless hfinds' hexpands hdecodes hnone⟩
  | malformed hfinds hexpands hmem hnone =>
    obtain ⟨t', hfinds', -⟩ := hfinds.of_replies hacquire hreplies
    exact ⟨t', .malformed hfinds' hexpands hmem hnone⟩
  | cutShort hfinds hseeks _ =>
    obtain ⟨u, hfinds', hrest⟩ := hfinds.of_replies hacquire hreplies
    obtain ⟨t', hsecond, -⟩ := exists_find_of_answer hrest
    exact ⟨t', .cutShort hfinds' hseeks hsecond⟩
  | linked hfinds hseeks _ =>
    obtain ⟨u, hfinds', hrest⟩ := hfinds.of_replies hacquire hreplies
    obtain ⟨t', hsecond, -⟩ := exists_find_of_answer hrest
    exact ⟨t', .linked hfinds' hseeks hsecond⟩

end

end Selector

end ForestQuery
