import ForestQuery.Proofs.Plan.Assembly
import ForestQuery.Proofs.Select.Records
import ForestQuery.Proofs.Select.Steps

/-!
# The courses of a select

A select goes in one of seven ways, depending on what the query asks for and on the replies of the
store. `Course` lists them with what was found on the way, and `Selector.Takes` says when a select
goes in which way. What a select returns, what it asks of the store and what it counts are functions
of its course, so nothing else has to look into the steps of a select.

## Key results

- `Selector.Takes.answer_finds`: a course goes by what the store replies to its finds
- `Selector.exists_takes`: every select takes a course, and leaves what the course leaves
-/

namespace ForestQuery

variable {σ : Type}

/-! ### Replies of a store -/

/-- What a store replies to finds that are asked one after another, and the state that it is left
in. -/
def Store.answer (store : Store σ) : List Find → σ → List (Except StoreError (List Json)) × σ
  | [], s => ([], s)
  | find :: rest, s =>
    let (reply, t) := store.find find s
    let (replies, u) := store.answer rest t
    (reply :: replies, u)

/-- Whole records with their descendants are wanted, and there are results to expand. -/
def Query.Expands (q : Query) (results : List Json) : Prop :=
  q.modifier.laststep = true ∧ q.modifier.tree = true ∧ results ≠ []

/-- The results of a plan are to be expanded. -/
theorem Query.expands_iff {l : Layout} {q : Query} {plan : Plan}
    (hplan : (q.assemble l).plan? = some plan) (results : List Json) :
    (plan.includeChildren && plan.projection.isFull && !results.isEmpty) = true ↔
      q.Expands results := by
  rw [assemble_eq] at hplan
  split at hplan
  · exact nomatch hplan
  · obtain rfl := Option.some.inj hplan
    rw [Expands, Modifier.includesChildren]
    cases q.modifier.laststep <;> simp [Projection.isFull]

/-- A select on a query gets results from a store for its plan. -/
structure Selector.Finds (selector : Selector) (store : Store σ) (request : Request) (q : Query)
    (s : σ) (plan : Plan) (results : List Json) (t : σ) : Prop where
  /-- The query has a plan. -/
  planned : selector.plan? q = some plan
  /-- The store hands out a collection, and finds the results in it. -/
  replied : ∃ u, store.acquire request s = (.ok (), u) ∧
    store.find plan.toFind u = (.ok results, t)

/-- A select goes on from its results to the find for their descendants. -/
structure Selector.Seeks (selector : Selector) (q : Query) (results : List Json)
    (filter : Predicate) : Prop where
  /-- The results are to be expanded. -/
  expands : q.Expands results
  /-- All of them have skeletons. -/
  decodes : ∀ document ∈ results, (Skeleton.ofDocument? selector.layout document).isSome
  /-- There are descendants to look for. -/
  filtered :
    selector.descent.filter? selector.layout (selector.layout.records results) = some filter

/-! ### Courses -/

/-- The ways in which a select can go. -/
inductive Course
  /-- There is nothing to look for. -/
  | idle
  /-- No collection is handed out. -/
  | refused (cause : StoreError)
  /-- The find for the results fails. -/
  | unanswered (plan : Plan) (cause : StoreError)
  /-- The results are returned without descendants. -/
  | flat (plan : Plan) (results : List Json)
  /-- A result that should be expanded has no skeleton. -/
  | malformed (plan : Plan) (results : List Json)
  /-- The find for the descendants fails. -/
  | cutShort (plan : Plan) (results : List Json) (filter : Predicate) (cause : StoreError)
  /-- The descendants are linked under the results. -/
  | linked (plan : Plan) (results : List Json) (filter : Predicate) (fetched : List Json)

/-- The course that a select takes on a store in a state, and the state that it leaves. -/
inductive Selector.Takes (selector : Selector) (store : Store σ) (request : Request) (q : Query)
    (s : σ) : Course → σ → Prop
  | idle (hplan : selector.plan? q = none) : Takes selector store request q s .idle s
  | refused {plan cause t} (hplan : selector.plan? q = some plan)
      (hacquire : store.acquire request s = (.error cause, t)) :
      Takes selector store request q s (.refused cause) t
  | unanswered {plan cause t u} (hplan : selector.plan? q = some plan)
      (hacquire : store.acquire request s = (.ok (), t))
      (hfind : store.find plan.toFind t = (.error cause, u)) :
      Takes selector store request q s (.unanswered plan cause) u
  | plain {plan results t} (hfinds : selector.Finds store request q s plan results t)
      (hplain : ¬ q.Expands results) : Takes selector store request q s (.flat plan results) t
  | childless {plan results t} (hfinds : selector.Finds store request q s plan results t)
      (hexpands : q.Expands results)
      (hdecodes : ∀ document ∈ results, (Skeleton.ofDocument? selector.layout document).isSome)
      (hnone : selector.descent.filter? selector.layout (selector.layout.records results) = none) :
      Takes selector store request q s (.flat plan results) t
  | malformed {plan results document t}
      (hfinds : selector.Finds store request q s plan results t) (hexpands : q.Expands results)
      (hmem : document ∈ results)
      (hnone : Skeleton.ofDocument? selector.layout document = none) :
      Takes selector store request q s (.malformed plan results) t
  | cutShort {plan results filter cause t u}
      (hfinds : selector.Finds store request q s plan results t)
      (hseeks : selector.Seeks q results filter)
      (hfind : store.find ⟨filter, .full, none⟩ t = (.error cause, u)) :
      Takes selector store request q s (.cutShort plan results filter cause) u
  | linked {plan results filter fetched t u}
      (hfinds : selector.Finds store request q s plan results t)
      (hseeks : selector.Seeks q results filter)
      (hfind : store.find ⟨filter, .full, none⟩ t = (.ok fetched, u)) :
      Takes selector store request q s (.linked plan results filter fetched) u

namespace Course

/-- What the select returns. -/
def result (l : Layout) : Course → Except SelectError (List Tree)
  | idle => .ok []
  | refused cause => .error (.acquisition cause)
  | unanswered _ cause => .error (.primaryQuery cause)
  | flat _ results => .ok (results.map .leaf)
  | malformed _ _ => .error (.noSkeleton l)
  | cutShort _ _ _ cause => .error (.descendantQuery cause)
  | linked _ results _ fetched => .ok (link (l.records results) (l.records fetched)).forest

/-- The number of times that a collection is asked for. -/
def acquisitions : Course → Nat
  | idle => 0
  | _ => 1

/-- The finds that are asked for. -/
def finds : Course → List Find
  | idle | refused _ => []
  | unanswered plan _ | flat plan _ | malformed plan _ => [plan.toFind]
  | cutShort plan _ filter _ | linked plan _ filter _ => [plan.toFind, ⟨filter, .full, none⟩]

/-- The replies of the store to these finds. -/
def replies : Course → List (Except StoreError (List Json))
  | idle | refused _ => []
  | unanswered _ cause => [.error cause]
  | flat _ results | malformed _ results => [.ok results]
  | cutShort _ results _ cause => [.ok results, .error cause]
  | linked _ results _ fetched => [.ok results, .ok fetched]

/-- How far the select lets a counter count on its way, but for dropped terms and failures. -/
def tally (l : Layout) : Course → Counter → Nat
  | idle, .selectsShortCircuited => 1
  | idle, _ => 0
  | refused _, _ => 0
  | _, .selectsExecuted | _, .primaryQueries => 1
  | cutShort .., .descendantQueries | linked .., .descendantQueries => 1
  | linked _ results _ fetched, .descendantsAttached =>
    (link (l.records results) (l.records fetched)).attached
  | linked _ results _ fetched, .descendantsOrphaned =>
    (link (l.records results) (l.records fetched)).orphaned +
      (fetched.length - (l.records fetched).length)
  | _, _ => 0

@[simp] theorem tally_termsDropped (l : Layout) (course : Course) :
    course.tally l .termsDropped = 0 := by
  cases course <;> rfl

@[simp] theorem tally_selectsFailed (l : Layout) (course : Course) :
    course.tally l .selectsFailed = 0 := by
  cases course <;> rfl

/-- How far a select on a query lets a counter count in all. -/
def count (l : Layout) (q : Query) (course : Course) : Counter → Nat
  | .termsDropped => (q.assemble l).dropped
  | .selectsFailed => if (course.result l).isOk then 0 else 1
  | c => course.tally l c

end Course

namespace Selector.Takes

variable {selector : Selector} {store : Store σ} {request : Request} {q : Query} {plan : Plan}
  {s t : σ} {course : Course}

theorem eq_idle (htakes : selector.Takes store request q s course t)
    (hnone : selector.plan? q = none) : course = .idle ∧ t = s := by
  cases htakes with
  | idle => exact ⟨rfl, rfl⟩
  | refused hplan | unanswered hplan => exact nomatch hnone.symm.trans hplan
  | plain hfinds | childless hfinds | malformed hfinds | cutShort hfinds | linked hfinds =>
    exact nomatch hnone.symm.trans hfinds.planned

/-- A select with a plan asks for a collection, and then for the finds of its course. -/
theorem answer_finds (htakes : selector.Takes store request q s course t)
    (hplan : selector.plan? q = some plan) :
    store.answer course.finds (store.acquire request s).2 = (course.replies, t) := by
  cases htakes with
  | idle hnone => exact nomatch hplan.symm.trans hnone
  | refused _ hacquire => simp [Course.finds, Course.replies, Store.answer, hacquire]
  | unanswered _ hacquire hfind =>
    simp [Course.finds, Course.replies, Store.answer, hacquire, hfind]
  | plain hfinds | childless hfinds | malformed hfinds =>
    obtain ⟨u, hacquire, hfind⟩ := hfinds.replied
    simp [Course.finds, Course.replies, Store.answer, hacquire, hfind]
  | cutShort hfinds _ hsecond | linked hfinds _ hsecond =>
    obtain ⟨u, hacquire, hfind⟩ := hfinds.replied
    simp [Course.finds, Course.replies, Store.answer, hacquire, hfind, hsecond]

end Selector.Takes

/-! ### What a course leaves -/

/-- What a course leaves in a session, with what is counted on the way. -/
structure Course.Leaves (course : Course) (tally : Counter → Nat) (s t : Session σ) : Prop where
  /-- The collection is asked for. -/
  acquisitions : t.acquisitions = s.acquisitions + course.acquisitions
  /-- The finds are asked for. -/
  finds : t.finds = s.finds ++ course.finds
  /-- The counters count further. -/
  counters : ∀ c, t.counters.get c = s.counters.get c + .ofNat (tally c)

namespace Selector

theorem merged_eq (s : Session σ) (roots attached orphaned : Nat) :
    merged s roots attached orphaned =
      ((s.counted .descendantsAttached attached).logged (.treeMerged roots attached)).noted
        .descendantsOrphaned orphaned (.descendantsOrphaned orphaned) := rfl

section

variable {selector : Selector} {store : Store σ} {request : Request} {q : Query} {plan : Plan}
  {results : List Json}

/-- Results are expanded on one of the courses that go on from them, in a session like the one that
they would leave without descendants. -/
theorem exists_takes_expand {s t : Session σ}
    (hfinds : selector.Finds store request q s.store plan results t.store)
    (hexpands : q.Expands results)
    (ht : (Course.flat plan results).Leaves ((Course.flat plan results).tally selector.layout)
      s t) :
    ∃ course u, (selector.expand store results).runIn t = (course.result selector.layout, u) ∧
      selector.Takes store request q s.store course u.store ∧
      course.Leaves (course.tally selector.layout) s u := by
  obtain ⟨hacquisitions, hasked, hcounters⟩ := ht
  rw [runIn_expand]
  by_cases hdecodes : ∀ document ∈ results, (Skeleton.ofDocument? selector.layout document).isSome
  · rw [mapM_ofDocument? hdecodes]
    dsimp only
    cases hfilter : selector.descent.filter? selector.layout (selector.layout.records results) with
    | none =>
      refine ⟨.flat plan results, t, ?_, .childless hfinds hexpands hdecodes hfilter,
        hacquisitions, hasked, hcounters⟩
      -- the documents of the records are the results
      have hdocuments := congrArg (List.map Tree.leaf) (map_document_records hdecodes)
      rw [List.map_map] at hdocuments
      exact congrArg (fun forest => (Except.ok forest, t)) hdocuments
    | some filter =>
      have hseeks : selector.Seeks q results filter := ⟨hexpands, hdecodes, hfilter⟩
      dsimp only
      rcases hfind : store.find ⟨filter, .full, none⟩ t.store with ⟨cause | fetched, v⟩
      · refine ⟨.cutShort plan results filter cause, _, rfl, .cutShort hfinds hseeks hfind, ?_⟩
        refine ⟨hacquisitions, ?_, fun c => ?_⟩
        · simp [hasked, Course.finds]
        · simp only [Session.counters_searched, Session.get_counted, hcounters]
          cases c <;> simp [Course.tally]
      · dsimp only
        rw [runIn_merge, merged_eq]
        refine ⟨.linked plan results filter fetched, _, rfl, ?_, ?_, ?_, fun c => ?_⟩
        · simpa using Takes.linked hfinds hseeks hfind
        · simpa [Course.acquisitions] using hacquisitions
        · simp [hasked, Course.finds]
        · simp only [Session.get_noted, Session.counters_logged, Session.get_counted,
            Session.counters_searched, hcounters]
          cases c <;> simp [Course.tally, Layout.records]
  · -- one result without a skeleton is enough to fail
    obtain ⟨document, hmem, hnone⟩ := not_forall_isSome_iff.1 hdecodes
    rw [mapM_ofDocument?_eq_none hmem hnone]
    refine ⟨.malformed plan results, t, rfl, .malformed hfinds hexpands hmem hnone,
      hacquisitions, hasked, fun c => ?_⟩
    rw [hcounters]
    cases c <;> rfl

/-- A plan is run on one of the courses that start from it. -/
theorem exists_takes_execute (hplan : selector.plan? q = some plan) (s : Session σ) :
    ∃ course t, (selector.execute store request plan).runIn s = (course.result selector.layout, t) ∧
      selector.Takes store request q s.store course t.store ∧
      course.Leaves (course.tally selector.layout) s t := by
  rw [runIn_execute]
  rcases hacquire : store.acquire request s.store with ⟨cause | ⟨⟩, u⟩
  · refine ⟨.refused cause, _, rfl, .refused hplan hacquire, rfl, (List.append_nil _).symm, ?_⟩
    intro c
    simp [Course.tally]
  dsimp only
  rcases hfind : store.find plan.toFind u with ⟨cause | results, v⟩
  · refine ⟨.unanswered plan cause, _, rfl, .unanswered hplan hacquire hfind, rfl, rfl, ?_⟩
    intro c
    cases c <;> simp [Course.tally]
  dsimp only
  have hfinds : selector.Finds store request q s.store plan results v :=
    ⟨hplan, u, hacquire, hfind⟩
  -- the session with the results at hand is the one that the flat course leaves
  generalize ht : Session.logged _ (.primaryQueryComplete results.length) = t
  have hstore : t.store = v := by rw [← ht]; rfl
  have hleaves : (Course.flat plan results).Leaves
      ((Course.flat plan results).tally selector.layout) s t := by
    subst ht
    refine ⟨rfl, rfl, fun c => ?_⟩
    cases c <;> simp [Course.tally]
  subst hstore
  split
  · next hexpanded =>
    exact exists_takes_expand hfinds ((Query.expands_iff hplan results).1 hexpanded) hleaves
  · next hplain =>
    exact ⟨.flat plan results, t, rfl,
      .plain hfinds fun hexpands => hplain ((Query.expands_iff hplan results).2 hexpands), hleaves⟩

/-- A query is run on one of the courses, once its dropped terms are counted. -/
theorem exists_takes_run (selector : Selector) (store : Store σ) (request : Request) (q : Query)
    (s : Session σ) :
    ∃ course t, (selector.run store request q).runIn s = (course.result selector.layout, t) ∧
      selector.Takes store request q s.store course t.store ∧
      course.Leaves (fun c => course.tally selector.layout c +
        if c = .termsDropped then (q.assemble selector.layout).dropped else 0) s t := by
  rw [runIn_run]
  dsimp only
  -- dropped terms are counted before anything else, on every course
  generalize hu : (if 0 < (q.assemble selector.layout).dropped then _ else s) = u
  replace hu : s.noted .termsDropped (q.assemble selector.layout).dropped
    (.termsDropped (q.assemble selector.layout).dropped) = u := hu
  have hstore : u.store = s.store := by simp [← hu]
  have hacquisitions : u.acquisitions = s.acquisitions := by simp [← hu]
  have hasked : u.finds = s.finds := by simp [← hu]
  have hcounters (c : Counter) : u.counters.get c = s.counters.get c +
      if c = .termsDropped then .ofNat (q.assemble selector.layout).dropped else 0 := by
    simp [← hu]
  cases hplan : (q.assemble selector.layout).plan? with
  | none =>
    refine ⟨.idle, _, rfl, ?_, ?_, ?_, fun c => ?_⟩
    · simpa [hstore] using Takes.idle hplan
    · exact hacquisitions
    · simpa [Course.finds] using hasked
    · simp only [Session.counters_logged, Session.get_counted, hcounters]
      cases c <;> simp [Course.tally]
  | some plan =>
    obtain ⟨course, t, hrun, htakes, hleaves⟩ := exists_takes_execute hplan u
    refine ⟨course, t, hrun, hstore ▸ htakes, ?_, ?_, fun c => ?_⟩
    · rw [hleaves.acquisitions, hacquisitions]
    · rw [hleaves.finds, hasked]
    · rw [hleaves.counters, hcounters, UInt64.ofNat_add]
      split
      · rw [UInt64.add_assoc, UInt64.add_comm (.ofNat _) (.ofNat _)]
      · simp

end

/-- Every select takes a course, and leaves what the course leaves. -/
theorem exists_takes (selector : Selector) (store : Store σ) (request : Request) (q : Query)
    (s : Session σ) :
    ∃ course t, selector.selectIn store request q s = (course.result selector.layout, t) ∧
      selector.Takes store request q s.store course t.store ∧
      course.Leaves (course.count selector.layout q) s t := by
  obtain ⟨course, t, hrun, htakes, hleaves⟩ := exists_takes_run selector store request q
    (s.logged (.selectStart q.terms.search.length q.terms.skeleton.length))
  rw [selectIn_eq, hrun]
  -- a failure is counted last, whatever stage it comes from
  cases hresult : course.result selector.layout with
  | ok forest =>
    refine ⟨course, t.logged (.selectComplete forest.length), congrArg (·, _) hresult.symm, htakes,
      hleaves.acquisitions, hleaves.finds, fun c => ?_⟩
    rw [Session.counters_logged, hleaves.counters]
    cases c <;> simp [Course.count, hresult, Except.isOk, Except.toBool]
  | error e =>
    refine ⟨course, (t.counted .selectsFailed 1).logged (.selectFailed e),
      congrArg (·, _) hresult.symm, htakes, hleaves.acquisitions, hleaves.finds, fun c => ?_⟩
    rw [Session.counters_logged, Session.get_counted, hleaves.counters]
    cases c <;> simp [Course.count, hresult, Except.isOk, Except.toBool]

end Selector

end ForestQuery
