import ForestQuery.Proofs.Select.Courses
import ForestQuery.Store.Memory

/-!
# What a select asks of a store

A select talks to a store in a fixed way, whatever the store replies. It asks for a collection only
if some search term is known, looks for results only if it was handed one, and looks for descendants
only if whole records with their descendants are wanted, there are results, all of them have
skeletons, and some term of the descent is known. It fails exactly if the store fails one of these
requests or a result that should be expanded has no skeleton.

## Key results

- `Selector.exists_seeks_iff`: when there are descendants to look for, in terms of the descent
- `Selector.failsWith_of_refused`, `Selector.failsWith_of_unanswered`,
  `Selector.failsWith_of_finds`: what can fail, as far as the store has replied
- `Selector.Takes.length_finds_eq_two_iff`, `Selector.Takes.result_eq_error_iff`: when a course has
  a second find, and how it fails
- `Selector.selectIn_keepsProtocol`: what is asked, in which order, and how a select fails
-/

namespace ForestQuery

variable {σ : Type}

/-- There is nothing to look for exactly if no term of the descent is known. -/
theorem Descent.filter?_eq_none_iff (descent : Descent) (l : Layout) (records : List Record) :
    descent.filter? l records = none ↔
      ∀ node ∈ descent l.treePrefix (records.map (·.skeleton)), ∀ term ∈ node.leaves,
        term.isRegistered = false := by
  rw [filter?, filterOf_eq_none_iff, Compilation.ofNodes, List.filterMap_eq_nil_iff]
  exact forall₂_congr fun node _ => TermNode.predicate?_eq_none_iff l node

namespace Course

theorem length_finds_le (course : Course) : course.finds.length ≤ 2 := by
  cases course <;> simp [finds]

/-- A second find is for whole records, and sets no limit. -/
theorem eq_full_of_second (course : Course) (find : Find) (hsecond : course.finds[1]? = some find) :
    find.projection = .full ∧ find.limit = none := by
  cases course with
  | idle | refused | unanswered | flat | malformed => exact nomatch hsecond
  | cutShort | linked =>
    obtain rfl := Option.some.inj hsecond
    exact ⟨rfl, rfl⟩

end Course

namespace Selector

/-- Results descend if a second find is due: whole records with their descendants are wanted, there
are results, all of them have skeletons, and the descent makes some known term of these. -/
structure Descends (selector : Selector) (q : Query) (results : List Json) : Prop where
  /-- Whole records are wanted. -/
  laststep : q.modifier.laststep = true
  /-- Their descendants are wanted too. -/
  tree : q.modifier.tree = true
  /-- There are results. -/
  nonempty : results ≠ []
  /-- All of them have skeletons. -/
  decodes : ∀ document ∈ results, (Skeleton.ofDocument? selector.layout document).isSome
  /-- The descent makes a known term of their skeletons. -/
  known : ∃ node ∈ selector.descent selector.layout.treePrefix
      (results.filterMap (Skeleton.ofDocument? selector.layout)),
    ∃ term ∈ node.leaves, term.isRegistered = true

/-- There are descendants to look for exactly if the results descend. -/
theorem exists_seeks_iff {selector : Selector} {q : Query} {results : List Json} :
    (∃ filter, selector.Seeks q results filter) ↔ selector.Descends q results := by
  have hknown : (∃ filter, selector.descent.filter? selector.layout
      (selector.layout.records results) = some filter) ↔
      ∃ node ∈ selector.descent selector.layout.treePrefix
        (results.filterMap (Skeleton.ofDocument? selector.layout)),
        ∃ term ∈ node.leaves, term.isRegistered = true := by
    rw [← Option.ne_none_iff_exists', ne_eq, Descent.filter?_eq_none_iff, map_skeleton_records]
    simp
  constructor
  · intro hseeks
    obtain ⟨filter, ⟨hlast, htree, hnonempty⟩, hdecodes, hfilter⟩ := hseeks
    exact ⟨hlast, htree, hnonempty, hdecodes, hknown.1 ⟨filter, hfilter⟩⟩
  · intro hdescends
    obtain ⟨filter, hfilter⟩ := hknown.2 hdescends.known
    exact ⟨filter, ⟨hdescends.laststep, hdescends.tree, hdescends.nonempty⟩, hdescends.decodes,
      hfilter⟩

/-- The errors with which a select on a query with a plan fails, when it has asked a store for some
finds: one for each stage that can fail. -/
inductive FailsWith (selector : Selector) (store : Store σ) (request : Request) (q : Query) (s : σ)
    (plan : Plan) (asked : List Find) : SelectError → Prop
  /-- No collection is handed out. -/
  | acquisition {cause t} (hacquire : store.acquire request s = (.error cause, t)) :
      FailsWith selector store request q s plan asked (.acquisition cause)
  /-- The first find fails. -/
  | primaryQuery {cause t u} (hacquire : store.acquire request s = (.ok (), t))
      (hfind : store.find plan.toFind t = (.error cause, u)) :
      FailsWith selector store request q s plan asked (.primaryQuery cause)
  /-- A result that should be expanded has no skeleton. -/
  | malformedRecord {results document t u} (hacquire : store.acquire request s = (.ok (), t))
      (hfind : store.find plan.toFind t = (.ok results, u)) (hexpands : q.Expands results)
      (hmem : document ∈ results)
      (hnone : Skeleton.ofDocument? selector.layout document = none) :
      FailsWith selector store request q s plan asked (.noSkeleton selector.layout)
  /-- The second find fails. -/
  | descendantQuery {find cause results t u v} (hacquire : store.acquire request s = (.ok (), t))
      (hfirst : store.find plan.toFind t = (.ok results, u)) (hasked : asked = [plan.toFind, find])
      (hsecond : store.find find u = (.error cause, v)) :
      FailsWith selector store request q s plan asked (.descendantQuery cause)

/-- What a select on a query with a plan asks of a store, and how it ends. The replies of the store
are those to exactly these requests, in their order. -/
structure KeepsProtocol (selector : Selector) (store : Store σ) (request : Request) (q : Query)
    (s : Session σ) (plan : Plan) (asked : List Find)
    (outcome : Except SelectError (List Tree) × Session σ) : Prop where
  /-- A collection is asked for once. -/
  acquisitions : outcome.2.acquisitions = s.acquisitions + 1
  /-- These finds are asked for. -/
  finds : outcome.2.finds = s.finds ++ asked
  /-- Nothing else is asked of the store. -/
  state : outcome.2.store = (store.answer asked (store.acquire request s.store).2).2
  /-- Without a collection nothing is looked for. -/
  refused : ∀ cause, (store.acquire request s.store).1 = .error cause → asked = []
  /-- With a collection the first find is that of the plan. -/
  first : (store.acquire request s.store).1 = .ok () → asked.head? = some plan.toFind
  /-- There is a second find exactly if the results of the first descend. -/
  second : asked.length = 2 ↔ ∃ t u results, store.acquire request s.store = (.ok (), t) ∧
    store.find plan.toFind t = (.ok results, u) ∧ selector.Descends q results
  /-- The second find is for whole records, and sets no limit. -/
  second_full : ∀ find, asked[1]? = some find → find.projection = .full ∧ find.limit = none
  /-- There is never a third find. -/
  length_le : asked.length ≤ 2
  /-- The select fails exactly at the stages that can fail. -/
  fails : ∀ e, outcome.1 = .error e ↔ selector.FailsWith store request q s.store plan asked e

section

variable {selector : Selector} {store : Store σ} {request : Request} {q : Query} {s t u : σ}
  {plan : Plan}

/-- A refused request is what fails. -/
theorem failsWith_of_refused {cause : StoreError}
    (hacquire : store.acquire request s = (.error cause, t)) (asked : List Find) (e : SelectError) :
    selector.FailsWith store request q s plan asked e ↔ .acquisition cause = e := by
  constructor
  · intro h
    cases h <;> simp_all
  · rintro rfl
    exact .acquisition hacquire

/-- A first find that fails is what fails. -/
theorem failsWith_of_unanswered {cause : StoreError}
    (hacquire : store.acquire request s = (.ok (), t))
    (hfind : store.find plan.toFind t = (.error cause, u)) (asked : List Find) (e : SelectError) :
    selector.FailsWith store request q s plan asked e ↔ .primaryQuery cause = e := by
  constructor
  · intro h
    cases h <;> simp_all
  · rintro rfl
    exact .primaryQuery hacquire hfind

/-- Once there are results, a result without a skeleton or the second find can fail. -/
theorem failsWith_of_finds {results : List Json}
    (hfinds : selector.Finds store request q s plan results t) (asked : List Find)
    (e : SelectError) :
    selector.FailsWith store request q s plan asked e ↔
      (q.Expands results ∧ (∃ document ∈ results,
        Skeleton.ofDocument? selector.layout document = none) ∧ .noSkeleton selector.layout = e) ∨
      ∃ find cause v, asked = [plan.toFind, find] ∧ store.find find t = (.error cause, v) ∧
        .descendantQuery cause = e := by
  obtain ⟨-, u, hacquire, hfind⟩ := hfinds
  constructor
  · intro h
    -- a store in one state gives one reply, so the stages before the failure went as they did here
    cases h with
    | acquisition hacquire' => exact nomatch hacquire.symm.trans hacquire'
    | primaryQuery hacquire' hfind' =>
      obtain ⟨-, rfl⟩ := Prod.mk.inj (hacquire.symm.trans hacquire')
      exact nomatch hfind.symm.trans hfind'
    | malformedRecord hacquire' hfind' hexpands hmem hnone =>
      obtain ⟨-, rfl⟩ := Prod.mk.inj (hacquire.symm.trans hacquire')
      obtain ⟨hresults, rfl⟩ := Prod.mk.inj (hfind.symm.trans hfind')
      obtain rfl := Except.ok.inj hresults
      exact .inl ⟨hexpands, ⟨_, hmem, hnone⟩, rfl⟩
    | descendantQuery hacquire' hfirst hasked hsecond =>
      obtain ⟨-, rfl⟩ := Prod.mk.inj (hacquire.symm.trans hacquire')
      obtain ⟨-, rfl⟩ := Prod.mk.inj (hfind.symm.trans hfirst)
      exact .inr ⟨_, _, _, hasked, hsecond, rfl⟩
  · intro h
    rcases h with ⟨hexpands, ⟨document, hmem, hnone⟩, rfl⟩ | ⟨find, cause, v, hasked, hsecond, rfl⟩
    · exact .malformedRecord hacquire hfind hexpands hmem hnone
    · exact .descendantQuery hacquire hfind hasked hsecond

/-- The results of a plan descend exactly if there are descendants of them to look for. -/
theorem exists_descends_iff {results : List Json}
    (hfinds : selector.Finds store request q s plan results t) :
    (∃ u v found, store.acquire request s = (.ok (), u) ∧
      store.find plan.toFind u = (.ok found, v) ∧ selector.Descends q found) ↔
      ∃ filter, selector.Seeks q results filter := by
  obtain ⟨-, u, hacquire, hfind⟩ := hfinds
  rw [exists_seeks_iff]
  constructor
  · intro hfound
    obtain ⟨u', v, found, hacquire', hfind', hdescends⟩ := hfound
    obtain ⟨-, rfl⟩ := Prod.mk.inj (hacquire.symm.trans hacquire')
    obtain ⟨hresults, -⟩ := Prod.mk.inj (hfind.symm.trans hfind')
    exact Except.ok.inj hresults ▸ hdescends
  · intro hdescends
    exact ⟨u, t, results, hacquire, hfind, hdescends⟩

theorem Finds.plan_eq {plan' : Plan} {results : List Json}
    (hfinds : selector.Finds store request q s plan' results t)
    (hplan : selector.plan? q = some plan) : plan' = plan :=
  Option.some.inj (hfinds.planned.symm.trans hplan)

namespace Takes

variable {course : Course} (htakes : selector.Takes store request q s course t)
  (hplan : selector.plan? q = some plan)

include htakes

/-- Without a collection nothing is looked for. -/
theorem finds_eq_nil {cause : StoreError}
    (hrefused : (store.acquire request s).1 = .error cause) : course.finds = [] := by
  cases htakes with
  | idle | refused => rfl
  | unanswered _ hacquire => exact nomatch hrefused.symm.trans (congrArg Prod.fst hacquire)
  | plain hfinds | childless hfinds | malformed hfinds | cutShort hfinds | linked hfinds =>
    obtain ⟨u, hacquire, -⟩ := hfinds.replied
    exact nomatch hrefused.symm.trans (congrArg Prod.fst hacquire)

include hplan

theorem acquisitions_eq_one : course.acquisitions = 1 := by
  cases htakes with
  | idle hnone => exact nomatch hplan.symm.trans hnone
  | refused | unanswered | plain | childless | malformed | cutShort | linked => rfl

/-- With a collection, the find of the plan is the first. -/
theorem head?_finds (hacquired : (store.acquire request s).1 = .ok ()) :
    course.finds.head? = some plan.toFind := by
  cases htakes with
  | idle hnone => exact nomatch hplan.symm.trans hnone
  | refused _ hacquire => exact nomatch hacquired.symm.trans (congrArg Prod.fst hacquire)
  | unanswered hplan' =>
    obtain rfl := Option.some.inj (hplan.symm.trans hplan')
    rfl
  | plain hfinds | childless hfinds | malformed hfinds | cutShort hfinds | linked hfinds =>
    obtain rfl := hfinds.plan_eq hplan
    rfl

/-- There is a second find exactly if the results of the first descend. -/
theorem length_finds_eq_two_iff :
    course.finds.length = 2 ↔ ∃ u v results, store.acquire request s = (.ok (), u) ∧
      store.find plan.toFind u = (.ok results, v) ∧ selector.Descends q results := by
  -- once there are results, it is up to them; before that there are none that could descend
  cases htakes with
  | idle hnone => exact nomatch hplan.symm.trans hnone
  | refused _ hacquire => simp [Course.finds, hacquire]
  | unanswered hplan' hacquire hfind =>
    obtain rfl := Option.some.inj (hplan.symm.trans hplan')
    simp [Course.finds, hacquire, hfind]
  | plain hfinds hplain =>
    obtain rfl := hfinds.plan_eq hplan
    rw [exists_descends_iff hfinds]
    refine iff_of_false (by simp [Course.finds]) (not_exists.2 fun filter hseeks => ?_)
    exact hplain hseeks.expands
  | childless hfinds _ _ hnone =>
    obtain rfl := hfinds.plan_eq hplan
    rw [exists_descends_iff hfinds]
    refine iff_of_false (by simp [Course.finds]) (not_exists.2 fun filter hseeks => ?_)
    simpa [hnone] using hseeks.filtered
  | malformed hfinds _ hmem hnone =>
    obtain rfl := hfinds.plan_eq hplan
    rw [exists_descends_iff hfinds]
    refine iff_of_false (by simp [Course.finds]) (not_exists.2 fun filter hseeks => ?_)
    simpa [hnone] using hseeks.decodes _ hmem
  | cutShort hfinds hseeks | linked hfinds hseeks =>
    obtain rfl := hfinds.plan_eq hplan
    rw [exists_descends_iff hfinds]
    exact iff_of_true rfl ⟨_, hseeks⟩

/-- The errors of a course are those of the stages that fail on it. -/
theorem result_eq_error_iff (e : SelectError) :
    course.result selector.layout = .error e ↔
      selector.FailsWith store request q s plan course.finds e := by
  cases htakes with
  | idle hnone => exact nomatch hplan.symm.trans hnone
  | refused _ hacquire =>
    rw [failsWith_of_refused hacquire]
    simp [Course.result]
  | unanswered hplan' hacquire hfind =>
    obtain rfl := Option.some.inj (hplan.symm.trans hplan')
    rw [failsWith_of_unanswered hacquire hfind]
    simp [Course.result]
  | plain hfinds hplain =>
    obtain rfl := hfinds.plan_eq hplan
    rw [failsWith_of_finds hfinds]
    simp [Course.result, Course.finds, hplain]
  | childless hfinds _ hdecodes =>
    obtain rfl := hfinds.plan_eq hplan
    rw [failsWith_of_finds hfinds, ← not_forall_isSome_iff]
    simp [Course.result, Course.finds, eq_true hdecodes]
  | malformed hfinds hexpands hmem hnone =>
    obtain rfl := hfinds.plan_eq hplan
    have hsome : ∃ document ∈ _, Skeleton.ofDocument? selector.layout document = none :=
      ⟨_, hmem, hnone⟩
    rw [failsWith_of_finds hfinds]
    simp [Course.result, Course.finds, hexpands, hsome]
  | cutShort hfinds hseeks hsecond =>
    obtain rfl := hfinds.plan_eq hplan
    rw [failsWith_of_finds hfinds, ← not_forall_isSome_iff]
    simp [Course.result, Course.finds, eq_true hseeks.decodes, hsecond]
  | linked hfinds hseeks hsecond =>
    obtain rfl := hfinds.plan_eq hplan
    rw [failsWith_of_finds hfinds, ← not_forall_isSome_iff]
    simp [Course.result, Course.finds, eq_true hseeks.decodes, hsecond]

end Takes

end

/-- Whatever a store replies, a select keeps to its protocol: without a known search term it asks
for nothing and finds nothing, else it asks for what its plan says. -/
theorem selectIn_keepsProtocol (selector : Selector) (store : Store σ) (request : Request)
    (q : Query) (s : Session σ) :
    let outcome := selector.selectIn store request q s
    ((∀ term ∈ TermNode.leavesOf q.terms.search, term.isRegistered = false) →
      outcome.1 = .ok [] ∧ outcome.2.acquisitions = s.acquisitions ∧
        outcome.2.finds = s.finds ∧ outcome.2.store = s.store) ∧
    ((∃ term ∈ TermNode.leavesOf q.terms.search, term.isRegistered = true) →
      ∃ plan asked, selector.plan? q = some plan ∧
        selector.KeepsProtocol store request q s plan asked outcome) := by
  dsimp only
  obtain ⟨course, t, hselect, htakes, hleaves⟩ := exists_takes selector store request q s
  rw [hselect]
  have hidle : selector.plan? q = none ↔
      ∀ term ∈ TermNode.leavesOf q.terms.search, term.isRegistered = false :=
    Query.plan?_assemble_eq_none_iff selector.layout q
  constructor
  · intro hunknown
    obtain ⟨rfl, hstore⟩ := htakes.eq_idle (hidle.2 hunknown)
    exact ⟨rfl, hleaves.acquisitions, hleaves.finds.trans (List.append_nil _), hstore⟩
  · intro hknown
    obtain ⟨term, hmem, hregistered⟩ := hknown
    have hsome : selector.plan? q ≠ none := fun hnone => by
      simpa [hregistered] using hidle.1 hnone term hmem
    obtain ⟨plan, hplan⟩ := Option.ne_none_iff_exists'.1 hsome
    -- what is asked for are the finds of the course
    refine ⟨plan, course.finds, hplan, ?_⟩
    exact {
      acquisitions := by rw [hleaves.acquisitions, htakes.acquisitions_eq_one hplan]
      finds := hleaves.finds
      state := by rw [htakes.answer_finds hplan]
      refused := fun _ => htakes.finds_eq_nil
      first := htakes.head?_finds hplan
      second := htakes.length_finds_eq_two_iff hplan
      second_full := course.eq_full_of_second
      length_le := course.length_finds_le
      fails := htakes.result_eq_error_iff hplan }

/-- A store that finds a result and goes down before its descendants are looked for, and a query
whose only search term is not known. -/
theorem selectIn_keepsProtocol_down :
    let document := Json.object [("_digger", .object
      [("diggerid", .string "a"), ("left", .ofNat 1), ("right", .ofNat 4)])]
    let q : Query := {
      terms := { search := [.leaf ⟨"tag", "=", .text "folder"⟩] }
      modifier := { laststep := true, tree := true } }
    let unknown := Query.ofSearch [.leaf ⟨"tag", "??", .text "folder"⟩]
    let s : Session Script := { store := [.ok [document], .error (.unavailable "down")] }
    let outcome := (ofLayout {}).selectIn Script.store {} q s
    (∃ plan asked, (ofLayout {}).KeepsProtocol Script.store {} q s plan asked outcome ∧
      asked.length = 2) ∧
    outcome.1 = .error (.descendantQuery (.unavailable "down")) ∧
    ((ofLayout {}).selectIn Script.store {} unknown s).2.finds = [] := by
  intro document q unknown s outcome
  obtain ⟨-, hknown⟩ := selectIn_keepsProtocol (ofLayout {}) Script.store {} q s
  obtain ⟨plan, asked, -, hprotocol⟩ := hknown ⟨_, .head _, rfl⟩
  have hfind : Script.store.find plan.toFind s.store =
    (.ok [document], [.error (.unavailable "down")]) := rfl
  have hdescends : (ofLayout {}).Descends q [document] :=
    ⟨rfl, rfl, List.cons_ne_nil _ _, by decide +kernel, by decide +kernel⟩
  have htwo : asked.length = 2 := hprotocol.second.2 ⟨_, _, _, rfl, hfind, hdescends⟩
  refine ⟨⟨plan, asked, hprotocol, htwo⟩, ?_, ?_⟩
  · obtain ⟨first, second, rfl⟩ := List.length_eq_two.1 htwo
    obtain rfl : first = plan.toFind := Option.some.inj (hprotocol.first rfl)
    exact (hprotocol.fails _).2 (.descendantQuery rfl hfind rfl rfl)
  · have hunknown : ∀ term ∈ TermNode.leavesOf unknown.terms.search, term.isRegistered = false := by
      decide
    exact ((selectIn_keepsProtocol (ofLayout {}) Script.store {} unknown s).1 hunknown).2.2.1

end Selector

end ForestQuery
