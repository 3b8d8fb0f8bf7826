import ForestQuery.Proofs.Select.Ledger
import ForestQuery.Proofs.Select.Outcome

/-!
# What the log tells of a select

A select logs its start first and its end last, and between them what it has done. So its events
alone tell how it went: whether terms were dropped, whether there was anything to look for, how many
documents were found, where the descendants among them went, and how far each counter has counted.

## Key results

- `Course.count_eq_sumMoves`: the counters of a course move as its events say
- `Selector.Takes.recounts`: what the events of a course tell, promise by promise
- `Selector.selectIn_recounts`: the events of a select agree with its outcome and its counters
-/

namespace ForestQuery

variable {σ : Type}

/-! ### Events and counters -/

/-- How far a counter counts for an event. A select that was handed a collection has either found
results or failed to, so these events stand for reaching the store too. -/
def Event.moves : Event → Counter → Nat
  | .selectShortCircuit, .selectsShortCircuited => 1
  | .termsDropped dropped, .termsDropped => dropped
  | .primaryQueryComplete _, .selectsExecuted | .primaryQueryComplete _, .primaryQueries => 1
  | .descendantQueryComplete _, .descendantQueries => 1
  | .treeMerged _ attached, .descendantsAttached => attached
  | .descendantsOrphaned orphaned, .descendantsOrphaned => orphaned
  | .selectFailed _, .selectsFailed => 1
  | .selectFailed (.primaryQuery _), .selectsExecuted
  | .selectFailed (.primaryQuery _), .primaryQueries => 1
  | .selectFailed (.descendantQuery _), .descendantQueries => 1
  | _, _ => 0

/-- How far a counter counts for several events. -/
def Event.sumMoves (events : List Event) (c : Counter) : Nat := (events.map (·.moves c)).sum

namespace Event

@[simp] theorem sumMoves_nil (c : Counter) : sumMoves [] c = 0 := rfl

@[simp] theorem sumMoves_cons (event : Event) (rest : List Event) (c : Counter) :
    sumMoves (event :: rest) c = event.moves c + sumMoves rest c := rfl

@[simp] theorem sumMoves_append (first second : List Event) (c : Counter) :
    sumMoves (first ++ second) c = sumMoves first c + sumMoves second c := by
  rw [sumMoves, List.map_append, List.sum_append]
  rfl

/-- An event that is logged unless its number is zero moves what it would always move. -/
theorem sumMoves_ite {n : Nat} {event : Event} {c : Counter} (hzero : n = 0 → event.moves c = 0) :
    sumMoves (if 0 < n then [event] else []) c = event.moves c := by
  split
  · rw [sumMoves_cons, sumMoves_nil, Nat.add_zero]
  · rw [sumMoves_nil, hzero (by omega)]

end Event

namespace Course

theorem sumMoves_dropEvents (l : Layout) (q : Query) (c : Counter) :
    Event.sumMoves (q.dropEvents l) c = (Event.termsDropped (q.assemble l).dropped).moves c := by
  refine Event.sumMoves_ite fun hzero => ?_
  rw [hzero]
  cases c <;> rfl

theorem sumMoves_mergeEvents (l : Layout) (results fetched : List Json) (c : Counter) :
    let linked := link (l.records results) (l.records fetched)
    Event.sumMoves (mergeEvents l results fetched) c =
      (Event.treeMerged linked.forest.length linked.attached).moves c +
        (Event.descendantsOrphaned
          (linked.orphaned + (fetched.length - (l.records fetched).length))).moves c := by
  refine congrArg (_ + ·) (Event.sumMoves_ite fun hzero => ?_)
  rw [hzero]
  cases c <;> rfl

/-- A select counts as its events say. -/
theorem count_eq_sumMoves (l : Layout) (q : Query) (course : Course) (c : Counter) :
    course.count l q c = Event.sumMoves (course.log l q) c := by
  rw [log]
  simp only [Event.sumMoves_cons, Event.sumMoves_append, Event.sumMoves_nil, sumMoves_dropEvents]
  cases course with
  | linked plan results filter fetched =>
    simp only [events, Event.sumMoves_cons, sumMoves_mergeEvents]
    cases c <;>
      simp [count, tally, Event.moves, Event.ofOutcome, result, Except.isOk, Except.toBool]
  | idle | refused | unanswered | flat | malformed | cutShort =>
    cases c <;> simp [count, tally, events, Event.moves, Event.ofOutcome, result, Except.isOk,
      Except.toBool, SelectError.noSkeleton]

end Course

/-! ### What the events tell -/

/-- What the events of a select on a query tell when it has come to a result. -/
structure Recounts (q : Query) (result : Except SelectError (List Tree)) (events : List Event) :
    Prop where
  /-- The start is logged first. -/
  starts : events.head? = some (.selectStart q.terms.search.length q.terms.skeleton.length)
  /-- The end is logged last, and nothing before it is an end. -/
  ends : ∃ before, events = before ++ [.ofOutcome result] ∧
    ∀ event ∈ before, event.name ≠ .selectComplete ∧ event.name ≠ .selectFailed
  /-- A failure is logged exactly if the select has failed. -/
  failed : (∃ event ∈ events, event.name = .selectFailed) ↔ ∃ e, result = .error e
  /-- A logged failure has the code and the stage of the error. -/
  failed_fields : ∀ event ∈ events, event.name = .selectFailed → ∀ e, result = .error e →
    event.fields.lookup "code" = some (.string e.code) ∧
      event.fields.lookup "stage" = some (.string e.stage)
  /-- Dropped terms are logged exactly if some term is not known. -/
  dropped : (∃ event ∈ events, event.name = .termsDropped) ↔
    ∃ term ∈ TermNode.leavesOf q.terms.search ++ TermNode.leavesOf q.terms.skeleton,
      term.isRegistered = false
  /-- That there is nothing to look for is logged exactly if no search term is known. -/
  idle : .selectShortCircuit ∈ events ↔
    ∀ term ∈ TermNode.leavesOf q.terms.search, term.isRegistered = false
  /-- Nothing follows it but the end, without results. -/
  idle_ends : ∀ before after, events = before ++ .selectShortCircuit :: after →
    after = [.selectComplete 0]
  /-- Descendants are fetched after results are found. Then they are linked at once; those that are
  not attached are orphaned, and logged so if there are any. -/
  merges : ∀ before fetched after, events = before ++ .descendantQueryComplete fetched :: after →
    (∃ found, .primaryQueryComplete found ∈ before) ∧
      ∃ roots attached orphaned, fetched = attached + orphaned ∧
        after = .treeMerged roots attached ::
          ((if 0 < orphaned then [.descendantsOrphaned orphaned] else []) ++ [.ofOutcome result])
  /-- A select that had something to look for and succeeded has logged what it found. -/
  found : ∀ forest, result = .ok forest → .selectShortCircuit ∉ events →
    ∃ found, .primaryQueryComplete found ∈ events
  /-- As many results are logged as there are roots. -/
  found_eq : ∀ forest found, result = .ok forest → .primaryQueryComplete found ∈ events →
    found = forest.length

/-- Whether an event tells of the start of a select, of its terms or of its end, and not of what it
does on its way. -/
def EventName.isOuter : EventName → Bool
  | selectStart | termsDropped | selectComplete | selectFailed => true
  | _ => false

theorem Query.mem_dropEvents {q : Query} {l : Layout} {event : Event} :
    event ∈ q.dropEvents l ↔ 0 < (q.assemble l).dropped ∧
      event = .termsDropped (q.assemble l).dropped := by
  rw [dropEvents]
  split <;> simp [*]

namespace Course

theorem mem_mergeEvents {l : Layout} {results fetched : List Json} {event : Event}
    (h : event ∈ mergeEvents l results fetched) :
    event.name = .treeMerged ∨ event.name = .descendantsOrphaned := by
  rw [mergeEvents] at h
  rcases List.mem_cons.1 h with rfl | h
  · exact .inl rfl
  · split at h
    · obtain rfl := List.mem_singleton.1 h
      exact .inr rfl
    · exact absurd h List.not_mem_nil

theorem notMem_mergeEvents {l : Layout} {results fetched : List Json} {event : Event}
    (h : event.name ∉ [.treeMerged, .descendantsOrphaned]) :
    event ∉ mergeEvents l results fetched := by
  intro hmem
  obtain hname | hname := mem_mergeEvents hmem
  · exact h (hname ▸ .head _)
  · exact h (hname ▸ .tail _ (.head _))

variable {l : Layout} {q : Query} {course : Course} {event : Event}

theorem mem_log : event ∈ course.log l q ↔
    event = .selectStart q.terms.search.length q.terms.skeleton.length ∨ event ∈ q.dropEvents l ∨
      event ∈ course.events l ∨ event = .ofOutcome (course.result l) := by
  simp [log]

theorem isOuter_of_mem_events (h : event ∈ course.events l) : event.name.isOuter = false := by
  cases course with
  | idle | flat | malformed | cutShort =>
    obtain rfl := List.mem_singleton.1 h
    rfl
  | refused | unanswered => exact absurd h List.not_mem_nil
  | linked =>
    simp only [events, List.mem_cons] at h
    rcases h with rfl | rfl | h
    · rfl
    · rfl
    · rcases mem_mergeEvents h with hname | hname <;> rw [hname] <;> rfl

/-- What tells of the way is logged on the way. -/
theorem mem_log_iff_mem_events (h : event.name.isOuter = false) :
    event ∈ course.log l q ↔ event ∈ course.events l := by
  rw [mem_log, Query.mem_dropEvents]
  constructor
  · rintro (rfl | ⟨-, rfl⟩ | hmem | rfl)
    · exact nomatch h
    · exact nomatch h
    · exact hmem
    · cases hresult : course.result l <;> rw [hresult] at h <;> exact nomatch h
  · exact fun hmem => .inr (.inr (.inl hmem))

/-- Before its end, a select logs no end. -/
theorem name_of_mem_before (h : event ∈ Event.selectStart q.terms.search.length
    q.terms.skeleton.length :: (q.dropEvents l ++ course.events l)) :
    event.name ≠ .selectComplete ∧ event.name ≠ .selectFailed := by
  rw [List.mem_cons, List.mem_append, Query.mem_dropEvents] at h
  rcases h with rfl | ⟨-, rfl⟩ | h
  · exact ⟨nofun, nofun⟩
  · exact ⟨nofun, nofun⟩
  · have houter := isOuter_of_mem_events h
    constructor
    · intro hname
      rw [hname] at houter
      exact nomatch houter
    · intro hname
      rw [hname] at houter
      exact nomatch houter

/-- The only failure in a log is that of the result. -/
theorem eq_selectFailed (h : event ∈ course.log l q) (hname : event.name = .selectFailed) :
    ∃ e, course.result l = .error e ∧ event = .selectFailed e := by
  rw [log, ← List.cons_append, List.mem_append, List.mem_singleton] at h
  rcases h with h | rfl
  · exact absurd hname (name_of_mem_before h).2
  · cases hresult : course.result l with
    | ok forest => simp [hresult, Event.ofOutcome, Event.name] at hname
    | error e => exact ⟨e, rfl, rfl⟩

/-- Terms are logged as dropped exactly if some term is not known. -/
theorem exists_termsDropped_iff :
    (∃ event ∈ course.log l q, event.name = .termsDropped) ↔
      ∃ term ∈ TermNode.leavesOf q.terms.search ++ TermNode.leavesOf q.terms.skeleton,
        term.isRegistered = false := by
  have hpositive : 0 < (q.assemble l).dropped ↔
      ∃ term ∈ TermNode.leavesOf q.terms.search ++ TermNode.leavesOf q.terms.skeleton,
        term.isRegistered = false := by
    rw [Query.dropped_assemble, List.countP_pos_iff]
    simp only [Bool.not_eq_true']
  rw [← hpositive]
  constructor
  · rintro ⟨event, h, hname⟩
    rw [mem_log] at h
    rcases h with rfl | h | h | rfl
    · exact nomatch hname
    · exact (Query.mem_dropEvents.1 h).1
    · have houter := isOuter_of_mem_events h
      rw [hname] at houter
      exact nomatch houter
    · cases hresult : course.result l <;> rw [hresult] at hname <;> exact nomatch hname
  · intro hdropped
    exact ⟨_, mem_log.2 (.inr (.inl (Query.mem_dropEvents.2 ⟨hdropped, rfl⟩))), rfl⟩

theorem selectShortCircuit_mem_log : .selectShortCircuit ∈ course.log l q ↔ course = .idle := by
  rw [mem_log_iff_mem_events rfl]
  cases course with
  | idle => simp [events]
  | refused | unanswered | flat | malformed | cutShort => simp [events]
  | linked =>
    simp only [events, List.mem_cons, reduceCtorEq, false_or, iff_false]
    exact notMem_mergeEvents (by simp [Event.name])

theorem exists_linked_of_mem_log {fetched : Nat}
    (h : .descendantQueryComplete fetched ∈ course.log l q) :
    ∃ plan results filter documents, course = .linked plan results filter documents := by
  rw [mem_log_iff_mem_events rfl] at h
  cases course with
  | linked plan results filter documents => exact ⟨plan, results, filter, documents, rfl⟩
  | idle | refused | unanswered | flat | malformed | cutShort => simp [events] at h

/-- After there was nothing to look for, only the end is logged. -/
theorem after_selectShortCircuit {before after : List Event}
    (h : course.log l q = before ++ .selectShortCircuit :: after) :
    after = [.selectComplete 0] := by
  have hmem : .selectShortCircuit ∈ course.log l q := h ▸ List.mem_append_right _ (.head _)
  obtain rfl := selectShortCircuit_mem_log.1 hmem
  have hlog : log l q idle = (.selectStart q.terms.search.length q.terms.skeleton.length ::
      q.dropEvents l) ++ .selectShortCircuit :: [.selectComplete 0] := by
    simp [log, events, result, Event.ofOutcome]
  -- the event occurs once, so the log parts there in one way
  rw [hlog, List.append_cons_inj_of_notMem (by simp [Query.mem_dropEvents]) (by simp)] at h
  exact h.2.2.symm

/-- After descendants were fetched, it is logged where they went, and then only the end. -/
theorem after_descendantQueryComplete {before after : List Event} {fetched : Nat}
    (h : course.log l q = before ++ .descendantQueryComplete fetched :: after) :
    (∃ found, .primaryQueryComplete found ∈ before) ∧
      ∃ roots attached orphaned, fetched = attached + orphaned ∧
        after = .treeMerged roots attached ::
          ((if 0 < orphaned then [.descendantsOrphaned orphaned] else []) ++
            [.ofOutcome (course.result l)]) := by
  obtain ⟨plan, results, filter, documents, rfl⟩ :=
    exists_linked_of_mem_log (h ▸ List.mem_append_right _ (.head _))
  have hlog : log l q (.linked plan results filter documents) =
      (.selectStart q.terms.search.length q.terms.skeleton.length ::
        (q.dropEvents l ++ [.primaryQueryComplete results.length])) ++
      .descendantQueryComplete documents.length :: (mergeEvents l results documents ++
        [.ofOutcome (result l (.linked plan results filter documents))]) := by
    simp [log, events]
  have hback : .descendantQueryComplete fetched ∉ mergeEvents l results documents ++
      [.ofOutcome (result l (.linked plan results filter documents))] := by
    rw [List.mem_append, List.mem_singleton]
    rintro (hmem | heq)
    · exact absurd hmem (notMem_mergeEvents (by simp [Event.name]))
    · cases heq
  rw [hlog, List.append_cons_inj_of_notMem (by simp [Query.mem_dropEvents]) hback] at h
  obtain ⟨rfl, hfetched, rfl⟩ := h
  refine ⟨⟨results.length, by simp⟩, _, _, _, ?_, rfl⟩
  rw [← Event.descendantQueryComplete.inj hfetched, attached_add_orphaned]

end Course

namespace Selector

variable {selector : Selector} {store : Store σ} {request : Request} {q : Query} {s t : σ}
  {course : Course}

/-- As many results are logged as there are roots. -/
theorem Takes.found_eq (htakes : selector.Takes store request q s course t) {forest : List Tree}
    {found : Nat} (hresult : course.result selector.layout = .ok forest)
    (h : .primaryQueryComplete found ∈ course.log selector.layout q) : found = forest.length := by
  rw [Course.mem_log_iff_mem_events rfl] at h
  cases htakes with
  | idle => simp [Course.events] at h
  | refused | unanswered | malformed | cutShort => cases hresult
  | plain | childless =>
    obtain rfl := Event.primaryQueryComplete.inj (List.mem_singleton.1 h)
    obtain rfl := Except.ok.inj hresult
    exact (List.length_map _).symm
  | linked hfinds hseeks hsecond =>
    obtain rfl := Except.ok.inj hresult
    simp only [Course.events, List.mem_cons, Event.primaryQueryComplete.injEq, reduceCtorEq,
      false_or] at h
    rcases h with rfl | h
    · -- there is one root for each result, since all of them have skeletons
      have hlength := congrArg List.length (map_document_records hseeks.decodes)
      rw [List.length_map] at hlength
      rw [forest_link, List.length_map, hlength]
    · exact absurd h (Course.notMem_mergeEvents (by simp [Event.name]))

/-- A select that succeeds and is not idle has logged what it found. -/
theorem exists_found {forest : List Tree}
    (hresult : course.result selector.layout = .ok forest) (hidle : course ≠ .idle) :
    ∃ found, .primaryQueryComplete found ∈ course.log selector.layout q := by
  cases course with
  | idle => exact absurd rfl hidle
  | refused | unanswered | malformed | cutShort => exact nomatch hresult
  | flat plan results => exact ⟨_, (Course.mem_log_iff_mem_events rfl).2 (.head _)⟩
  | linked plan results => exact ⟨_, (Course.mem_log_iff_mem_events rfl).2 (.head _)⟩

/-- A select is idle exactly if no search term is known. -/
theorem Takes.eq_idle_iff (htakes : selector.Takes store request q s course t) :
    course = .idle ↔ ∀ term ∈ TermNode.leavesOf q.terms.search, term.isRegistered = false := by
  rw [← Query.plan?_assemble_eq_none_iff selector.layout]
  constructor
  · rintro rfl
    cases htakes with
    | idle hplan => exact hplan
  · exact fun hnone => (htakes.eq_idle hnone).1

/-- What the log of a course tells. -/
theorem Takes.recounts (htakes : selector.Takes store request q s course t) :
    Recounts q (course.result selector.layout) (course.log selector.layout q) where
  starts := rfl
  ends := ⟨_, List.cons_append.symm, fun _ => Course.name_of_mem_before⟩
  failed := by
    constructor
    · rintro ⟨event, h, hname⟩
      obtain ⟨e, hresult, -⟩ := Course.eq_selectFailed h hname
      exact ⟨e, hresult⟩
    · rintro ⟨e, hresult⟩
      exact ⟨_, Course.mem_log.2 (.inr (.inr (.inr rfl))), by rw [hresult]; rfl⟩
  failed_fields := by
    intro event h hname e hresult
    obtain ⟨e', hresult', rfl⟩ := Course.eq_selectFailed h hname
    obtain rfl := Except.error.inj (hresult.symm.trans hresult')
    exact ⟨rfl, rfl⟩
  dropped := Course.exists_termsDropped_iff
  idle := Course.selectShortCircuit_mem_log.trans htakes.eq_idle_iff
  idle_ends := fun _ _ => Course.after_selectShortCircuit
  merges := fun _ _ _ => Course.after_descendantQueryComplete
  found := fun _ hresult hidle =>
    exists_found hresult fun heq => hidle (Course.selectShortCircuit_mem_log.2 heq)
  found_eq := fun _ _ => htakes.found_eq

/-- The events that a select logs agree with what it returns, and the counters move as they say,
whatever is asked for and whatever the store replies. -/
theorem selectIn_recounts (selector : Selector) (store : Store σ) (request : Request) (q : Query)
    (s : Session σ) :
    ∃ events, (selector.selectIn store request q s).2.log = s.log ++ events ∧
      Recounts q (selector.selectIn store request q s).1 events ∧
      ∀ c, (selector.selectIn store request q s).2.counters.get c =
        s.counters.get c + .ofNat (Event.sumMoves events c) := by
  obtain ⟨course, t, hselect, htakes, hleaves⟩ := exists_takes selector store request q s
  obtain ⟨u, hselect', hcontinues⟩ := htakes.exists_selectIn
  obtain rfl : t = u := congrArg Prod.snd (hselect.symm.trans hselect')
  rw [hselect]
  refine ⟨course.log selector.layout q, hcontinues.log, htakes.recounts, fun c => ?_⟩
  rw [hleaves.counters, Course.count_eq_sumMoves]

end Selector

end ForestQuery
