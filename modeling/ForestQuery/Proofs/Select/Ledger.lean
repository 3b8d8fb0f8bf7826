import ForestQuery.Proofs.Linking.Forest
import ForestQuery.Proofs.Select.Courses

/-!
# What the counters add up to

Selects run one after another on a store, and each of them moves the counters at several places. An
episode is a select as its caller and its store saw it. Over every history of selects the counters
agree with each other, with what the session has recorded, and with the episodes. They are words,
so they agree up to multiples of the number of words.

## Key results

- `Course.ledger`: the books of a single select, one case for each course
- `Ledger.append`: books of one history after another
- `Selector.balanced_runNext`: a select keeps the books
- `Selector.balanced_episodes`: the books after every history that starts from zero
-/

namespace ForestQuery

variable {σ : Type}

/-! ### Episodes -/

/-- A select that ran, as its caller and its store saw it. -/
structure Episode where
  /-- What was to be selected. -/
  query : Query
  /-- What was returned. -/
  result : Except SelectError (List Tree)
  /-- What the store replied to the finds. -/
  replies : List (Except StoreError (List Json))

namespace Episode

/-- The select failed. -/
def failed (episode : Episode) : Bool := !episode.result.isOk

/-- The select failed since no collection was handed out. -/
def refused (episode : Episode) : Bool :=
  match episode.result with
  | .error (.acquisition _) => true
  | _ => false

/-- The select looked for results. -/
def searched (episode : Episode) : Bool := 0 < episode.replies.length

/-- The select looked for descendants too. -/
def descended (episode : Episode) : Bool := 1 < episode.replies.length

/-- The number of documents that were found when the select looked for descendants. -/
def fetched (episode : Episode) : Nat :=
  match episode.replies with
  | _ :: .ok documents :: _ => documents.length
  | _ => 0

/-- The number of terms of the query that are not known. -/
def unknown (episode : Episode) : Nat :=
  let terms := episode.query.terms
  (TermNode.leavesOf terms.search ++ TermNode.leavesOf terms.skeleton).countP (!·.isRegistered)

theorem searched_of_descended {episode : Episode} (h : episode.descended = true) :
    episode.searched = true := by
  simp only [descended, searched, decide_eq_true_eq] at h ⊢
  omega

end Episode

namespace Selector

/-- Runs the next query in the session that some episodes left. -/
def runNext (selector : Selector) (store : Store σ) (past : List Episode × Session σ)
    (next : Request × Query) : List Episode × Session σ :=
  let (episodes, s) := past
  let (request, q) := next
  let (result, t) := selector.selectIn store request q s
  -- the finds of this select are those that were not recorded before
  let asked := t.finds.drop s.finds.length
  (episodes ++ [⟨q, result, (store.answer asked (store.acquire request s.store).2).1⟩], t)

/-- The episodes of a history of selects that starts from zero, and the session that they leave. -/
def episodes (selector : Selector) (store : Store σ) (start : σ)
    (history : List (Request × Query)) : List Episode × Session σ :=
  history.foldl (selector.runNext store) ([], { store := start })

end Selector

/-! ### Ledgers -/

/-- The books of some episodes: what the counters show, against what was asked of the store and what
happened in the episodes. -/
structure Ledger (episodes : List Episode) (count : Counter → UInt64) (acquisitions finds : Nat) :
    Prop where
  /-- A select reaches the store, has nothing to look for, or is refused a collection. -/
  selects : .ofNat episodes.length = count .selectsExecuted + count .selectsShortCircuited +
    .ofNat (episodes.countP (·.refused))
  /-- A collection is handed out or refused. -/
  acquisitions : .ofNat acquisitions = count .selectsExecuted +
    .ofNat (episodes.countP (·.refused))
  /-- Selects that reach the store look for results. -/
  primary : count .primaryQueries = count .selectsExecuted
  /-- Finds are for results or for descendants. -/
  finds : .ofNat finds = count .primaryQueries + count .descendantQueries
  /-- Finds for results are counted. -/
  searched : count .primaryQueries = .ofNat (episodes.countP (·.searched))
  /-- Finds for descendants are counted. -/
  descended : count .descendantQueries = .ofNat (episodes.countP (·.descended))
  /-- Without overflow, not more finds are for descendants than for results. -/
  descended_le : episodes.countP (·.descended) ≤ episodes.countP (·.searched)
  /-- Failures are counted. -/
  failed : count .selectsFailed = .ofNat (episodes.countP (·.failed))
  /-- Unknown terms are counted. -/
  dropped : count .termsDropped = .ofNat (episodes.map (·.unknown)).sum
  /-- What is found for descendants is attached or orphaned. -/
  fetched : count .descendantsAttached + count .descendantsOrphaned =
    .ofNat (episodes.map (·.fetched)).sum

namespace Ledger

/-- Books of one history after another add up. -/
theorem append {past later : List Episode} {count count' : Counter → UInt64}
    {acquisitions acquisitions' finds finds' : Nat} (h : Ledger past count acquisitions finds)
    (h' : Ledger later count' acquisitions' finds') :
    Ledger (past ++ later) (fun c => count c + count' c) (acquisitions + acquisitions')
      (finds + finds') where
  selects := by
    rw [List.length_append, List.countP_append, UInt64.ofNat_add, UInt64.ofNat_add, h.selects,
      h'.selects]
    ac_rfl
  acquisitions := by
    rw [List.countP_append, UInt64.ofNat_add, UInt64.ofNat_add, h.acquisitions, h'.acquisitions]
    ac_rfl
  primary := by rw [h.primary, h'.primary]
  finds := by
    rw [UInt64.ofNat_add, h.finds, h'.finds]
    ac_rfl
  searched := by rw [List.countP_append, UInt64.ofNat_add, h.searched, h'.searched]
  descended := by rw [List.countP_append, UInt64.ofNat_add, h.descended, h'.descended]
  descended_le := by
    rw [List.countP_append, List.countP_append]
    exact Nat.add_le_add h.descended_le h'.descended_le
  failed := by rw [List.countP_append, UInt64.ofNat_add, h.failed, h'.failed]
  dropped := by rw [List.map_append, List.sum_append, UInt64.ofNat_add, h.dropped, h'.dropped]
  fetched := by
    rw [List.map_append, List.sum_append, UInt64.ofNat_add, ← h.fetched, ← h'.fetched]
    ac_rfl

end Ledger

/-- The session that some episodes left shows what they came to. -/
def Balanced (past : List Episode × Session σ) : Prop :=
  Ledger past.1 past.2.counters.get past.2.acquisitions past.2.finds.length

theorem balanced_start (start : σ) : Balanced ([], { store := start }) where
  selects := rfl
  acquisitions := rfl
  primary := rfl
  finds := rfl
  searched := rfl
  descended := rfl
  descended_le := Nat.le_refl _
  failed := rfl
  dropped := rfl
  fetched := rfl

/-! ### The ledger of a select -/

namespace Course

/-- A fetched document without a skeleton is orphaned, and the linker attaches or orphans the
others. -/
theorem attached_add_orphaned (l : Layout) (results fetched : List Json) :
    (link (l.records results) (l.records fetched)).attached +
      ((link (l.records results) (l.records fetched)).orphaned +
        (fetched.length - (l.records fetched).length)) = fetched.length := by
  have hrecords : (l.records fetched).length ≤ fetched.length := List.length_filterMap_le _ _
  have hlinked := attached_add_orphaned_link (l.records results) (l.records fetched)
  omega

/-- The books of a select on its course. -/
theorem ledger (l : Layout) (q : Query) (course : Course) :
    Ledger [⟨q, course.result l, course.replies⟩] (fun c => .ofNat (course.count l q c))
      course.acquisitions course.finds.length where
  selects := by cases course <;> rfl
  acquisitions := by cases course <;> rfl
  primary := by cases course <;> rfl
  finds := by cases course <;> rfl
  searched := by cases course <;> rfl
  descended := by cases course <;> rfl
  descended_le := List.countP_mono_left fun _ _ => Episode.searched_of_descended
  failed := by cases course <;> rfl
  dropped := by
    rw [List.map_singleton, List.sum_singleton]
    exact congrArg UInt64.ofNat (q.dropped_assemble l)
  fetched := by
    rw [List.map_singleton, List.sum_singleton]
    -- only the last course has fetched something
    cases course with
    | linked plan results filter fetched =>
      exact (UInt64.ofNat_add _ _).symm.trans
        (congrArg UInt64.ofNat (attached_add_orphaned l results fetched))
    | idle | refused | unanswered | flat | malformed | cutShort => rfl

end Course

namespace Selector

theorem Takes.replies_finds {selector : Selector} {store : Store σ} {request : Request} {q : Query}
    {s t : σ} {course : Course} (htakes : selector.Takes store request q s course t) :
    (store.answer course.finds (store.acquire request s).2).1 = course.replies := by
  cases hplan : selector.plan? q with
  | none =>
    obtain ⟨rfl, -⟩ := htakes.eq_idle hplan
    rfl
  | some plan => rw [htakes.answer_finds hplan]

/-! ### Histories -/

/-- A select keeps the books. -/
theorem balanced_runNext (selector : Selector) (store : Store σ) {past : List Episode × Session σ}
    (h : Balanced past) (next : Request × Query) : Balanced (selector.runNext store past next) := by
  obtain ⟨episodes, s⟩ := past
  obtain ⟨request, q⟩ := next
  obtain ⟨course, t, hselect, htakes, hleaves⟩ := exists_takes selector store request q s
  -- what the session has recorded of this select are the finds of its course
  have hasked : t.finds.drop s.finds.length = course.finds := by
    rw [hleaves.finds, List.drop_left]
  have hnext : selector.runNext store (episodes, s) (request, q) =
      (episodes ++ [⟨q, course.result selector.layout, course.replies⟩], t) := by
    rw [runNext, hselect]
    dsimp only
    rw [hasked, htakes.replies_finds]
  rw [hnext, Balanced, funext hleaves.counters, hleaves.acquisitions, hleaves.finds,
    List.length_append]
  exact h.append (course.ledger selector.layout q)

theorem balanced_foldl (selector : Selector) (store : Store σ) {past : List Episode × Session σ}
    (h : Balanced past) (history : List (Request × Query)) :
    Balanced (history.foldl (selector.runNext store) past) := by
  -- induction on the selects to come; the books of those before are the invariant
  induction history generalizing past with
  | nil => exact h
  | cons next rest ih => exact ih (balanced_runNext selector store h next)

theorem map_query_foldl (selector : Selector) (store : Store σ) (past : List Episode × Session σ)
    (history : List (Request × Query)) :
    (history.foldl (selector.runNext store) past).1.map (·.query) =
      past.1.map (·.query) ++ history.map (·.2) := by
  induction history generalizing past with
  | nil => exact (List.append_nil _).symm
  | cons next rest ih =>
    rw [List.foldl_cons, ih]
    simp [runNext]

/-- The books after every history of selects, whatever is asked for, and whatever the store
replies. -/
theorem balanced_episodes (selector : Selector) (store : Store σ) (start : σ)
    (history : List (Request × Query)) :
    (selector.episodes store start history).1.map (·.query) = history.map (·.2) ∧
      Balanced (selector.episodes store start history) :=
  ⟨map_query_foldl selector store _ history,
    balanced_foldl selector store (balanced_start start) history⟩

end Selector

end ForestQuery
