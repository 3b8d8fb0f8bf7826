import ForestQuery.Proofs.Layout.Entry
import ForestQuery.Proofs.Linking.Shape
import ForestQuery.Proofs.Select.Hierarchy
import ForestQuery.Proofs.Select.Modifiers

/-!
# Selects under two layouts

A select does not care how the keys of its layout are called. Two collections keep the same entries,
each under a layout of its own, and a query asks for nothing that is kept under the key of either
skeleton. Then the query goes the same course on both: the same entries are found and the same
descendants are fetched, they are linked in the same way, and the counters move alike. Only the
documents at the nodes differ, and those are the two documents of one entry.

## Key results

- `Collection.Keeps.course`: the course of a select, said of entries and not of documents
- `Selector.Takes.endsAlike`: the courses under two layouts end alike
- `Selector.selectIn_renamed`: selects under two layouts give the same forest and the same counters
-/

namespace ForestQuery

/-! ### What a query shows of entries -/

namespace Modifier

/-- A modifier cuts a list short without looking at what is in it. -/
theorem exists_cut_map {α : Type} (m : Modifier) (xs : List α) :
    ∃ kept, kept ⊆ xs ∧ ∀ f : α → Json, m.cut (xs.map f) = kept.map f := by
  obtain ⟨limit, first, laststep, tree⟩ := m
  have htake (n : Nat) : ∃ kept, kept ⊆ xs ∧ ∀ f : α → Json, (xs.map f).take n = kept.map f :=
    ⟨xs.take n, List.take_subset n xs, fun f => List.map_take.symm⟩
  cases first with
  | true => exact htake 1
  | false =>
    cases limit with
    | none => exact ⟨xs, List.Subset.refl xs, fun f => rfl⟩
    | some n =>
      simp only [cut]
      by_cases hzero : n = 0
      · exact ⟨xs, List.Subset.refl xs, fun f => if_pos hzero⟩
      · simpa only [if_neg hzero] using htake n.toNat

theorem shown_of_laststep {m : Modifier} (hlast : m.laststep = true) (l : Layout)
    (document : Json) : m.shown l document = document :=
  if_pos hlast

/-- The two documents are what is shown of one entry under two layouts. -/
def ShowsSame (m : Modifier) (l l' : Layout) (entries : List Entry) (document document' : Json) :
    Prop :=
  ∃ e ∈ entries, document = m.shown l (e.document l) ∧ document' = m.shown l' (e.document l')

end Modifier

/-- What the plan of a query selects of documents. -/
theorem Query.select_plan (compiles : String → Bool) {q : Query} {l : Layout} {plan : Plan}
    (hplan : (q.assemble l).plan? = some plan) (documents : List Json) :
    Collection.select compiles plan.toFind documents =
      (q.modifier.cut (documents.filter (plan.filter.isMatch compiles ·))).map
        (q.modifier.shown l) := by
  rw [assemble_eq] at hplan
  split at hplan
  · cases hplan
  · obtain rfl := Option.some.inj hplan
    exact q.modifier.select_eq compiles l _ documents

/-- Two layouts let a query outside their skeletons select the same entries. -/
theorem Query.exists_select_plans (compiles : String → Bool) {l l' : Layout} (hl : l.NamesBounds)
    (hl' : l'.NamesBounds) {q : Query} (hq : q.Avoids l.skeletonKey)
    (hq' : q.Avoids l'.skeletonKey) {plan plan' : Plan}
    (hplan : (q.assemble l).plan? = some plan) (hplan' : (q.assemble l').plan? = some plan')
    (entries : List Entry) :
    ∃ chosen, chosen ⊆ entries ∧
      Collection.select compiles plan.toFind (entries.map (Entry.document l)) =
        chosen.map (fun e => q.modifier.shown l (e.document l)) ∧
      Collection.select compiles plan'.toFind (entries.map (Entry.document l')) =
        chosen.map (fun e => q.modifier.shown l' (e.document l')) := by
  have hmatch (e : Entry) :
      plan'.filter.isMatch compiles (e.document l') = plan.filter.isMatch compiles (e.document l) :=
    (isMatch_filter_document compiles hl hl' hq hq' hplan hplan' e).symm
  obtain ⟨chosen, hsubset, hcut⟩ := q.modifier.exists_cut_map
    (entries.filter fun e => plan.filter.isMatch compiles (e.document l))
  -- the same entries stay on both sides, and then the same cut is made
  refine ⟨chosen, fun e he => (List.mem_filter.1 (hsubset he)).1, ?_, ?_⟩
  · rw [select_plan compiles hplan, List.filter_map]
    simp only [Function.comp_def, hcut, List.map_map]
  · rw [select_plan compiles hplan', List.filter_map]
    simp only [Function.comp_def, hmatch, hcut, List.map_map]

/-! ### Descendants of entries -/

/-- The query has descendants to look for under the entries that it has found. -/
def Query.Descends (q : Query) (chosen : List Entry) : Prop :=
  q.modifier.laststep = true ∧ q.modifier.tree = true ∧ ∃ e ∈ chosen, e.skeleton.isWellFormed = true

namespace Entry

/-- The entries that lie inside the interval of a chosen one, empty intervals left aside. -/
def inside (chosen entries : List Entry) : List Entry :=
  entries.filter fun d =>
    chosen.any fun e => e.skeleton.isWellFormed && e.skeleton.contains d.skeleton

theorem isFinite_of_mem_records {l : Layout} {documents : List Json} :
    ∀ r ∈ l.records documents, r.skeleton.IsFinite :=
  fun _ hr => Skeleton.isFinite_of_ofDocument? (mem_records.1 hr).2

section

variable {l : Layout} (hl : l.IsRegular)

include hl

/-- There is no filter for the descendants of stored entries exactly if all intervals are empty. -/
theorem filter?_records_eq_none_iff {chosen : List Entry} :
    (Descent.intervals l).filter? l (l.records (chosen.map (document l))) = none ↔
      ∀ e ∈ chosen, e.skeleton.isWellFormed = false := by
  rw [Descent.filter?_intervals_eq_none_iff hl.toNamesBounds isFinite_of_mem_records,
    records_map_document hl, List.forall_mem_map]
  rfl

/-- The filter for the descendants of stored entries fetches what lies inside their intervals. -/
theorem filter_map_document (compiles : String → Bool) {chosen entries : List Entry}
    {filter : Predicate}
    (hfilter : (Descent.intervals l).filter? l (l.records (chosen.map (document l))) =
      some filter) :
    (entries.map (document l)).filter (filter.isMatch compiles ·) =
      (inside chosen entries).map (document l) := by
  rw [List.filter_map, inside]
  congr 1
  refine List.filter_congr fun d _ => ?_
  have hmatch := Descent.isMatch_filter?_intervals compiles hl.toNamesBounds
    (ofDocument?_document hl d) isFinite_of_mem_records hfilter
  rw [Bool.eq_iff_iff, Function.comp_apply, hmatch, records_map_document hl, List.any_eq_true]
  simp only [List.mem_map, exists_exists_and_eq_and, Bool.and_eq_true, record]

end

end Entry

/-! ### The course of a select on entries -/

/-- The collection keeps entries under a layout, and fails no find that is to come. -/
structure Collection.Keeps (l : Layout) (entries : List Entry) (c : Collection) : Prop where
  /-- Its documents are those of the entries. -/
  documents_eq : c.documents = entries.map (Entry.document l)
  /-- It answers. -/
  answers : c.Answers

namespace Collection.Keeps

variable {compiles : String → Bool} {l : Layout} {entries chosen : List Entry} {c t : Collection}
  (hkeeps : c.Keeps l entries) {request : Request} {q : Query} {plan : Plan}
  (hplan : (q.assemble l).plan? = some plan)
  (hchosen : select compiles plan.toFind (entries.map (Entry.document l)) =
    chosen.map fun e => q.modifier.shown l (e.document l))

include hkeeps hplan hchosen

/-- What a select finds among kept entries. -/
theorem finds_eq {plan' : Plan} {results : List Json}
    (hfinds : (Selector.ofLayout l).Finds (store compiles) request q c plan' results t) :
    plan' = plan ∧ results = chosen.map (fun e => q.modifier.shown l (e.document l)) ∧
      t = { c with finds := c.finds + 1 } := by
  obtain rfl := Option.some.inj (hplan.symm.trans hfinds.planned)
  obtain ⟨u, hacquire, hfind⟩ := hfinds.replied
  obtain ⟨-, rfl⟩ := Prod.mk.inj hacquire
  rw [find_of_answers hkeeps.answers] at hfind
  obtain ⟨hresults, ht⟩ := Prod.mk.inj hfind
  rw [hkeeps.documents_eq, hchosen] at hresults
  exact ⟨rfl, (Except.ok.inj hresults).symm, ht.symm⟩

theorem finds_eq_of_expands {plan' : Plan} {results : List Json}
    (hfinds : (Selector.ofLayout l).Finds (store compiles) request q c plan' results t)
    (hexpands : q.Expands results) : results = chosen.map (Entry.document l) := by
  obtain ⟨-, rfl, -⟩ := hkeeps.finds_eq hplan hchosen hfinds
  -- results are expanded in the last step only, where nothing is cut out of them
  exact List.map_congr_left fun e _ => Modifier.shown_of_laststep hexpands.1 l _

/-- A select on kept entries either links what lies inside the intervals of the chosen ones under
them, or returns these as they are shown. It does not fail. -/
theorem course (hl : l.IsRegular) {course : Course}
    (htakes : (Selector.ofLayout l).Takes (store compiles) request q c course t) :
    (q.Descends chosen → ∃ filter, course = .linked plan (chosen.map (Entry.document l)) filter
      ((Entry.inside chosen entries).map (Entry.document l))) ∧
    (¬ q.Descends chosen →
      course = .flat plan (chosen.map fun e => q.modifier.shown l (e.document l))) := by
  cases htakes with
  | idle hnone => cases hplan.symm.trans hnone
  | refused _ hacquire => cases hacquire
  | unanswered _ hacquire hfind =>
    obtain ⟨-, rfl⟩ := Prod.mk.inj hacquire
    rw [find_of_answers hkeeps.answers] at hfind
    cases hfind
  | plain hfinds hplain =>
    obtain ⟨rfl, rfl, -⟩ := hkeeps.finds_eq hplan hchosen hfinds
    refine ⟨fun hdescends => absurd ?_ hplain, fun _ => rfl⟩
    obtain ⟨hlast, htree, e, he, -⟩ := hdescends
    exact ⟨hlast, htree, List.ne_nil_of_mem (List.mem_map_of_mem he)⟩
  | childless hfinds hexpands _ hnone =>
    obtain ⟨rfl, hresults, -⟩ := hkeeps.finds_eq hplan hchosen hfinds
    refine ⟨fun hdescends => ?_, fun _ => by rw [hresults]⟩
    -- the interval of some entry would have made a filter
    rw [hkeeps.finds_eq_of_expands hplan hchosen hfinds hexpands] at hnone
    obtain ⟨-, -, e, he, hwell⟩ := hdescends
    cases hwell.symm.trans ((Entry.filter?_records_eq_none_iff hl).1 hnone e he)
  | malformed hfinds hexpands hmem hnone =>
    rw [hkeeps.finds_eq_of_expands hplan hchosen hfinds hexpands] at hmem
    obtain ⟨e, -, rfl⟩ := List.mem_map.1 hmem
    cases hnone.symm.trans (Entry.ofDocument?_document hl e)
  | cutShort hfinds _ hfind =>
    -- the collection has counted one more find, and answers still
    obtain ⟨-, -, rfl⟩ := hkeeps.finds_eq hplan hchosen hfinds
    rw [find_of_answers hkeeps.answers.next] at hfind
    cases hfind
  | linked hfinds hseeks hfind =>
    obtain rfl := hkeeps.finds_eq_of_expands hplan hchosen hfinds hseeks.expands
    obtain ⟨rfl, -, rfl⟩ := hkeeps.finds_eq hplan hchosen hfinds
    constructor
    · intro _
      rw [find_of_answers hkeeps.answers.next] at hfind
      obtain rfl := Except.ok.inj (congrArg Prod.fst hfind)
      rw [select_full, takeLimit, hkeeps.documents_eq,
        Entry.filter_map_document hl compiles hseeks.filtered]
      exact ⟨_, rfl⟩
    · -- if all intervals were empty, there would be no filter
      intro hplain
      have hnone := (Entry.filter?_records_eq_none_iff hl).2 fun e he =>
        Bool.eq_false_iff.2 fun hwell =>
          hplain ⟨hseeks.expands.1, hseeks.expands.2.1, e, he, hwell⟩
      cases hseeks.filtered.symm.trans hnone

end Collection.Keeps

/-! ### Two layouts -/

theorem Counters.ext_get {a b : Counters} (h : ∀ c, a.get c = b.get c) : a = b := by
  obtain ⟨⟩ := a
  obtain ⟨⟩ := b
  simp only [Counters.mk.injEq]
  exact ⟨h .selectsExecuted, h .selectsShortCircuited, h .selectsFailed, h .termsDropped,
    h .primaryQueries, h .descendantQueries, h .descendantsAttached, h .descendantsOrphaned⟩

/-- Two courses, each under a layout of its own, end alike: they make forests of one shape with
related documents, and count alike on their ways. -/
structure Course.EndsAlike (l l' : Layout) (related : Json → Json → Prop)
    (course course' : Course) : Prop where
  /-- The forests have one shape. -/
  forests : ∃ forest forest', course.result l = .ok forest ∧ course'.result l' = .ok forest' ∧
    List.Forall₂ (Tree.Alike related) forest forest'
  /-- The counters move alike. -/
  tally : ∀ c, course.tally l c = course'.tally l' c

namespace Course

variable {l l' : Layout} {related : Json → Json → Prop}

/-- Courses that end alike count alike in all, since the same terms are dropped and neither
fails. -/
theorem EndsAlike.count_eq {course course' : Course} (h : EndsAlike l l' related course course')
    (q : Query) (c : Counter) : course.count l q c = course'.count l' q c := by
  obtain ⟨forest, forest', hresult, hresult', -⟩ := h.forests
  cases c with
  | termsDropped =>
    show (q.assemble l).dropped = (q.assemble l').dropped
    rw [Query.dropped_assemble, Query.dropped_assemble]
  | selectsFailed => simp [count, hresult, hresult', Except.isOk, Except.toBool]
  | _ => exact h.tally _

theorem endsAlike_idle : EndsAlike l l' related .idle .idle where
  forests := ⟨[], [], rfl, rfl, .nil⟩
  tally c := by cases c <;> rfl

theorem endsAlike_flat {α : Type} {shown shown' : α → Json} {xs : List α}
    (hrelated : ∀ x ∈ xs, related (shown x) (shown' x)) (plan plan' : Plan) :
    EndsAlike l l' related (.flat plan (xs.map shown)) (.flat plan' (xs.map shown')) where
  forests := by
    refine ⟨_, _, rfl, rfl, ?_⟩
    rw [List.map_map, List.map_map, List.forall₂_map_left_iff, List.forall₂_map_right_iff,
      List.forall₂_same]
    exact fun x hx => .node (hrelated x hx) .nil
  tally c := by cases c <;> rfl

/-- The same entries that are linked under the same ones end alike. -/
theorem endsAlike_linked (hl : l.IsRegular) (hl' : l'.IsRegular) {chosen fetched : List Entry}
    (hchosen : ∀ e ∈ chosen, related (e.document l) (e.document l'))
    (hfetched : ∀ e ∈ fetched, related (e.document l) (e.document l')) (plan plan' : Plan)
    (filter filter' : Predicate) :
    EndsAlike l l' related
      (.linked plan (chosen.map (Entry.document l)) filter (fetched.map (Entry.document l)))
      (.linked plan' (chosen.map (Entry.document l')) filter'
        (fetched.map (Entry.document l'))) := by
  have hskeleton (e : Entry) : (e.record l).skeleton = (e.record l').skeleton := rfl
  have hrecords := Entry.records_map_document hl
  have hrecords' := Entry.records_map_document hl'
  obtain ⟨hforest, hattached, horphaned⟩ := link_alike hskeleton hchosen hfetched
  constructor
  · refine ⟨_, _, rfl, rfl, ?_⟩
    rw [hrecords, hrecords, hrecords', hrecords']
    exact hforest
  · intro c
    cases c with
    | descendantsAttached =>
      simp only [tally, hrecords, hrecords']
      exact hattached
    | descendantsOrphaned =>
      -- all that was fetched has a skeleton, so only what is not attached is orphaned
      simp only [tally, hrecords, hrecords', List.length_map, Nat.sub_self]
      exact horphaned
    | _ => rfl

end Course

section

variable (compiles : String → Bool) {l l' : Layout} (hl : l.IsRegular) (hl' : l'.IsRegular)

include hl hl'

/-- The courses of a query under two layouts end alike, with the two documents of one entry at every
node. -/
theorem Selector.Takes.endsAlike {q : Query} (hq : q.Avoids l.skeletonKey)
    (hq' : q.Avoids l'.skeletonKey) {entries : List Entry} {request : Request}
    {c c' t t' : Collection} (hkeeps : c.Keeps l entries) (hkeeps' : c'.Keeps l' entries)
    {course course' : Course}
    (htakes : (ofLayout l).Takes (Collection.store compiles) request q c course t)
    (htakes' : (ofLayout l').Takes (Collection.store compiles) request q c' course' t') :
    course.EndsAlike l l' (q.modifier.ShowsSame l l' entries) course' := by
  by_cases hknown : ∀ term ∈ TermNode.leavesOf q.terms.search, term.isRegistered = false
  · -- there is nothing to look for under either layout
    obtain ⟨rfl, -⟩ := htakes.eq_idle ((Query.plan?_assemble_eq_none_iff l q).2 hknown)
    obtain ⟨rfl, -⟩ := htakes'.eq_idle ((Query.plan?_assemble_eq_none_iff l' q).2 hknown)
    exact Course.endsAlike_idle
  have hsome (l : Layout) : ∃ plan, (q.assemble l).plan? = some plan :=
    Option.ne_none_iff_exists'.1 fun hnone =>
      hknown ((Query.plan?_assemble_eq_none_iff l q).1 hnone)
  obtain ⟨plan, hplan⟩ := hsome l
  obtain ⟨plan', hplan'⟩ := hsome l'
  obtain ⟨chosen, hsubset, hchosen, hchosen'⟩ := Query.exists_select_plans compiles
    hl.toNamesBounds hl'.toNamesBounds hq hq' hplan hplan' entries
  have hcourse := hkeeps.course hplan hchosen hl htakes
  have hcourse' := hkeeps'.course hplan' hchosen' hl' htakes'
  by_cases hdescends : q.Descends chosen
  · obtain ⟨filter, rfl⟩ := hcourse.1 hdescends
    obtain ⟨filter', rfl⟩ := hcourse'.1 hdescends
    -- whole documents are shown in the last step
    have hshows (e : Entry) (he : e ∈ entries) :
        q.modifier.ShowsSame l l' entries (e.document l) (e.document l') :=
      ⟨e, he, (Modifier.shown_of_laststep hdescends.1 l _).symm,
        (Modifier.shown_of_laststep hdescends.1 l' _).symm⟩
    exact Course.endsAlike_linked hl hl' (fun e he => hshows e (hsubset he))
      (fun e he => hshows e (List.mem_of_mem_filter he)) plan plan' filter filter'
  · obtain rfl := hcourse.2 hdescends
    obtain rfl := hcourse'.2 hdescends
    exact Course.endsAlike_flat (fun e he => ⟨e, hsubset he, rfl, rfl⟩) plan plan'

/-- The names of the keys do not matter. Two collections keep the same entries, each under a layout
of its own, and a query asks for nothing under the keys of the two skeletons. Then the selects on
them succeed with forests of one shape: at every node stand the two documents of one entry, or what
is shown of them. Counters that were the same before are the same after. -/
theorem Selector.selectIn_renamed {q : Query} (hq : q.Avoids l.skeletonKey)
    (hq' : q.Avoids l'.skeletonKey) {entries : List Entry} (request : Request)
    {s s' : Session Collection} (hkeeps : s.store.Keeps l entries)
    (hkeeps' : s'.store.Keeps l' entries) (hcounters : s.counters = s'.counters) :
    ∃ forest forest' t t',
      (ofLayout l).selectIn (Collection.store compiles) request q s = (.ok forest, t) ∧
      (ofLayout l').selectIn (Collection.store compiles) request q s' = (.ok forest', t') ∧
      List.Forall₂ (Tree.Alike (q.modifier.ShowsSame l l' entries)) forest forest' ∧
      t.counters = t'.counters := by
  obtain ⟨course, t, hselect, htakes, hleaves⟩ :=
    exists_takes (ofLayout l) (Collection.store compiles) request q s
  obtain ⟨course', t', hselect', htakes', hleaves'⟩ :=
    exists_takes (ofLayout l') (Collection.store compiles) request q s'
  have halike := htakes.endsAlike compiles hl hl' hq hq' hkeeps hkeeps' htakes'
  obtain ⟨forest, forest', hresult, hresult', hforest⟩ := halike.forests
  have hcounts (c : Counter) : t.counters.get c = t'.counters.get c := by
    rw [hleaves.counters, hleaves'.counters, hcounters, ofLayout, ofLayout, halike.count_eq]
  refine ⟨forest, forest', t, t', ?_, ?_, hforest, Counters.ext_get hcounts⟩
  · exact hselect.trans (congrArg (·, t) hresult)
  · exact hselect'.trans (congrArg (·, t') hresult')

end

/-- Three entries below each other, the one in the middle known by a number, kept under the usual
keys and under other ones. The two lower ones are attached under the first. -/
theorem Selector.selectIn_renamed_nested :
    let other : Layout := {
      skeletonKey := "place", idKey := "name", parentKey := "under", leftKey := "from"
      rightKey := "to" }
    let folder : Entry := {
      id := .text "a" (by decide), parentId := none
      left := .int 1 (by decide), right := .int 10 (by decide)
      payload := [("tag", .string "folder")] }
    let shelf : Entry := {
      id := .number (.int 7 (by decide)), parentId := some folder.id
      left := .int 2 (by decide), right := .int 9 (by decide)
      payload := [("tag", .string "shelf")] }
    let sheet : Entry := {
      id := .text "c" (by decide), parentId := some shelf.id
      left := .int 3 (by decide), right := .int 4 (by decide), payload := [] }
    let entries := [sheet, folder, shelf]
    let q : Query := {
      terms := {
        search := [.leaf ⟨"tag", "=", .text "folder"⟩]
        skeleton := [.leaf ⟨"tag.name", "!=", .text "b"⟩] }
      modifier := { laststep := true, tree := true } }
    let start (l : Layout) : Session Collection :=
      { store := { documents := entries.map (Entry.document l) } }
    let compiles (_ : String) : Bool := true
    Layout.IsRegular {} ∧ other.IsRegular ∧ q.Avoids "_digger" ∧ q.Avoids "place" ∧
    ∃ forest forest' t t',
      (ofLayout {}).selectIn (Collection.store compiles) {} q (start {}) = (.ok forest, t) ∧
      (ofLayout other).selectIn (Collection.store compiles) {} q (start other) =
        (.ok forest', t') ∧
      List.Forall₂ (Tree.Alike (q.modifier.ShowsSame {} other entries)) forest forest' ∧
      t.counters = t'.counters ∧ t.counters.descendantsAttached = 2 := by
  intro other folder shelf sheet entries q start compiles
  have hl : Layout.IsRegular {} := ⟨⟨by decide, by decide, by decide, rfl⟩, by decide⟩
  have hother : other.IsRegular := ⟨⟨by decide, by decide, by decide, rfl⟩, by decide⟩
  have hq : q.Avoids "_digger" := by
    rw [Query.Avoids]
    decide +kernel
  have hq' : q.Avoids "place" := by
    rw [Query.Avoids]
    decide +kernel
  have hkeeps (l : Layout) : (start l).store.Keeps l entries :=
    ⟨rfl, fun number hfailing => by cases hfailing⟩
  obtain ⟨forest, forest', t, t', hselect, hselect', hforest, hcounters⟩ :=
    selectIn_renamed compiles hl hother hq hq' {} (hkeeps {}) (hkeeps other) rfl
  have hattached : t.counters.descendantsAttached = 2 := by
    have ht : ((ofLayout {}).selectIn (Collection.store compiles) {} q (start {})).2 = t := by
      rw [hselect]
    rw [← ht]
    decide +kernel
  exact ⟨hl, hother, hq, hq', forest, forest', t, t', hselect, hselect', hforest, hcounters,
    hattached⟩

end ForestQuery
