import ForestQuery.Proofs.Linking.Forest
import ForestQuery.Proofs.Select.Courses
import ForestQuery.Store.Memory

/-!
# What modifiers do to a result

The terms of a query say which documents match. The modifiers of the query cut the list of these
documents short, show all of each document or only its skeleton, and let trees grow under them. They
do nothing else: whatever the modifiers, the roots of a result are the first of the documents that
match, in the order in which they are stored.

## Key results

- `Query.plan?_assemble_modifier`: modifiers change what a plan shows of how many documents
- `Selector.Takes.map_document_roots`: the roots of a result are what was found
- `Selector.selectIn_roots`: which documents are the roots, and when modifiers change nothing
-/

namespace ForestQuery

namespace Modifier

/-- What a modifier leaves of the documents that match: the first one, the first ones up to a limit
that is not zero, or all of them. -/
def cut (m : Modifier) (documents : List Json) : List Json :=
  match m.first, m.limit with
  | true, _ => documents.take 1
  | false, some n => if n = 0 then documents else documents.take n.toNat
  | false, none => documents

/-- What a modifier shows of a document: all of it in the last step, else only what is stored under
the key of the skeleton. -/
def shown (m : Modifier) (l : Layout) (document : Json) : Json :=
  if m.laststep then document
  else .object ((document.member? l.skeletonKey).toList.map fun value => (l.skeletonKey, value))

theorem takeLimit_effectiveLimit (m : Modifier) (documents : List Json) :
    Collection.takeLimit m.effectiveLimit documents = m.cut documents := by
  obtain ⟨limit, first, laststep, tree⟩ := m
  rw [effectiveLimit, cut]
  cases first with
  | true => rfl
  | false =>
    cases limit with
    | none => rfl
    | some n =>
      by_cases hzero : n = 0
      · subst hzero
        rfl
      · have hpos : 0 < n := UInt64.pos_iff_ne_zero.2 hzero
        simp [Option.filter, hpos, hzero, Collection.takeLimit]

theorem apply_eq_shown (m : Modifier) (l : Layout) (document : Json) :
    (if m.laststep then Projection.full else .skeleton l.skeletonKey).apply document =
      m.shown l document := by
  rw [shown]
  split
  · rfl
  · rw [Projection.apply]
    cases document.member? l.skeletonKey <;> rfl

/-- What is shown of a document has the skeleton of the document. -/
theorem ofDocument?_shown (m : Modifier) (l : Layout) (document : Json) :
    Skeleton.ofDocument? l (m.shown l document) = Skeleton.ofDocument? l document := by
  rw [shown]
  split
  · rfl
  · have hmember : (Json.object ((document.member? l.skeletonKey).toList.map fun value =>
        (l.skeletonKey, value))).member? l.skeletonKey = document.member? l.skeletonKey := by
      cases document.member? l.skeletonKey <;> simp [Json.member?]
    rw [Skeleton.ofDocument?, Skeleton.ofDocument?, hmember]

end Modifier

/-! ### Plans -/

/-- The modifiers of a query change what its plan shows of how many documents, and nothing else. -/
theorem Query.plan?_assemble_modifier {l : Layout} {terms : QueryTerms} {plan : Plan}
    (hplan : (Query.assemble { terms } l).plan? = some plan) (m : Modifier) :
    (Query.assemble { terms, modifier := m } l).plan? = some {
      filter := plan.filter
      projection := if m.laststep then .full else .skeleton l.skeletonKey
      limit := m.effectiveLimit
      includeChildren := m.includesChildren } := by
  rw [assemble_eq] at hplan ⊢
  split at hplan
  · exact nomatch hplan
  · next hmeant =>
    obtain rfl := Option.some.inj hplan
    exact if_neg hmeant

/-- What a plan selects of stored documents. -/
theorem Modifier.select_eq (m : Modifier) (compiles : String → Bool) (l : Layout)
    (filter : Predicate) (documents : List Json) :
    Collection.select compiles ⟨filter, if m.laststep then .full else .skeleton l.skeletonKey,
        m.effectiveLimit⟩ documents =
      (m.cut (documents.filter (filter.isMatch compiles ·))).map (m.shown l) := by
  rw [Collection.select, takeLimit_effectiveLimit]
  exact List.map_congr_left fun document _ => m.apply_eq_shown l document

namespace Collection

theorem find_eq_ok {compiles : String → Bool} {request : Find} {c t : Collection}
    {results : List Json} (h : c.find compiles request = (.ok results, t)) :
    results = select compiles request c.documents := by
  rw [find] at h
  split at h
  · exact nomatch h
  · exact (Except.ok.inj (congrArg Prod.fst h)).symm

end Collection

namespace Selector

section

variable {σ : Type} {selector : Selector} {store : Store σ} {request : Request} {q : Query}
  {s t : σ} {course : Course} {forest : List Tree}

/-- The roots of a result are what was found, also where descendants are linked under them. -/
theorem Takes.map_document_roots (htakes : selector.Takes store request q s course t)
    (hplan : selector.plan? q ≠ none) (hresult : course.result selector.layout = .ok forest) :
    ∃ plan results u, selector.Finds store request q s plan results u ∧
      forest.map Tree.document = results ∧
      (q.modifier.laststep = false → ∀ root ∈ forest, root.isLeaf = true) := by
  cases htakes with
  | idle hnone => exact absurd hnone hplan
  | refused | unanswered | malformed | cutShort => exact nomatch hresult
  | plain hfinds | childless hfinds =>
    obtain rfl := Except.ok.inj hresult
    refine ⟨_, _, _, hfinds, ?_, fun _ root hroot => ?_⟩
    · rw [List.map_map]
      exact List.map_id' _
    · obtain ⟨document, -, rfl⟩ := List.mem_map.1 hroot
      rfl
  | linked hfinds hseeks =>
    obtain rfl := Except.ok.inj hresult
    refine ⟨_, _, _, hfinds, ?_, fun hlast => ?_⟩
    · rw [forest_link, List.map_map]
      exact map_document_records hseeks.decodes
    · exact nomatch hlast.symm.trans hseeks.expands.1

end

/-- Queries with the same terms that come to the same are run in the same way. -/
theorem selectIn_congr {σ : Type} (selector : Selector) (store : Store σ) (request : Request)
    {q q' : Query} (hterms : q.terms = q'.terms)
    (hassemble : q.assemble selector.layout = q'.assemble selector.layout) (s : Session σ) :
    selector.selectIn store request q s = selector.selectIn store request q' s := by
  rw [selectIn, selectIn, select, select, run, run, hterms, hassemble]

/-- Whatever the modifiers of a query on a collection, the roots of its result are the first of the
documents that match its terms. Each is shown as it is stored or cut to its skeleton, and then it is
a leaf, has the skeleton of the stored document, and does not depend on whether trees were asked
for. -/
theorem selectIn_roots {selector : Selector} {terms : QueryTerms} {plan : Plan}
    (hplan : selector.plan? { terms } = some plan) (compiles : String → Bool) (request : Request)
    (s : Session Collection) (m : Modifier) :
    let outcome := selector.selectIn (Collection.store compiles) request { terms, modifier := m } s
    let matching := s.store.documents.filter (plan.filter.isMatch compiles ·)
    (∀ forest, outcome.1 = .ok forest →
      forest.map Tree.document = (m.cut matching).map (m.shown selector.layout) ∧
        (m.laststep = false → ∀ root ∈ forest, root.isLeaf = true)) ∧
    (∀ document, Skeleton.ofDocument? selector.layout (m.shown selector.layout document) =
      Skeleton.ofDocument? selector.layout document) ∧
    (m.laststep = false → ∀ tree, selector.selectIn (Collection.store compiles) request
      { terms, modifier := { m with tree } } s = outcome) := by
  have hassemble := Query.plan?_assemble_modifier hplan m
  refine ⟨fun forest hforest => ?_, m.ofDocument?_shown selector.layout, fun hlast tree => ?_⟩
  · obtain ⟨course, t, hselect, htakes, -⟩ :=
      exists_takes selector (Collection.store compiles) request { terms, modifier := m } s
    rw [hselect] at hforest
    have hsome : selector.plan? { terms, modifier := m } ≠ none := by
      rw [plan?, hassemble]
      exact Option.some_ne_none _
    obtain ⟨plan', results, u, ⟨hplan', v, hacquire, hfind⟩, hroots, hleaves⟩ :=
      htakes.map_document_roots hsome hforest
    obtain rfl := Option.some.inj (hassemble.symm.trans hplan')
    obtain ⟨-, rfl⟩ := Prod.mk.inj hacquire
    refine ⟨?_, hleaves⟩
    rw [hroots, Collection.find_eq_ok hfind]
    exact m.select_eq compiles selector.layout plan.filter s.store.documents
  · have hsame : Query.assemble { terms, modifier := { m with tree } } selector.layout =
        Query.assemble { terms, modifier := m } selector.layout := by
      rw [Query.assemble, Query.assemble]
      simp only [Modifier.effectiveLimit, Modifier.includesChildren, hlast, Bool.false_and]
    refine selectIn_congr selector _ request ?_ hsame s
    rfl

/-- Two of three matching documents, one of them without a skeleton, shown without their tags. -/
theorem selectIn_roots_limited :
    let place : Json := .object [("diggerid", .string "a"), ("left", .ofNat 1), ("right", .ofNat 4)]
    let stored : List Json := [
      .object [("_digger", place), ("tag", .string "folder")],
      .object [("_digger", place), ("tag", .string "file")],
      .object [("tag", .string "folder")],
      .object [("_digger", place), ("tag", .array [.string "folder"])]]
    let terms : QueryTerms := { search := [.leaf ⟨"tag", "=", .text "folder"⟩] }
    let m : Modifier := { limit := some 2, tree := true }
    let compiles (_ : String) : Bool := true
    let outcome := (ofLayout {}).selectIn (Collection.store compiles) {} { terms, modifier := m }
      { store := { documents := stored } }
    ∃ plan forest, (ofLayout {}).plan? { terms } = some plan ∧ outcome.1 = .ok forest ∧
      forest.map Tree.document = [.object [("_digger", place)], .object []] ∧
      ∀ root ∈ forest, root.isLeaf = true := by
  intro place stored terms m compiles outcome
  let s : Session Collection := { store := { documents := stored } }
  obtain ⟨plan, hplan⟩ : ∃ plan, (ofLayout {}).plan? { terms } = some plan := ⟨_, rfl⟩
  obtain ⟨forest, hforest⟩ : ∃ forest, outcome.1 = .ok forest := ⟨_, rfl⟩
  obtain ⟨hroots, hleaves⟩ := (selectIn_roots hplan compiles {} s m).1 forest hforest
  refine ⟨plan, forest, hplan, hforest, hroots.trans ?_, hleaves rfl⟩
  obtain rfl := Option.some.inj hplan
  rfl

end Selector

end ForestQuery
