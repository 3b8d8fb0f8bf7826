import ForestQuery.Proofs.Plan.Assembly
import ForestQuery.Proofs.Select.Hierarchy

/-!
# Selecting trees from a hierarchy

A select that asks for trees, on a collection in memory that holds a hierarchy, succeeds and returns
the whole hierarchy below its results.

## Key results

- `Selector.selectIn_tree_complete`: the select from its query to its trees and counters
-/

namespace ForestQuery

/-- A query for trees asks for whole documents with their descendants. -/
theorem Query.plan_of_tree {l : Layout} {q : Query} {plan : Plan}
    (hlast : q.modifier.laststep = true) (htree : q.modifier.tree = true)
    (hplan : (q.assemble l).plan? = some plan) :
    plan.projection = .full ∧ plan.includeChildren = true := by
  rw [Query.assemble_eq] at hplan
  split at hplan
  · exact nomatch hplan
  · obtain rfl := Option.some.inj hplan
    simp [hlast, htree, Modifier.includesChildren]

namespace Selector

open SelectM

/-- Until the store is asked, a query with a plan only logs and counts what it drops. -/
theorem runIn_run_of_plan {σ : Type} (selector : Selector) (store : Store σ) (request : Request)
    {q : Query} {plan : Plan} (hplan : selector.plan? q = some plan) (s : Session σ) :
    ∃ t, (selector.run store request q).runIn s =
        (selector.execute store request plan).runIn t ∧
      t.store = s.store ∧
      t.counters.descendantsOrphaned = s.counters.descendantsOrphaned ∧
      t.counters.descendantsAttached = s.counters.descendantsAttached := by
  rw [plan?] at hplan
  rw [runIn_run]
  dsimp only
  rw [hplan]
  dsimp only
  split
  · exact ⟨_, rfl, rfl, rfl, rfl⟩
  · exact ⟨_, rfl, rfl, rfl, rfl⟩

section

variable (compiles : String → Bool) {l : Layout} (hl : l.NamesBounds) {s : Session Collection}
  (h : Hierarchy l s.store.documents) (hanswers : s.store.Answers) {plan : Plan}

include hl h hanswers

/-- A plan for trees finds its results, and links what lies inside their intervals. -/
theorem runIn_execute_tree (hprojection : plan.projection = .full)
    (hchildren : plan.includeChildren = true) (request : Request) :
    let documents := s.store.documents
    let results := Collection.takeLimit plan.limit
      (documents.filter (plan.filter.isMatch compiles ·))
    ∃ t, ((ofLayout l).execute (Collection.store compiles) request plan).runIn s =
        (.ok (link (l.records results) (l.records (l.within results documents))).forest, t) ∧
      t.counters.descendantsOrphaned = s.counters.descendantsOrphaned ∧
      t.counters.descendantsAttached = s.counters.descendantsAttached +
        .ofNat (l.within results documents).length := by
  intro documents results
  have hacquire : (Collection.store compiles).acquire request s.store = (.ok (), s.store) := rfl
  have hfind := Collection.find_of_answers hanswers compiles plan.toFind
  have hselect : Collection.select compiles plan.toFind documents = results := by
    obtain ⟨⟨filter, projection, limit⟩, includeChildren⟩ := plan
    subst hprojection
    exact Collection.select_full compiles filter limit documents
  rw [hselect] at hfind
  rw [runIn_execute, hacquire]
  dsimp only
  rw [hfind]
  dsimp only
  by_cases hempty : results = []
  · -- nothing was found: there is nothing to expand
    have hwithin : l.within [] documents = [] := List.filter_false _
    rw [hempty, hwithin, List.isEmpty_nil, Bool.not_true, Bool.and_false, if_neg Bool.false_ne_true]
    exact ⟨_, rfl, rfl, (UInt64.add_zero _).symm⟩
  · have hexpanded :
        (plan.includeChildren && plan.projection.isFull && !results.isEmpty) = true := by
      rw [hchildren, hprojection, List.isEmpty_eq_false_iff.2 hempty]
      rfl
    rw [if_pos hexpanded]
    have hresults : results ⊆ documents := fun document hdocument =>
      List.mem_of_mem_filter (Collection.takeLimit_subset _ _ hdocument)
    exact h.runIn_expand hresults compiles hl hempty rfl hanswers.next

/-- A select for trees succeeds on a hierarchy. Its roots are the results, every tree has the whole
hierarchy below its root, no descendant is orphaned, and as many are attached as lie inside the
interval of some result. -/
theorem selectIn_tree_complete {q : Query} (hlast : q.modifier.laststep = true)
    (htree : q.modifier.tree = true) (hplan : (ofLayout l).plan? q = some plan)
    (request : Request) :
    let documents := s.store.documents
    let results := Collection.takeLimit plan.limit
      (documents.filter (plan.filter.isMatch compiles ·))
    ∃ forest t, (ofLayout l).selectIn (Collection.store compiles) request q s = (.ok forest, t) ∧
      forest.map Tree.document = results ∧
      (∀ tree ∈ forest, Nests l documents tree) ∧
      t.counters.descendantsOrphaned = s.counters.descendantsOrphaned ∧
      t.counters.descendantsAttached = s.counters.descendantsAttached +
        .ofNat (l.within results documents).length := by
  intro documents results
  have hresults : results ⊆ documents := fun document hdocument =>
    List.mem_of_mem_filter (Collection.takeLimit_subset _ _ hdocument)
  obtain ⟨hprojection, hchildren⟩ := Query.plan_of_tree hlast htree hplan
  rw [selectIn_eq]
  obtain ⟨u, hrun, hstore, horphaned, hattached⟩ := runIn_run_of_plan (ofLayout l)
    (Collection.store compiles) request hplan
    (s.logged (.selectStart q.terms.search.length q.terms.skeleton.length))
  rw [Session.store_logged] at hstore
  -- what the select finds is found in the store as it was
  rw [← hstore] at h hanswers
  obtain ⟨t, hexecute, horphaned', hattached'⟩ :=
    runIn_execute_tree compiles hl h hanswers hprojection hchildren request
  rw [hrun, hexecute]
  rw [hstore] at h ⊢
  refine ⟨_, _, rfl, h.map_document_forest hresults _,
    fun tree => h.nests_of_mem_forest hresults, ?_, ?_⟩
  · exact horphaned'.trans horphaned
  · rw [hattached, hstore] at hattached'
    exact hattached'

end

/-- A document at a place in the hierarchy, with a tag. -/
def tagged (id parent : String) (left right : Json) (tag : String) : Json :=
  .object [
    ("_digger", .object [("diggerid", .string id), ("diggerparentid", .string parent),
      ("left", left), ("right", right)]),
    ("tag", .string tag)]

/-- A folder inside another one, stored after a file that stands in both with a left bound of two
and a half, and beside a root that names itself. -/
theorem selectIn_tree_complete_nested_folders :
    let half : Json := .number (.float ⟨false, 5 * (unitsPerOne / 2), by decide +kernel⟩)
    let outer := tagged "a" "" (.ofNat 1) (.ofNat 10) "folder"
    let inner := tagged "b" "a" (.ofNat 2) (.ofNat 7) "folder"
    let documents := [tagged "d" "b" half (.ofNat 4) "file", outer, inner,
      tagged "e" "b" (.ofNat 5) (.ofNat 6) "file", tagged "c" "c" (.ofNat 11) (.ofNat 14) "other",
      tagged "f" "c" (.ofNat 12) (.ofNat 13) "file"]
    let s : Session Collection := { store := { documents } }
    let q : Query := {
      terms := { search := [.leaf ⟨"tag", "=", .text "folder"⟩] }
      modifier := { laststep := true, tree := true } }
    let compiles (_ : String) : Bool := true
    Layout.NamesBounds {} ∧ Hierarchy {} documents ∧ s.store.Answers ∧
      ∃ forest t, (ofLayout {}).selectIn (Collection.store compiles) {} q s = (.ok forest, t) ∧
        forest.map Tree.document = [outer, inner] ∧
        (∀ tree ∈ forest, Nests {} documents tree) ∧
        t.counters.descendantsOrphaned = 0 ∧ t.counters.descendantsAttached = 3 := by
  intro half outer inner documents s q compiles
  have hl : Layout.NamesBounds {} := ⟨by decide, by decide, by decide, rfl⟩
  have h : Hierarchy {} s.store.documents := by
    refine ⟨by decide +kernel, isNestedSet_of_parents ?_ ?_ ?_ ?_⟩
    · decide +kernel
    · decide +kernel
    · decide +kernel
    · decide +kernel
  have hanswers : s.store.Answers := fun _ hfailing => nomatch hfailing
  obtain ⟨forest, t, hselect, hforest, hnests, horphaned, hattached⟩ :=
    selectIn_tree_complete compiles hl h hanswers (q := q) rfl rfl rfl {}
  have hthree : t.counters.descendantsAttached = 3 := hattached.trans (by decide +kernel)
  exact ⟨hl, h, hanswers, forest, t, hselect, hforest, hnests, horphaned, hthree⟩

end Selector

end ForestQuery
