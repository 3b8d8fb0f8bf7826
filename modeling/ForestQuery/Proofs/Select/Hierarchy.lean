import ForestQuery.Proofs.Descent.Intervals
import ForestQuery.Proofs.Linking.NestedSet
import ForestQuery.Proofs.Select.Records
import ForestQuery.Proofs.Select.Steps
import ForestQuery.Store.Memory

/-!
# Expanding results in a hierarchy

Documents are a hierarchy if all of them have skeletons and these are a nested set. Expanding
results on a collection in memory that holds a hierarchy finds what lies inside the intervals of the
results, and links each of these documents under the one that it names as its parent.

## Key results

- `Hierarchy.exists_filter`: the filter for descendants holds of what lies inside the intervals
- `Hierarchy.nests_of_mem_forest`: every linked tree has the whole hierarchy below its root
- `Hierarchy.runIn_merge`: linking attaches all that was fetched
- `Hierarchy.runIn_expand`: expanding results never fails
-/

namespace ForestQuery

namespace Layout

/-- The document lies inside the interval of another one. -/
def encloses (l : Layout) (outer document : Json) : Bool :=
  match Skeleton.ofDocument? l outer, Skeleton.ofDocument? l document with
  | some a, some d => a.contains d
  | _, _ => false

/-- The document names another one as its parent, and not itself. -/
def namesParent (l : Layout) (parent document : Json) : Bool :=
  match Skeleton.ofDocument? l parent, Skeleton.ofDocument? l document with
  | some a, some d => d.namesParent a.id
  | _, _ => false

/-- The documents that lie inside the interval of some result. -/
def within (l : Layout) (results documents : List Json) : List Json :=
  documents.filter fun document => results.any (l.encloses · document)

end Layout

/-- Documents are a hierarchy: all of them have skeletons, and these are a nested set. -/
structure Hierarchy (l : Layout) (documents : List Json) : Prop where
  /-- Every document has a skeleton. -/
  decodes : ∀ document ∈ documents, (Skeleton.ofDocument? l document).isSome
  /-- The skeletons are a nested set. -/
  nested : IsNestedSet (documents.filterMap (Skeleton.ofDocument? l))

/-- A tree has the whole hierarchy below its root: what lies inside the interval of the root, each
document once, and under every node the documents that name it as their parent, in their order. -/
structure Nests (l : Layout) (documents : List Json) (t : Tree) : Prop where
  /-- The nodes are the root and what lies inside its interval. -/
  nodes : (t.nodes.map Tree.document).Perm
    (t.document :: documents.filter (l.encloses t.document))
  /-- The children of a node are the documents that name it as their parent. -/
  children : ∀ node ∈ t.nodes,
    node.children.map Tree.document = documents.filter (l.namesParent node.document)

/-! ### Documents and their records -/

section

variable {l : Layout} {documents : List Json}

theorem encloses_eq {a d : Record} (ha : a ∈ l.records documents) (hd : d ∈ l.records documents) :
    l.encloses a.document d.document = a.skeleton.contains d.skeleton := by
  rw [Layout.encloses, (mem_records.1 ha).2, (mem_records.1 hd).2]

theorem namesParent_eq {a d : Record} (ha : a ∈ l.records documents)
    (hd : d ∈ l.records documents) :
    l.namesParent a.document d.document = d.skeleton.namesParent a.id := by
  rw [Layout.namesParent, (mem_records.1 ha).2, (mem_records.1 hd).2]
  rfl

end

/-! ### Finds in memory -/

/-- The collection fails no find that is to come. -/
def Collection.Answers (c : Collection) : Prop :=
  ∀ number, c.failing = some number → number < c.finds

namespace Collection

variable {c : Collection}

/-- A collection that answers goes on answering. -/
theorem Answers.next (h : c.Answers) : Answers { c with finds := c.finds + 1 } :=
  fun number hfailing => Nat.lt_succ_of_lt (h number hfailing)

theorem find_of_answers (h : c.Answers) (compiles : String → Bool) (request : Find) :
    (store compiles).find request c =
      (.ok (select compiles request c.documents), { c with finds := c.finds + 1 }) := by
  have hfailing : ¬ c.failing = some c.finds := fun hfailing =>
    Nat.lt_irrefl _ (h _ hfailing)
  exact if_neg hfailing

/-- Whole documents are returned as they are. -/
theorem select_full (compiles : String → Bool) (filter : Predicate) (limit : Option UInt64)
    (documents : List Json) :
    select compiles ⟨filter, .full, limit⟩ documents =
      takeLimit limit (documents.filter (filter.isMatch compiles ·)) :=
  List.map_id _

theorem takeLimit_subset (limit : Option UInt64) (documents : List Json) :
    takeLimit limit documents ⊆ documents := by
  cases limit with
  | none => exact List.Subset.refl _
  | some n => exact List.take_subset _ _

end Collection

/-! ### Linking a hierarchy -/

namespace Hierarchy

variable {l : Layout} {documents results : List Json} (h : Hierarchy l documents)

include h

theorem isNestedSet_records : IsNestedSet ((l.records documents).map (·.skeleton)) := by
  rw [map_skeleton_records]
  exact h.nested

/-- The documents inside the interval of one of them are those that its skeleton contains. -/
theorem filter_encloses {a : Record} (ha : a ∈ l.records documents) :
    documents.filter (l.encloses a.document) =
      ((l.records documents).filter fun d => a.skeleton.contains d.skeleton).map (·.document) := by
  rw [← map_document_filter h.decodes]
  congr 1
  exact List.filter_congr fun d hd => encloses_eq ha hd

/-- The documents that name one of them as their parent are those whose skeletons do. -/
theorem filter_namesParent {a : Record} (ha : a ∈ l.records documents) :
    documents.filter (l.namesParent a.document) =
      ((l.records documents).filter (·.skeleton.namesParent a.id)).map (·.document) := by
  rw [← map_document_filter h.decodes]
  congr 1
  exact List.filter_congr fun d hd => namesParent_eq ha hd

theorem decodes_of_subset (hresults : results ⊆ documents) :
    ∀ document ∈ results, (Skeleton.ofDocument? l document).isSome :=
  fun document hdocument => h.decodes document (hresults hdocument)

/-- No document inside the intervals of results lacks a skeleton. -/
theorem length_records_within :
    (l.records (l.within results documents)).length = (l.within results documents).length := by
  have hsubset : l.within results documents ⊆ documents := List.filter_subset_self _
  have hdocuments := map_document_records (h.decodes_of_subset hsubset)
  have hlength := congrArg List.length hdocuments
  rwa [List.length_map] at hlength

variable (hresults : results ⊆ documents)

include hresults

omit h in
theorem mem_records_of_subset {r : Record} (hr : r ∈ l.records results) :
    r ∈ l.records documents := by
  obtain ⟨hdocument, hskeleton⟩ := mem_records.1 hr
  exact mem_records.2 ⟨hresults hdocument, hskeleton⟩

/-- A document lies inside the interval of some result if the skeleton of one contains its own. -/
theorem any_encloses {d : Record} (hd : d ∈ l.records documents) :
    results.any (l.encloses · d.document) =
      (l.records results).any fun r => r.skeleton.contains d.skeleton := by
  conv => lhs; rw [← map_document_records (h.decodes_of_subset hresults), List.any_map]
  rw [Bool.eq_iff_iff, List.any_eq_true, List.any_eq_true]
  refine exists_congr fun r => and_congr_right fun hr => ?_
  have hrecord := mem_records_of_subset hresults hr
  rw [Function.comp_apply, encloses_eq hrecord hd]

theorem records_within :
    l.records (l.within results documents) =
      (l.records documents).filter fun d =>
        (l.records results).any fun r => r.skeleton.contains d.skeleton := by
  rw [Layout.within, records_filter]
  exact List.filter_congr fun d hd => h.any_encloses hresults hd

/-- The roots of the linked trees are the results. -/
theorem map_document_forest (descendants : List Record) :
    (link (l.records results) descendants).forest.map Tree.document = results := by
  rw [forest_link, List.map_map]
  exact map_document_records (h.decodes_of_subset hresults)

/-- If what lies inside the intervals of results is linked under them, every tree has the whole
hierarchy below its root. -/
theorem nests_of_mem_forest {t : Tree}
    (ht : t ∈ (link (l.records results) (l.records (l.within results documents))).forest) :
    Nests l documents t := by
  rw [forest_link, h.records_within hresults, List.mem_map] at ht
  obtain ⟨root, hroot, rfl⟩ := ht
  have hrecord := mem_records_of_subset hresults hroot
  have hkeep : ∀ d ∈ l.records documents, root.skeleton.contains d.skeleton = true →
      ((l.records results).any fun r => r.skeleton.contains d.skeleton) = true :=
    fun d _ hcontains => List.any_eq_true.2 ⟨root, hroot, hcontains⟩
  constructor
  · -- the nodes are the root and what occurs under it
    have hperm := h.isNestedSet_records.perm_occurrences hrecord hkeep
    have hdocuments := hperm.map (·.document)
    rw [List.map_map, ← h.filter_encloses hrecord] at hdocuments
    rw [Placement.map_document_nodes]
    exact hdocuments.cons root.document
  · intro node hnode
    obtain ⟨a, ha, hdocument, hchildren⟩ :=
      h.isNestedSet_records.children_of_mem_nodes hrecord hkeep hnode
    rw [hchildren, hdocument, h.filter_namesParent ha]

/-- Whatever lies inside the intervals of results is attached. -/
theorem attached_within :
    (link (l.records results) (l.records (l.within results documents))).attached =
      (l.within results documents).length := by
  have hattached := h.isNestedSet_records.attached_link fun r hr =>
    mem_records_of_subset hresults hr
  rw [← h.records_within hresults] at hattached
  rw [hattached, h.length_records_within]

/-- The filter for the descendants of results holds of what lies inside their intervals. -/
theorem exists_filter (compiles : String → Bool) (hl : l.NamesBounds) (hne : results ≠ []) :
    ∃ filter, Descent.filter? (.intervals l) l (l.records results) = some filter ∧
      documents.filter (filter.isMatch compiles ·) = l.within results documents := by
  have hfinite : ∀ r ∈ l.records results, r.skeleton.IsFinite := by
    intro r hr
    exact Skeleton.isFinite_of_ofDocument? (mem_records.1 hr).2
  have hwell : ∀ r ∈ l.records results, r.skeleton.isWellFormed = true := by
    intro r hr
    have hrecord := mem_records_of_subset hresults hr
    exact h.isNestedSet_records.wellFormed _ (List.mem_map_of_mem hrecord)
  cases hfilter : Descent.filter? (.intervals l) l (l.records results) with
  | none =>
    -- there would have to be a result, and all intervals would have to be empty
    rw [Descent.filter?_intervals_eq_none_iff hl hfinite] at hfilter
    obtain ⟨document, hdocument⟩ := List.exists_mem_of_ne_nil results hne
    rw [← map_document_records (h.decodes_of_subset hresults)] at hdocument
    obtain ⟨r, hr, -⟩ := List.mem_map.1 hdocument
    exact nomatch (hfilter r hr).symm.trans (hwell r hr)
  | some filter =>
    refine ⟨filter, rfl, List.filter_congr fun document hdocument => ?_⟩
    obtain ⟨skeleton, hskeleton⟩ := Option.isSome_iff_exists.1 (h.decodes document hdocument)
    have hd : ⟨skeleton, document⟩ ∈ l.records documents := mem_records.2 ⟨hdocument, hskeleton⟩
    have hmatch := Descent.isMatch_filter?_intervals compiles hl hskeleton hfinite hfilter
    rw [Bool.eq_iff_iff, hmatch, h.any_encloses hresults hd, List.any_eq_true]
    refine exists_congr fun r => and_congr_right fun hr => ?_
    rw [and_iff_right (hwell r hr)]

/-! ### Expanding results -/

/-- Linking what lies inside the intervals of results orphans nothing. -/
theorem runIn_merge {σ : Type} (s : Session σ) :
    let fetched := l.within results documents
    let linked := link (l.records results) (l.records fetched)
    ((Selector.ofLayout l).merge (l.records results) fetched).runIn s =
      (.ok linked.forest, (s.counted .descendantsAttached fetched.length).logged
        (.treeMerged linked.forest.length fetched.length)) := by
  intro fetched linked
  have hattached : linked.attached = fetched.length := h.attached_within hresults
  have hlength : (l.records fetched).length = fetched.length := h.length_records_within
  have htotal : linked.attached + linked.orphaned = (l.records fetched).length :=
    attached_add_orphaned_link _ _
  have horphaned : linked.orphaned + (fetched.length - (l.records fetched).length) = 0 := by omega
  rw [Selector.runIn_merge]
  -- all that was fetched has skeletons, and all of it is attached
  change (Except.ok linked.forest, Selector.merged s linked.forest.length linked.attached
    (linked.orphaned + (fetched.length - (l.records fetched).length))) = _
  rw [horphaned, hattached]
  rfl

/-- Expanding results finds what lies inside their intervals, and links it. -/
theorem runIn_expand (compiles : String → Bool) (hl : l.NamesBounds) (hne : results ≠ [])
    {s : Session Collection} (hdocuments : s.store.documents = documents)
    (hanswers : s.store.Answers) :
    ∃ t, ((Selector.ofLayout l).expand (Collection.store compiles) results).runIn s =
        (.ok (link (l.records results) (l.records (l.within results documents))).forest, t) ∧
      t.counters.descendantsOrphaned = s.counters.descendantsOrphaned ∧
      t.counters.descendantsAttached = s.counters.descendantsAttached +
        .ofNat (l.within results documents).length := by
  subst hdocuments
  obtain ⟨filter, hfilter, hfetched⟩ := h.exists_filter hresults compiles hl hne
  have hprimary := mapM_ofDocument? (h.decodes_of_subset hresults)
  have hfind := Collection.find_of_answers hanswers compiles ⟨filter, .full, none⟩
  rw [Collection.select_full, Collection.takeLimit, hfetched] at hfind
  rw [Selector.runIn_expand]
  dsimp only [Selector.ofLayout]
  rw [hprimary]
  dsimp only
  rw [hfilter]
  dsimp only
  rw [hfind]
  exact ⟨_, h.runIn_merge hresults _, rfl, rfl⟩

end Hierarchy

end ForestQuery
