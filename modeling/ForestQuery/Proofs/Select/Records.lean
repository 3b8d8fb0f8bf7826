import ForestQuery.Skeleton
import Mathlib.Data.List.Basic

/-!
# Documents and their records

The records of documents are those of the documents that have skeletons. Results are expanded only
if all of them have: then no document is missing among their records.

## Key results

- `mem_records`: a record holds a document with its skeleton
- `mapM_ofDocument?`, `mapM_ofDocument?_eq_none`: when all documents have records
-/

namespace ForestQuery

/-- The records of the documents that have skeletons. -/
def Layout.records (l : Layout) (documents : List Json) : List Record :=
  documents.filterMap (Record.ofDocument? l)

variable {l : Layout} {documents : List Json}

theorem mem_records {r : Record} :
    r ∈ l.records documents ↔
      r.document ∈ documents ∧ Skeleton.ofDocument? l r.document = some r.skeleton := by
  obtain ⟨skeleton, document⟩ := r
  rw [Layout.records, List.mem_filterMap]
  simp only [Record.ofDocument?, Option.map_eq_some_iff]
  constructor
  · intro hdecoded
    obtain ⟨d, hd, s, hs, heq⟩ := hdecoded
    obtain ⟨rfl, rfl⟩ := Record.mk.inj heq
    exact ⟨hd, hs⟩
  · intro hstored
    obtain ⟨hd, hs⟩ := hstored
    exact ⟨document, hd, skeleton, hs, rfl⟩

theorem map_skeleton_records (l : Layout) (documents : List Json) :
    (l.records documents).map (·.skeleton) = documents.filterMap (Skeleton.ofDocument? l) := by
  rw [Layout.records, List.map_filterMap]
  congr 1
  funext document
  rw [Record.ofDocument?, Option.map_map]
  exact Option.map_id'

/-- A condition on documents is a condition on their records. -/
theorem records_filter (p : Json → Bool) :
    l.records (documents.filter p) = (l.records documents).filter (p ·.document) := by
  rw [Layout.records, Layout.records, List.filterMap_filter, List.filter_filterMap]
  congr 1
  funext document
  rw [Record.ofDocument?]
  cases Skeleton.ofDocument? l document with
  | none => simp
  | some skeleton =>
    by_cases hp : p document
    · simp [Option.filter, hp]
    · simp [Option.filter, hp]

/-- A document with a skeleton comes first among the records if it comes first. -/
private theorem records_cons {document : Json}
    (h : (Skeleton.ofDocument? l document).isSome) (rest : List Json) :
    ∃ skeleton, Record.ofDocument? l document = some ⟨skeleton, document⟩ ∧
      l.records (document :: rest) = ⟨skeleton, document⟩ :: l.records rest := by
  obtain ⟨skeleton, hskeleton⟩ := Option.isSome_iff_exists.1 h
  have hrecord : Record.ofDocument? l document = some ⟨skeleton, document⟩ := by
    rw [Record.ofDocument?, hskeleton]
    rfl
  exact ⟨skeleton, hrecord, List.filterMap_cons_some hrecord⟩

section

variable (hdecodes : ∀ document ∈ documents, (Skeleton.ofDocument? l document).isSome)

include hdecodes

/-- If all documents have skeletons, none is missing among the records. -/
theorem map_document_records : (l.records documents).map (·.document) = documents := by
  induction documents with
  | nil => rfl
  | cons document rest ih =>
    obtain ⟨skeleton, -, hrecords⟩ := records_cons (hdecodes document List.mem_cons_self) rest
    have hrest := ih fun d hd => hdecodes d (List.mem_cons_of_mem _ hd)
    rw [hrecords, List.map_cons, hrest]

theorem mapM_ofDocument? :
    documents.mapM (Record.ofDocument? l) = some (l.records documents) := by
  induction documents with
  | nil => rfl
  | cons document rest ih =>
    obtain ⟨skeleton, hrecord, hrecords⟩ :=
      records_cons (hdecodes document List.mem_cons_self) rest
    have hrest := ih fun d hd => hdecodes d (List.mem_cons_of_mem _ hd)
    rw [hrecords, List.mapM_cons, hrecord, hrest]
    rfl

theorem map_document_filter (p : Json → Bool) :
    ((l.records documents).filter (p ·.document)).map (·.document) = documents.filter p := by
  conv => rhs; rw [← map_document_records hdecodes, List.filter_map]
  rfl

end

theorem not_forall_isSome_iff :
    (¬ ∀ document ∈ documents, (Skeleton.ofDocument? l document).isSome) ↔
      ∃ document ∈ documents, Skeleton.ofDocument? l document = none := by
  simp

/-- If some document has no skeleton, not all documents have records. -/
theorem mapM_ofDocument?_eq_none {document : Json} (hmem : document ∈ documents)
    (hnone : Skeleton.ofDocument? l document = none) :
    documents.mapM (Record.ofDocument? l) = none := by
  induction documents with
  | nil => exact absurd hmem List.not_mem_nil
  | cons first rest ih =>
    rw [List.mapM_cons]
    rcases List.mem_cons.1 hmem with rfl | hmem
    · rw [Record.ofDocument?, hnone]
      rfl
    · rw [ih hmem]
      cases Record.ofDocument? l first <;> rfl

end ForestQuery
