import ForestQuery.Proofs.Decimal.Distinct
import ForestQuery.Proofs.Layout.Fields
import ForestQuery.Proofs.Linking.Forest
import ForestQuery.Proofs.Linking.Nodes
import ForestQuery.Proofs.Predicate.Comparison
import ForestQuery.Proofs.Select.Records

/-!
# Which parents linking recognizes

A descendant stands under a root if it names the id of the root as its parent, and ids are texts.
Conditions compare what is stored instead. For ids that are stored as texts the two agree. Numbers
that compare as equal may have different texts, and then the descendant is found by a condition on
the parent's id and linked to no one: this is so unless it names the very number that is stored, of
the same kind and with the same sign.

## Key results

- `Skeleton.idText?_eq_some_iff`: of the values that equal an id, only that id has its text
- `mem_children_link_iff`: what stands under a root are the descendants that name its id
- `mem_children_link_iff_eq`: if the parent that is named equals the id of a root, the descendant
  stands under the root exactly if it names the very value
-/

namespace ForestQuery

/-! ### Ids and the values that they are read from -/

namespace Skeleton

/-- Of the values that a condition takes for equal to an id, only that id has its text. -/
theorem idText?_eq_some_iff {compiles : String → Bool} {stored named : Json} {id : String}
    (hid : idText? stored = some id)
    (hequal : (Condition.equals named).holds compiles (some stored) = true) :
    idText? named = some id ↔ named = stored := by
  rw [Condition.holds] at hequal
  cases stored with
  | string s =>
    cases named with
    | string t =>
      have hsame : s = t := by
        simpa [Condition.equalsField, Json.equalsValue, Json.same] using hequal
      subst hsame
      simp [hid]
    | null | bool | number | array | object => cases hequal
  | number n =>
    obtain rfl := Option.some.inj hid
    cases named with
    | number m => simp [idText?, Number.text_inj]
    | null | bool | string | array | object => cases hequal
  | null | bool | array | object => cases hid

/-- The parent's id of a decoded skeleton is the text of the value that stands in the document. -/
theorem parentId_eq {l : Layout} {document : Json} {s : Skeleton}
    (h : ofDocument? l document = some s) :
    s.parentId = (l.stored? l.parentKey document).bind idText? := by
  simp only [ofDocument?, Option.bind_eq_bind, Option.bind_eq_some_iff] at h
  obtain ⟨stored, hstored, id, -, left, -, right, -, hs⟩ := h
  obtain rfl := Option.some.inj hs
  rw [Layout.stored?, hstored, Option.bind_some]

end Skeleton

/-- A record is decoded from its document. -/
theorem eq_of_document_eq {l : Layout} {documents documents' : List Json} {r r' : Record}
    (hr : r ∈ l.records documents) (hr' : r' ∈ l.records documents')
    (hdocument : r.document = r'.document) : r = r' := by
  have hskeleton := (mem_records.1 hr).2
  rw [hdocument, (mem_records.1 hr').2] at hskeleton
  cases r
  cases r'
  simp only [Record.mk.injEq]
  exact ⟨(Option.some.inj hskeleton).symm, hdocument⟩

/-! ### What stands under a root -/

section

variable {l : Layout} {primary descendants : List Json} {i : Nat} {p d : Record}

/-- A primary record is the root of a tree, and under it stand the descendants that name its id and
not themselves. -/
theorem mem_children_link_iff (hp : (l.records primary)[i]? = some p)
    (hd : d ∈ l.records descendants) (hself : d.skeleton.isSelfParented = false) :
    ∃ t, (link (l.records primary) (l.records descendants)).forest[i]? = some t ∧
      t.document = p.document ∧
      (d.document ∈ t.children.map Tree.document ↔ d.parentId = some p.id) := by
  refine ⟨(placement (l.records descendants) p).tree, ?_, rfl, ?_⟩
  · rw [forest_link, List.getElem?_map, hp]
    rfl
  · have hchildren : (childrenOf (l.records descendants) p.id).map (·.1.document) =
        ((l.records descendants).filter (·.skeleton.namesParent p.id)).map (·.document) := by
      rw [← map_fst_childrenOf, List.map_map]
      rfl
    have hnames : d.skeleton.namesParent p.id = true ↔ d.parentId = some p.id := by
      rw [Skeleton.namesParent, hself, Bool.not_false, Bool.true_and, beq_iff_eq]
      rfl
    rw [map_document_children_placement, hchildren, List.mem_map, ← hnames]
    constructor
    · intro hmem
      obtain ⟨r, hr, hdocument⟩ := hmem
      obtain ⟨hr, hparent⟩ := List.mem_filter.1 hr
      obtain rfl := eq_of_document_eq hr hd hdocument
      exact hparent
    · intro hparent
      exact ⟨d, List.mem_filter.2 ⟨hd, hparent⟩, rfl⟩

/-- If the value that a descendant names as its parent equals the id of a primary record for a
condition, the descendant stands under the root of that record exactly if the two values are the
same: the same text, or the same number of the same kind. -/
theorem mem_children_link_iff_eq (compiles : String → Bool) {stored named : Json}
    (hp : (l.records primary)[i]? = some p)
    (hd : d ∈ l.records descendants) (hself : d.skeleton.isSelfParented = false)
    (hid : l.stored? l.idKey p.document = some stored)
    (hparent : l.stored? l.parentKey d.document = some named)
    (hequal : (Condition.equals named).holds compiles (some stored) = true) :
    ∃ t, (link (l.records primary) (l.records descendants)).forest[i]? = some t ∧
      t.document = p.document ∧
      (d.document ∈ t.children.map Tree.document ↔ named = stored) := by
  obtain ⟨t, ht, hroot, hplaced⟩ := mem_children_link_iff hp hd hself
  refine ⟨t, ht, hroot, hplaced.trans ?_⟩
  obtain ⟨value, hvalue, htext⟩ :=
    Skeleton.exists_id (mem_records.1 (List.mem_of_getElem? hp)).2
  obtain rfl := Option.some.inj (hid.symm.trans hvalue)
  have hnamed : d.parentId = Skeleton.idText? named := by
    rw [Record.parentId, Skeleton.parentId_eq (mem_records.1 hd).2, hparent, Option.bind_some]
  rw [hnamed]
  exact Skeleton.idText?_eq_some_iff htext hequal

end

/-- A stored record with a place in the hierarchy, with some value as its id and one as its
parent's, in the default layout. -/
def Json.numbered (id parent : Json) (left right : Nat) : Json :=
  .object [("_digger", .object [("diggerid", id), ("diggerparentid", parent), ("left", .ofNat left),
    ("right", .ofNat right)])]

/-- A parent that is named by the number of its id. -/
theorem mem_children_link_iff_eq_number :
    let id : Json := .ofNat 7
    let parent := Json.numbered id .null 1 4
    let child := Json.numbered (.string "b") id 2 3
    ∃ t, (link (Layout.records {} [parent]) (Layout.records {} [child])).forest[0]? = some t ∧
      t.document = parent ∧ child ∈ t.children.map Tree.document := by
  intro id parent child
  have hp : (Layout.records {} [parent])[0]? =
      some ⟨⟨Decimal.intText 7, none, .ofInt 1, .ofInt 4⟩, parent⟩ := rfl
  have hd : ⟨⟨"b", some (Decimal.intText 7), .ofInt 2, .ofInt 3⟩, child⟩ ∈
      Layout.records {} [child] := List.mem_singleton.2 rfl
  obtain ⟨t, ht, hroot, hplaced⟩ := mem_children_link_iff_eq (fun _ => true) hp hd
    (by decide +kernel) rfl rfl (by decide +kernel)
  exact ⟨t, ht, hroot, hplaced.2 rfl⟩

/-- A parent that is named by the float that equals its id: the condition finds the descendant, and
linking leaves it out. -/
theorem not_mem_children_link_float :
    let id : Number := .int 1 (by decide)
    let named : Number := .float ⟨false, unitsPerOne, by decide +kernel⟩
    let parent := Json.numbered (.number id) .null 1 4
    let child := Json.numbered (.string "b") (.number named) 2 3
    let compiles (_ : String) : Bool := true
    ∃ p d, Layout.records {} [parent] = [p] ∧ Layout.records {} [child] = [d] ∧
      d.skeleton.isSelfParented = false ∧
      (Condition.equals (.number named)).holds compiles (some (.number id)) = true ∧
      ∀ t ∈ (link [p] [d]).forest, child ∉ t.children.map Tree.document := by
  intro id named parent child compiles
  let p : Record := ⟨⟨id.text, none, .ofInt 1, .ofInt 4⟩, parent⟩
  let d : Record := ⟨⟨"b", some named.text, .ofInt 2, .ofInt 3⟩, child⟩
  have hp : (Layout.records {} [parent])[0]? = some p := rfl
  have hd : d ∈ Layout.records {} [child] := List.mem_singleton.2 rfl
  have hself : d.skeleton.isSelfParented = false := by decide +kernel
  refine ⟨p, d, rfl, rfl, hself, by decide +kernel, ?_⟩
  intro t ht hplaced
  obtain ⟨t', ht', -, hiff⟩ := mem_children_link_iff hp hd hself
  obtain rfl : t' = t := by
    rw [forest_link, List.getElem?_map, hp] at ht'
    rw [forest_link, List.map_singleton, List.mem_singleton] at ht
    exact (Option.some.inj ht').symm.trans ht.symm
  have htext : named.text = id.text := Option.some.inj (hiff.1 hplaced)
  have hnumber : named = id := Number.text_inj.1 htext
  exact absurd hnumber (by decide +kernel)

end ForestQuery
