import ForestQuery.Proofs.Descent.Intervals
import ForestQuery.Proofs.Plan.Assembly
import ForestQuery.Proofs.Select.Records

/-!
# Entries and the documents that layouts make of them

An entry is a record that no layout has named yet: an id, perhaps the id of a parent, two bounds,
and whatever else is kept with them. A layout makes a document of it, with the first four under the
key of the skeleton. As long as the keys of the layout do not get in each other's way, the skeleton
of the document is the one of the entry, and what lies outside the skeleton is found as if there
were none. So a query that keeps outside holds of the same entries under all layouts.

## Key results

- `Entry.ofDocument?_document`: the skeleton of a stored entry is read back
- `Entry.at?_document`: what lies outside the skeleton is found in every layout
- `Query.isMatch_filter_document`: a plan matches the same entries under two layouts
-/

namespace ForestQuery

/-! ### Entries -/

/-- The id of an entry. -/
inductive Entry.Id
  /-- A text that is not empty. -/
  | text (value : String) (nonempty : value ≠ "")
  /-- A number. -/
  | number (value : Number)

/-- A record, whatever the layout of the document that keeps it. -/
structure Entry where
  /-- Its id. -/
  id : Entry.Id
  /-- The id of its parent; roots have none. -/
  parentId : Option Entry.Id
  /-- The left bound of its interval. -/
  left : Number
  /-- The right bound of its interval. -/
  right : Number
  /-- The members that are kept beside its skeleton. -/
  payload : List (String × Json)

namespace Entry

/-- The id as it is stored. -/
def Id.toJson : Id → Json
  | text value _ => .string value
  | number value => .number value

/-- The text that the id is known by. -/
def Id.display : Id → String
  | text value _ => value
  | number value => value.text

/-- The place of the entry in the hierarchy. -/
def skeleton (e : Entry) : Skeleton where
  id := e.id.display
  parentId := e.parentId.map Id.display
  left := e.left.toBinary64
  right := e.right.toBinary64

/-- What is stored of the skeleton, under the keys of a layout. -/
def members (l : Layout) (e : Entry) : List (String × Json) :=
  [(l.idKey, e.id.toJson), (l.leftKey, .number e.left), (l.rightKey, .number e.right)] ++
    (e.parentId.map fun parent => (l.parentKey, parent.toJson)).toList

/-- The document that a layout makes of the entry. -/
def document (l : Layout) (e : Entry) : Json :=
  .object (Json.put l.skeletonKey (.ofMembers (e.members l)) e.payload)

/-- The record of that document. -/
def record (l : Layout) (e : Entry) : Record := ⟨e.skeleton, e.document l⟩

end Entry

/-- The keys of the layout do not get in each other's way: the boundary fields name the bounds, and
no key inside the skeleton is used twice. -/
structure Layout.IsRegular (l : Layout) : Prop extends l.NamesBounds where
  /-- The keys inside the skeleton are different ones. -/
  distinct : [l.idKey, l.leftKey, l.rightKey, l.parentKey].Nodup

/-! ### Reading a stored entry -/

/-- When no key is repeated, members that are put one after another are all found, besides those
that were there before under other keys. -/
theorem Json.lookup_foldl_put_eq_some_iff {members : List (String × Json)}
    (hdistinct : (members.map Prod.fst).Nodup) (done : List (String × Json)) {key : String}
    {value : Json} :
    (members.foldl (fun done member => put member.1 member.2 done) done).lookup key = some value ↔
      (key, value) ∈ members ∨ key ∉ members.map Prod.fst ∧ done.lookup key = some value := by
  induction members generalizing done with
  | nil => simp
  | cons member rest ih =>
    obtain ⟨first, stored⟩ := member
    rw [List.map_cons, List.nodup_cons] at hdistinct
    obtain ⟨hfirst, hrest⟩ := hdistinct
    rw [List.foldl_cons, ih hrest]
    by_cases hkey : key = first
    · -- it is put here, and not again
      subst hkey
      have hnone : (key, value) ∉ rest := fun hmem =>
        hfirst (List.mem_map.2 ⟨_, hmem, rfl⟩)
      simp [lookup_put_self, hfirst, hnone, eq_comm]
    · simp [lookup_put_of_ne hkey, hkey]

theorem Json.member?_ofMembers_eq_some_iff {members : List (String × Json)}
    (hdistinct : (members.map Prod.fst).Nodup) {key : String} {value : Json} :
    (ofMembers members).member? key = some value ↔ (key, value) ∈ members := by
  rw [ofMembers, member?, lookup_foldl_put_eq_some_iff hdistinct]
  simp

namespace Entry

theorem Id.idText?_toJson : (id : Id) → Skeleton.idText? id.toJson = some id.display
  | text _ nonempty => if_neg (by simpa using nonempty)
  | number _ => rfl

section

variable {l : Layout} (hl : l.IsRegular) (e : Entry)

include hl

theorem nodup_keys_members : ((e.members l).map Prod.fst).Nodup := by
  have hdistinct := hl.distinct
  rw [members]
  cases e.parentId with
  | none => exact hdistinct.sublist (by simp)
  | some parent => exact hdistinct

theorem member?_parentKey :
    (Json.ofMembers (e.members l)).member? l.parentKey = e.parentId.map Id.toJson := by
  have hdistinct := hl.distinct
  have hmem (value : Json) : (Json.ofMembers (e.members l)).member? l.parentKey = some value ↔
      (l.parentKey, value) ∈ e.members l :=
    Json.member?_ofMembers_eq_some_iff (nodup_keys_members hl e)
  cases hparent : e.parentId with
  | none =>
    rw [Option.map_none, Option.eq_none_iff_forall_ne_some]
    intro value hvalue
    have hstored := (hmem value).1 hvalue
    simp only [members, hparent, Option.map_none, Option.toList_none, List.append_nil,
      List.mem_cons, Prod.mk.injEq, List.not_mem_nil, or_false] at hstored
    -- the key of the parent's id is none of the three others
    grind
  | some parent =>
    rw [Option.map_some, hmem]
    simp [members, hparent]

/-- The skeleton of a stored entry is read back. -/
theorem ofDocument?_document : Skeleton.ofDocument? l (e.document l) = some e.skeleton := by
  have hmem {key : String} {value : Json} (hstored : (key, value) ∈ e.members l) :=
    (Json.member?_ofMembers_eq_some_iff (nodup_keys_members hl e)).2 hstored
  have hid : (Json.ofMembers (e.members l)).member? l.idKey = some e.id.toJson :=
    hmem (by simp [members])
  have hleft : (Json.ofMembers (e.members l)).member? l.leftKey = some (.number e.left) :=
    hmem (by simp [members])
  have hright : (Json.ofMembers (e.members l)).member? l.rightKey = some (.number e.right) :=
    hmem (by simp [members])
  have hparent : (e.parentId.map Id.toJson).bind Skeleton.idText? = e.parentId.map Id.display := by
    cases e.parentId with
    | none => rfl
    | some parent => exact parent.idText?_toJson
  rw [Skeleton.ofDocument?, document, Json.member?, Json.lookup_put_self]
  simp [hid, hleft, hright, member?_parentKey hl, hparent, Id.idText?_toJson, Skeleton.bound?,
    skeleton]

theorem records_map_document (entries : List Entry) :
    l.records (entries.map (document l)) = entries.map (record l) := by
  rw [Layout.records, List.filterMap_map, ← List.filterMap_eq_map]
  congr 1
  funext e
  rw [Function.comp_apply, Record.ofDocument?, ofDocument?_document hl]
  rfl

end

/-- What lies outside the skeleton is found as if there were no skeleton. -/
theorem at?_document {l : Layout} {field : String}
    (houtside : (Path.keys field).head? ≠ some l.skeletonKey) (e : Entry) :
    (e.document l).at? field = (Json.object e.payload).at? field := by
  have hkeys : Path.keys field ≠ [] := by
    rw [Path.keys, ne_eq, List.map_eq_nil_iff]
    exact Path.splitDots_ne_nil _
  obtain ⟨key, rest, hpath⟩ := List.exists_cons_of_ne_nil hkeys
  have hne : key ≠ l.skeletonKey := by simpa [hpath] using houtside
  rw [Json.at?, Json.at?, hpath, Json.descend?, Json.descend?, document, Json.member?, Json.member?,
    Json.lookup_put_of_ne hne]

end Entry

/-! ### Queries outside the skeleton -/

/-- The query asks for nothing under a key: no path of a field begins with it. -/
def Query.Avoids (q : Query) (key : String) : Prop :=
  ∀ term ∈ TermNode.leavesOf q.terms.search ++ TermNode.leavesOf q.terms.skeleton,
    (Path.keys term.field).head? ≠ some key

theorem Layout.NamesBounds.ne_boundaryField {l : Layout} (hl : l.NamesBounds) {field : String}
    (houtside : (Path.keys field).head? ≠ some l.skeletonKey) (relation : Relation) :
    field ≠ l.boundaryField relation := by
  rintro rfl
  refine houtside ?_
  cases relation with
  | greater | greaterOrEqual =>
    rw [boundaryField, leftField, Path.keys_join hl.skeletonKey hl.leftKey, List.head?_cons]
  | less | lessOrEqual =>
    rw [boundaryField, rightField, Path.keys_join hl.skeletonKey hl.rightKey, List.head?_cons]

section

variable (compiles : String → Bool) {l l' : Layout} (hl : l.NamesBounds) (hl' : l'.NamesBounds)

include hl hl'

/-- A term outside the skeletons has the same predicate under two layouts. -/
theorem Term.predicate?_eq_of_outside {term : Term}
    (houtside : (Path.keys term.field).head? ≠ some l.skeletonKey)
    (houtside' : (Path.keys term.field).head? ≠ some l'.skeletonKey) :
    term.predicate? l = term.predicate? l' := by
  rw [predicate?, predicate?]
  congr 1
  funext operator
  cases operator with
  | equal | unequal | text => rfl
  | range relation =>
    -- only the bound of a range depends on the layout, and that on a boundary field alone
    rw [Layout.condition, Layout.condition, Layout.bound, Layout.bound,
      if_neg (hl.ne_boundaryField houtside relation),
      if_neg (hl'.ne_boundaryField houtside' relation)]

theorem Term.holds_document_iff {term : Term}
    (houtside : (Path.keys term.field).head? ≠ some l.skeletonKey)
    (houtside' : (Path.keys term.field).head? ≠ some l'.skeletonKey) (e : Entry) :
    term.Holds compiles l (e.document l) ↔ term.Holds compiles l' (e.document l') := by
  have hsame := predicate?_eq_of_outside hl hl' houtside houtside'
  rw [Holds, Holds, hsame]
  refine forall₂_congr fun p hp => ?_
  obtain ⟨operator, -, rfl⟩ := Option.map_eq_some_iff.1 hp
  rw [Predicate.isMatch, Predicate.isMatch, Entry.at?_document houtside,
    Entry.at?_document houtside']

/-- The plans of a query outside the skeletons match the same entries under two layouts. -/
theorem Query.isMatch_filter_document {q : Query} (hq : q.Avoids l.skeletonKey)
    (hq' : q.Avoids l'.skeletonKey) {plan plan' : Plan}
    (hplan : (q.assemble l).plan? = some plan) (hplan' : (q.assemble l').plan? = some plan')
    (e : Entry) :
    plan.filter.isMatch compiles (e.document l) =
      plan'.filter.isMatch compiles (e.document l') := by
  have hholds (term) (hterm : term ∈ TermNode.leavesOf q.terms.search ++
      TermNode.leavesOf q.terms.skeleton) :=
    Term.holds_document_iff compiles hl hl' (hq term hterm) (hq' term hterm) e
  have hsearch (term) (hterm : term ∈ TermNode.leavesOf q.terms.search) :=
    hholds term (List.mem_append_left _ hterm)
  have hskeleton (node) (hnode : node ∈ q.terms.skeleton) (term) (hterm : term ∈ node.leaves) :=
    hholds term (List.mem_append_right _ (TermNode.mem_leavesOf.2 ⟨node, hnode, hterm⟩))
  -- a known search term gives both plans, with the predicates of the same terms
  rw [assemble_eq] at hplan hplan'
  split at hplan
  · cases hplan
  split at hplan'
  · cases hplan'
  obtain rfl := Option.some.inj hplan
  obtain rfl := Option.some.inj hplan'
  rw [Bool.eq_iff_iff, Predicate.isMatch_conjunction, Predicate.isMatch_conjunction,
    allMatch_planPredicates, allMatch_planPredicates]
  refine and_congr (forall₂_congr hsearch) (or_congr_right (exists_congr fun node => ?_))
  exact and_congr_right fun hnode => and_congr_right fun _ => forall₂_congr (hskeleton node hnode)

end

end ForestQuery
