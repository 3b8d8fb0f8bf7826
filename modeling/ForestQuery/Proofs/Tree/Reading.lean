import ForestQuery.Proofs.Linking.Nodes
import ForestQuery.Proofs.Tree.Rendering

/-!
# Reading rendered trees

A rendered tree is read back by taking what stands under the key of the children as the children,
and the other members as the document. This undoes rendering if no document has that key, since then
only rendering sets it, and sets it exactly where there are children.

## Key results

- `Json.filter_put`: a member that was put under a new key is taken away again
- `ofDocument_rendered`: a rendered tree is read back
- `same_ofDocument`: documents that are equal as values are read as trees that are
- `ofDocuments_renderForest`: rendering a forest can be undone
-/

namespace ForestQuery

/-! ### Members without a key -/

namespace Json

/-- An object without a member under the key of rendered children. -/
def IsBare (document : Json) : Prop :=
  ∃ members, document = .object members ∧ members.lookup Tree.childrenKey = none

theorem filter_eq_self_of_lookup {key : String} {members : List (String × Json)}
    (hkey : members.lookup key = none) : members.filter (·.1 != key) = members := by
  rw [List.filter_eq_self]
  intro member hmember
  rw [bne_comm]
  exact List.lookup_eq_none_iff.1 hkey member hmember

/-- A member that was put under a new key is taken away again. -/
theorem filter_put {key : String} (value : Json) {members : List (String × Json)}
    (hkey : members.lookup key = none) :
    (put key value members).filter (·.1 != key) = members := by
  fun_induction put key value members with
  | case1 => simp
  | case2 v rest => simp at hkey
  | case3 k v rest hne hlt =>
    rw [List.filter_cons_of_neg (by simp), filter_eq_self_of_lookup hkey]
  | case4 k v rest hne hlt ih =>
    have hrest : rest.lookup key = none := by
      rwa [List.lookup_cons, beq_eq_false_iff_ne.2 hne] at hkey
    rw [List.filter_cons_of_pos (by simpa using Ne.symm hne), ih hrest]

/-- Members that are equal as values stay so without those under some keys. -/
theorem sameMembers_filter (p : String → Bool) {ms ns : List (String × Json)}
    (h : sameMembers ms ns = true) :
    sameMembers (ms.filter (p ·.1)) (ns.filter (p ·.1)) = true := by
  induction ms generalizing ns with
  | nil =>
    cases ns with
    | nil => rfl
    | cons n ns => cases h
  | cons m ms ih =>
    cases ns with
    | nil => cases h
    | cons n ns =>
      obtain ⟨k, a⟩ := m
      obtain ⟨l, b⟩ := n
      simp only [sameMembers, Bool.and_eq_true, beq_iff_eq] at h
      obtain ⟨⟨rfl, hab⟩, hrest⟩ := h
      have hfiltered := ih hrest
      rw [List.filter_cons, List.filter_cons]
      split
      · simp [sameMembers, hab, hfiltered]
      · exact hfiltered

end Json

/-! ### The tree that a document shows -/

namespace Tree

mutual

/-- The tree that a document shows: its children stand under their key, and the other members are
its document. -/
def ofDocument : Json → Tree
  | .object members => node (.object (members.filter (·.1 != childrenKey))) (childrenIn members)
  | document => leaf document

/-- The trees under the key of children. -/
def childrenIn : List (String × Json) → List Tree
  | [] => []
  | (key, value) :: rest => if key = childrenKey then ofSequence value else childrenIn rest

/-- The trees that a sequence of documents shows. -/
def ofSequence : Json → List Tree
  | .array items => ofDocuments items
  | _ => []

/-- The trees that documents show, in order. -/
def ofDocuments : List Json → List Tree
  | [] => []
  | document :: rest => ofDocument document :: ofDocuments rest

end

/-- The children are read from what stands under their key. -/
theorem childrenIn_eq (members : List (String × Json)) :
    childrenIn members = (members.lookup childrenKey).elim [] ofSequence := by
  induction members with
  | nil => rfl
  | cons member rest ih =>
    obtain ⟨key, value⟩ := member
    rw [childrenIn, List.lookup_cons, ih]
    by_cases hkey : key = childrenKey
    · rw [if_pos hkey, hkey, beq_self_eq_true]
      rfl
    · rw [if_neg hkey, beq_eq_false_iff_ne.2 (Ne.symm hkey)]

/-- A node with children is rendered as its members with one more under the key of the children. -/
theorem rendered_object (members : List (String × Json)) (child : Tree) (siblings : List Tree) :
    (node (.object members) (child :: siblings)).rendered =
      .object (Json.put childrenKey (.array (renderedAll (child :: siblings))) members) := rfl

/-! ### Reading back -/

/-- A bare document shows itself without children. -/
theorem ofDocument_object {members : List (String × Json)}
    (hkey : members.lookup childrenKey = none) :
    ofDocument (.object members) = leaf (.object members) := by
  rw [ofDocument, childrenIn_eq, hkey, Json.filter_eq_self_of_lookup hkey]
  rfl

/-- A bare document with children in it shows the document over the children. -/
theorem ofDocument_put {members : List (String × Json)} (hkey : members.lookup childrenKey = none)
    (children : List Json) :
    ofDocument (.object (Json.put childrenKey (.array children) members)) =
      node (.object members) (ofDocuments children) := by
  rw [ofDocument, childrenIn_eq, Json.lookup_put_self, Json.filter_put _ hkey]
  rfl

mutual

/-- A rendered tree is read back. -/
theorem ofDocument_rendered : (t : Tree) → (∀ n ∈ t.nodes, n.document.IsBare) →
    ofDocument t.rendered = t
  | node document children, hbare => by
    obtain ⟨members, hdocument, hkey⟩ := hbare _ List.mem_cons_self
    dsimp only [Tree.document] at hdocument
    subst hdocument
    have hchildren := ofDocuments_renderedAll children
      fun n hn => hbare n (List.mem_cons_of_mem _ hn)
    cases children with
    | nil => exact ofDocument_object hkey
    | cons child siblings => rw [rendered_object, ofDocument_put hkey, hchildren]

/-- Rendered trees are read back. -/
theorem ofDocuments_renderedAll : (ts : List Tree) → (∀ n ∈ nodesOf ts, n.document.IsBare) →
    ofDocuments (renderedAll ts) = ts
  | [], _ => rfl
  | t :: rest, hbare => by
    rw [nodesOf, List.forall_mem_append] at hbare
    rw [renderedAll, ofDocuments, ofDocument_rendered t hbare.1,
      ofDocuments_renderedAll rest hbare.2]

end

/-- A bare document with children in it has them under their key; without children it has no such
member. -/
theorem member?_toDocument {t : Tree} (hbare : t.document.IsBare) :
    t.toDocument.member? childrenKey =
      if t.isLeaf then none else some (.array (t.children.map toDocument)) := by
  obtain ⟨document, children⟩ := t
  obtain ⟨members, hdocument, hkey⟩ := hbare
  dsimp only [Tree.document] at hdocument
  subst hdocument
  have hchildren : children.map toDocument = renderedAll children := by
    rw [renderedAll_eq_map]
    exact List.map_congr_left fun t _ => toDocument_eq t
  rw [toDocument_eq, Tree.children, hchildren]
  cases children with
  | nil => exact hkey
  | cons child siblings =>
    rw [rendered_object, Json.member?, Json.lookup_put_self]
    rfl

/-! ### Equality of values -/

mutual

/-- Equality of trees: the same shape, and documents that are equal as values. -/
def same : Tree → Tree → Bool
  | node a as, node b bs => a.same b && sameAll as bs

/-- Equality of trees one by one. -/
def sameAll : List Tree → List Tree → Bool
  | [], [] => true
  | t :: ts, u :: us => t.same u && sameAll ts us
  | _, _ => false

end

mutual

/-- Documents that are equal as values show trees that are. -/
theorem same_ofDocument (a b : Json) (h : a.same b = true) :
    (ofDocument a).same (ofDocument b) = true := by
  cases a with
  | object ms =>
    cases b with
    | object ns =>
      have hdocument := Json.sameMembers_filter (· != childrenKey) h
      have hchildren := sameAll_childrenIn ms ns h
      rw [ofDocument, ofDocument, same, hchildren, Bool.and_true]
      exact hdocument
    | null | bool | number | string | array => cases h
  | null | bool | number | string | array =>
    cases b with
    | object ns => cases h
    | null | bool | number | string | array => simpa [ofDocument, leaf, same, sameAll] using h
termination_by structural a

/-- Members that are equal as values have the same trees under the key of children. -/
theorem sameAll_childrenIn (ms ns : List (String × Json)) (h : Json.sameMembers ms ns = true) :
    sameAll (childrenIn ms) (childrenIn ns) = true := by
  cases ms with
  | nil =>
    cases ns with
    | nil => rfl
    | cons n ns => cases h
  | cons m ms =>
    cases ns with
    | nil => cases h
    | cons n ns =>
      obtain ⟨k, a⟩ := m
      obtain ⟨l, b⟩ := n
      simp only [Json.sameMembers, Bool.and_eq_true, beq_iff_eq] at h
      obtain ⟨⟨rfl, hab⟩, hrest⟩ := h
      rw [childrenIn, childrenIn]
      split
      · exact sameAll_ofSequence a b hab
      · exact sameAll_childrenIn ms ns hrest
termination_by structural ms

/-- Values that are equal show the same trees as sequences. -/
theorem sameAll_ofSequence (a b : Json) (h : a.same b = true) :
    sameAll (ofSequence a) (ofSequence b) = true := by
  cases a with
  | array as =>
    cases b with
    | array bs => exact sameAll_ofDocuments as bs h
    | null | bool | number | string | object => cases h
  | null | bool | number | string | object =>
    cases b with
    | array bs => cases h
    | null | bool | number | string | object => rfl
termination_by structural a

/-- Documents that are equal as values one by one show trees that are. -/
theorem sameAll_ofDocuments (as bs : List Json) (h : Json.sameItems as bs = true) :
    sameAll (ofDocuments as) (ofDocuments bs) = true := by
  cases as with
  | nil =>
    cases bs with
    | nil => rfl
    | cons b bs => cases h
  | cons a as =>
    cases bs with
    | nil => cases h
    | cons b bs =>
      rw [Json.sameItems, Bool.and_eq_true] at h
      rw [ofDocuments, ofDocuments, sameAll, same_ofDocument a b h.1,
        sameAll_ofDocuments as bs h.2]
      rfl
termination_by structural as

end

/-! ### Forests -/

/-- If every document of a forest is an object without a member under the key of rendered children,
the forest is read back from what it is rendered to, and each tree from its own document. So forests
of such documents are the same if they are rendered to the same documents, and equal as values if
these are. A rendered node has its rendered children under the key if there are any, and nothing
else. -/
theorem ofDocuments_renderForest {forest : List Tree}
    (hbare : ∀ n ∈ nodesOf forest, n.document.IsBare) :
    ofDocuments (renderForest forest) = forest ∧
    (∀ t ∈ forest, ofDocument t.toDocument = t) ∧
    (∀ other, (∀ n ∈ nodesOf other, n.document.IsBare) →
      (renderForest other = renderForest forest → other = forest) ∧
      (Json.sameItems (renderForest other) (renderForest forest) = true →
        sameAll other forest = true)) ∧
    renderForest forest = forest.map toDocument ∧
    ∀ n ∈ nodesOf forest, n.toDocument.member? childrenKey =
      if n.isLeaf then none else some (.array (n.children.map toDocument)) := by
  have hread {ts : List Tree} (hts : ∀ n ∈ nodesOf ts, n.document.IsBare) :
      ofDocuments (renderForest ts) = ts := by
    rw [renderForest_eq_map, ← renderedAll_eq_map]
    exact ofDocuments_renderedAll ts hts
  refine ⟨hread hbare, ?_, ?_, ?_, ?_⟩
  · intro t ht
    rw [toDocument_eq]
    apply ofDocument_rendered
    intro n hn
    rw [nodesOf_eq_flatMap] at hbare
    exact hbare n (List.mem_flatMap.2 ⟨t, ht, hn⟩)
  · intro other hother
    constructor
    · intro hsame
      rw [← hread hother, hsame, hread hbare]
    · intro hsame
      have htrees := sameAll_ofDocuments _ _ hsame
      rwa [hread hother, hread hbare] at htrees
  · rw [renderForest_eq_map]
    exact List.map_congr_left fun t _ => (toDocument_eq t).symm
  · intro n hn
    exact member?_toDocument (hbare n hn)

/-- A root over a child and a grandchild, beside a root that stands alone. -/
theorem ofDocuments_renderForest_nested :
    let leaf' : Tree := leaf (.object [("name", .string "leaf")])
    let forest := [node (.object [("name", .string "root")]) [node (.object []) [leaf', leaf']],
      leaf (.object [("value", .null)])]
    (∀ n ∈ nodesOf forest, n.document.IsBare) ∧ ofDocuments (renderForest forest) = forest := by
  intro leaf' forest
  have hobject {members : List (String × Json)} (hkey : members.lookup childrenKey = none) :
      (Json.object members).IsBare := ⟨members, rfl, hkey⟩
  have hbare : ∀ n ∈ nodesOf forest, n.document.IsBare := by
    simp only [forest, leaf', leaf, nodesOf, nodes, List.cons_append, List.nil_append,
      List.forall_mem_cons, Tree.document]
    exact ⟨hobject rfl, hobject rfl, hobject rfl, hobject rfl, hobject rfl, by simp⟩
  exact ⟨hbare, (ofDocuments_renderForest hbare).1⟩

end Tree

end ForestQuery
