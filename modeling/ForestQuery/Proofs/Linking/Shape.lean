import ForestQuery.Proofs.Linking.Unfolding

/-!
# Linking looks at skeletons only

Where a record stands in the forest depends on the skeletons of the records, and its document is
carried along unread. So if two stores hold the same records in documents of their own, linking
makes forests of one shape, with the two documents of one record at every node, and attaches as many
descendants.

## Key results

- `alike_unfold`: records that agree on their skeletons unfold to trees of one shape
- `Reaches.of_map_skeleton`: what can be reached depends on the skeletons
- `link_alike`: linking makes forests of one shape and the same counts
-/

namespace ForestQuery

/-- Trees have one shape, and their documents are related node by node. -/
inductive Tree.Alike (related : Json → Json → Prop) : Tree → Tree → Prop
  | node {document document' : Json} {children children' : List Tree}
      (hdocument : related document document')
      (hchildren : List.Forall₂ (Alike related) children children') :
      Alike related (.node document children) (.node document' children')

section

variable {α : Type} {record record' : α → Record}
  (hskeleton : ∀ x, (record x).skeleton = (record' x).skeleton) {related : Json → Json → Prop}

include hskeleton

/-- Records that agree on their skeletons unfold to trees of one shape. -/
theorem alike_unfold {xs : List α}
    (hxs : ∀ x ∈ xs, related (record x).document (record' x).document) {x : α}
    (hx : related (record x).document (record' x).document) (path : List String) :
    (unfold (xs.map record) (record x) path).Alike related
      (unfold (xs.map record') (record' x) path) := by
  have hid (y : α) : (record' y).id = (record y).id := by
    rw [Record.id, Record.id, hskeleton]
  generalize hroot : record x = root
  induction root, path using unfold.induct (xs.map record) generalizing x with
  | case1 root path ih =>
    subst hroot
    rw [unfold_eq, unfold_eq, hid]
    refine .node hx ?_
    -- the children are the same on both sides
    have hchildren : (fun y => (record' y).skeleton.namesParent (record x).id) =
        fun y => (record y).skeleton.namesParent (record x).id := by
      funext y
      rw [hskeleton]
    have hleft := List.filter_map (f := record) (l := xs)
      (p := fun r : Record => r.skeleton.namesParent (record x).id)
    have hright := List.filter_map (f := record') (l := xs)
      (p := fun r : Record => r.skeleton.namesParent (record x).id)
    simp only [Function.comp_def] at hleft hright
    rw [hchildren] at hright
    rw [hright, hleft, List.forall₂_map_left_iff, List.forall₂_map_left_iff,
      List.forall₂_map_right_iff, List.forall₂_map_right_iff, List.forall₂_same]
    intro y hy
    obtain ⟨hmem, hnames⟩ := List.mem_filter.1 hy
    have hrelated := hxs y hmem
    rw [hid]
    by_cases hon : (record y).id ∈ path
    · rw [if_pos hon, if_pos hon]
      exact .node hrelated .nil
    · rw [if_neg hon, if_neg hon]
      -- the child is among those that the recursion goes down to
      have hchild : record y ∈ (childrenOf (xs.map record) (record x).id).map Prod.fst := by
        rw [map_fst_childrenOf]
        exact List.mem_filter.2 ⟨List.mem_map_of_mem hmem, hnames⟩
      obtain ⟨child, hchild, heq⟩ := List.mem_map.1 hchild
      rw [← heq] at hon ⊢
      exact ih child hchild (by simpa using hon) hrelated heq.symm

end

/-! ### What can be reached -/

section

variable {descendants descendants' : List Record}
  (h : descendants.map (·.skeleton) = descendants'.map (·.skeleton)) {id : String} {position : Nat}

include h

theorem exists_getElem?_of_map_skeleton {d : Record} (hd : descendants[position]? = some d) :
    ∃ d', descendants'[position]? = some d' ∧ d'.skeleton = d.skeleton := by
  have hget := congrArg (·[position]?) h
  simp only [List.getElem?_map, hd, Option.map_some] at hget
  obtain ⟨d', hd', hskeleton⟩ := Option.map_eq_some_iff.1 hget.symm
  exact ⟨d', hd', hskeleton⟩

theorem IsChild.of_map_skeleton (hchild : IsChild descendants id position) :
    IsChild descendants' id position := by
  obtain ⟨d, hd, hparent, hself⟩ := hchild
  obtain ⟨d', hd', hskeleton⟩ := exists_getElem?_of_map_skeleton h hd
  refine ⟨d', hd', ?_, ?_⟩
  · rw [Record.parentId, hskeleton]
    exact hparent
  · rw [hskeleton]
    exact hself

/-- What can be reached depends on the skeletons only. -/
theorem Reaches.of_map_skeleton (hreaches : Reaches descendants id position) :
    Reaches descendants' id position := by
  induction hreaches with
  | child hchild => exact .child (hchild.of_map_skeleton h)
  | next _ hd hbelow ih =>
    obtain ⟨d', hd', hskeleton⟩ := exists_getElem?_of_map_skeleton h hd
    have hid : d'.id = _ := congrArg Skeleton.id hskeleton
    exact .next ih hd' (hid ▸ hbelow.of_map_skeleton h)

theorem exists_reaches_of_map_skeleton {primary primary' : List Record}
    (hprimary : primary.map (·.skeleton) = primary'.map (·.skeleton))
    (hreaches : ∃ r ∈ primary, Reaches descendants r.id position) :
    ∃ r ∈ primary', Reaches descendants' r.id position := by
  obtain ⟨r, hr, hreaches⟩ := hreaches
  obtain ⟨place, hplace⟩ := List.mem_iff_getElem?.1 hr
  obtain ⟨r', hr', hskeleton⟩ := exists_getElem?_of_map_skeleton hprimary hplace
  have hid : r'.id = r.id := congrArg Skeleton.id hskeleton
  exact ⟨r', List.mem_of_getElem? hr', hid ▸ hreaches.of_map_skeleton h⟩

theorem attached_link_of_map_skeleton {primary primary' : List Record}
    (hprimary : primary.map (·.skeleton) = primary'.map (·.skeleton)) :
    (link primary descendants).attached = (link primary' descendants').attached := by
  rw [attached_link, attached_link]
  congr 1
  -- attached is what can be reached, whatever the documents
  ext position
  exact ⟨exists_reaches_of_map_skeleton h hprimary,
    exists_reaches_of_map_skeleton h.symm hprimary.symm⟩

end

/-- Linking records that agree on their skeletons makes forests of one shape, with the documents of
one record at every node, and attaches and orphans as many descendants. -/
theorem link_alike {α : Type} {record record' : α → Record}
    (hskeleton : ∀ x, (record x).skeleton = (record' x).skeleton)
    {related : Json → Json → Prop} {primary descendants : List α}
    (hprimary : ∀ x ∈ primary, related (record x).document (record' x).document)
    (hdescendants : ∀ x ∈ descendants, related (record x).document (record' x).document) :
    let linked := link (primary.map record) (descendants.map record)
    let linked' := link (primary.map record') (descendants.map record')
    List.Forall₂ (Tree.Alike related) linked.forest linked'.forest ∧
      linked.attached = linked'.attached ∧ linked.orphaned = linked'.orphaned := by
  intro linked linked'
  have hmap (xs : List α) :
      (xs.map record).map (·.skeleton) = (xs.map record').map (·.skeleton) := by
    simp [hskeleton]
  have hattached : linked.attached = linked'.attached :=
    attached_link_of_map_skeleton (hmap descendants) (hmap primary)
  refine ⟨?_, hattached, ?_⟩
  · show List.Forall₂ _ (link _ _).forest (link _ _).forest
    rw [forest_link, forest_link, List.map_map, List.map_map, List.forall₂_map_left_iff,
      List.forall₂_map_right_iff, List.forall₂_same]
    intro x hx
    have hid : (record' x).id = (record x).id := congrArg Skeleton.id (hskeleton x).symm
    simp only [Function.comp_apply, tree_placement, hid]
    exact alike_unfold hskeleton hdescendants (hprimary x hx) _
  · -- the orphaned ones are the rest
    have htotal := attached_add_orphaned_link (primary.map record) (descendants.map record)
    have htotal' := attached_add_orphaned_link (primary.map record') (descendants.map record')
    rw [List.length_map] at htotal htotal'
    show (link _ _).orphaned = (link _ _).orphaned
    change (link _ _).attached = (link _ _).attached at hattached
    omega

end ForestQuery
