import ForestQuery.Proofs.Descent.Order
import ForestQuery.Proofs.Linking.Forest
import ForestQuery.Proofs.Linking.Nodes

/-!
# Linking a nested set

In a nested set the intervals and the declared parents agree: one interval lies strictly inside
another exactly if its record is a descendant of the other's. Then what lies inside the interval of
a record can be reached from it through the parents, since every record in between lies inside the
interval too, and no way down comes back to an id.

## Key results

- `IsNestedSet.reaches_iff`: what can be reached from a record is what lies inside its interval
- `IsNestedSet.perm_occurrences`: under a record stands what lies inside its interval, once
- `IsNestedSet.children_of_mem_nodes`: the children of a node are those that name it, in their order
- `IsNestedSet.attached_link`: nothing that lies inside the interval of a primary record is lost
-/

namespace ForestQuery

namespace Skeleton

theorem contains_iff {a d : Skeleton} :
    a.contains d = true ↔ a.left.lt d.left = true ∧ d.right.lt a.right = true := by
  rw [contains, Bool.and_eq_true]

theorem contains_trans {a b d : Skeleton} (hab : a.contains b = true) (hbd : b.contains d = true) :
    a.contains d = true := by
  rw [contains_iff] at *
  exact ⟨Binary64.lt_trans hab.1 hbd.1, Binary64.lt_trans hbd.2 hab.2⟩

theorem contains_irrefl (s : Skeleton) : ¬ s.contains s = true := by
  intro h
  have hleft := (contains_iff.1 h).1
  rw [Binary64.lt_irrefl] at hleft
  exact Bool.false_ne_true hleft

/-- One of a list of skeletons is declared as the parent of another. -/
def IsParent (skeletons : List Skeleton) (a d : Skeleton) : Prop :=
  a ∈ skeletons ∧ d ∈ skeletons ∧ d.parentId = some a.id

end Skeleton

open Skeleton (IsParent)

/-- Skeletons are a nested set: their ids are unique, no interval is empty, and an interval contains
another one exactly if its record is a proper ancestor of the other's along the declared parents. -/
structure IsNestedSet (skeletons : List Skeleton) : Prop where
  /-- No two skeletons have one id. -/
  ids : (skeletons.map (·.id)).Nodup
  /-- No interval is empty. -/
  wellFormed : ∀ s ∈ skeletons, s.isWellFormed = true
  /-- Intervals contain what descends. -/
  contains_iff : ∀ a ∈ skeletons, ∀ d ∈ skeletons,
    (a.contains d = true ↔ a ≠ d ∧ Relation.TransGen (IsParent skeletons) a d)

section

variable {skeletons : List Skeleton}
  (hparent : ∀ a ∈ skeletons, ∀ d ∈ skeletons, d.parentId = some a.id → a ≠ d →
    a.contains d = true)

include hparent

/-- If parents contain their children, ancestors contain what descends from them. -/
private theorem contains_of_transGen {a d : Skeleton} (ha : a ∈ skeletons) (hd : d ∈ skeletons)
    (htrans : Relation.TransGen (IsParent skeletons) a d) (hne : a ≠ d) :
    a.contains d = true := by
  -- induction on the way down: intervals nest in each other
  induction htrans with
  | single hstep => exact hparent a ha _ hd hstep.2.2 hne
  | @tail b d _ hstep ih =>
    by_cases hself : b = d
    · -- a record that names itself is no further down
      subst hself
      exact ih hd hne
    · have hbd := hparent b hstep.1 d hd hstep.2.2 hself
      by_cases hfirst : a = b
      · exact hfirst ▸ hbd
      · exact Skeleton.contains_trans (ih hstep.1 hfirst) hbd

variable (hbetween : ∀ a ∈ skeletons, ∀ d ∈ skeletons, a.contains d = true →
  ∃ p ∈ skeletons, d.parentId = some p.id ∧ p ≠ d ∧ (p = a ∨ a.contains p = true))

include hbetween

/-- If what lies inside an interval has its parent there too, it descends from the record of the
interval. -/
private theorem transGen_of_contains {a d : Skeleton} (ha : a ∈ skeletons) (hd : d ∈ skeletons)
    (hcontains : a.contains d = true) : Relation.TransGen (IsParent skeletons) a d := by
  -- strong induction on how many intervals contain the record: fewer contain its parent
  induction hn : (skeletons.filter (·.contains d)).length using Nat.strongRecOn
    generalizing d with
  | ind n ih =>
    obtain ⟨p, hp, hdp, hne, heq | hap⟩ := hbetween a ha d hd hcontains
    · exact .single ⟨ha, hd, heq ▸ hdp⟩
    · have hpd := hparent p hp d hd hdp hne
      have hfilter : skeletons.filter (·.contains p) =
          (skeletons.filter (·.contains d)).filter (·.contains p) := by
        rw [List.filter_filter]
        apply List.filter_congr
        intro x _
        rw [Bool.eq_self_and]
        exact fun hxp => Skeleton.contains_trans hxp hpd
      have hlt : (skeletons.filter (·.contains p)).length < n := by
        rw [← hn, hfilter, List.length_filter_lt_length_iff_exists]
        exact ⟨p, List.mem_filter.2 ⟨hp, hpd⟩, Skeleton.contains_irrefl p⟩
      exact (ih _ hlt hp hap rfl).tail ⟨hp, hd, hdp⟩

/-- Whether skeletons are a nested set can be checked parent by parent. -/
theorem isNestedSet_of_parents (hids : (skeletons.map (·.id)).Nodup)
    (hwell : ∀ s ∈ skeletons, s.isWellFormed = true) : IsNestedSet skeletons where
  ids := hids
  wellFormed := hwell
  contains_iff a ha d hd := by
    constructor
    · intro hcontains
      refine ⟨fun heq => ?_, transGen_of_contains hparent hbetween ha hd hcontains⟩
      exact Skeleton.contains_irrefl a (heq ▸ hcontains)
    · intro hancestor
      obtain ⟨hne, htrans⟩ := hancestor
      exact contains_of_transGen hparent ha hd htrans hne

end

namespace IsNestedSet

section

variable {records : List Record} (h : IsNestedSet (records.map (·.skeleton)))

include h

theorem nodup_ids : (records.map Record.id).Nodup := by
  have hids := h.ids
  rwa [List.map_map] at hids

/-- A record is known by its id. -/
theorem eq_of_id_eq {a b : Record} (ha : a ∈ records) (hb : b ∈ records) (hid : a.id = b.id) :
    a = b :=
  List.inj_on_of_nodup_map h.nodup_ids ha hb hid

/-- A record contains whatever names it as its parent. -/
theorem contains_of_namesParent {a d : Record} (ha : a ∈ records) (hd : d ∈ records)
    (hparent : d.skeleton.namesParent a.id = true) :
    a.skeleton.contains d.skeleton = true := by
  obtain ⟨hparent, hid⟩ := Skeleton.namesParent_iff.1 hparent
  have hma := List.mem_map_of_mem (f := Record.skeleton) ha
  have hmd := List.mem_map_of_mem (f := Record.skeleton) hd
  refine (h.contains_iff _ hma _ hmd).2 ⟨fun heq => hid ?_, .single ⟨hma, hmd, hparent⟩⟩
  rw [← heq]
  rfl

end

/-! ### What can be reached -/

section

variable {records : List Record} (h : IsNestedSet (records.map (·.skeleton)))
  {keep : Record → Bool} {root : Record} (hroot : root ∈ records)

include h

theorem nodup_ids_filter : ((records.filter keep).map Record.id).Nodup :=
  h.nodup_ids.sublist (List.filter_sublist.map _)

/-- No descendant occurs twice under a record. -/
theorem nodup_occurrences :
    ((placement (records.filter keep) root).occurrences.map (·.child)).Nodup := by
  have hpositions : (placement (records.filter keep) root).positions.Nodup :=
    nodup_positions_placement h.nodup_ids_filter
  refine (List.Nodup.of_map _ hpositions).map_on fun o ho o' ho' hchild => ?_
  apply List.inj_on_of_nodup_map hpositions ho ho'
  have hmem := mem_occurrences_placement ho
  have hmem' := mem_occurrences_placement ho'
  have hid : o.child.id = o'.child.id := congrArg Record.id hchild
  exact congrArg Prod.snd (eq_of_mem_childrenOf h.nodup_ids_filter hmem hmem' hid)

theorem contains_of_mem_childrenOf {a : Record} (ha : a ∈ records) {child : Record × Nat}
    (hchild : child ∈ childrenOf (records.filter keep) a.id) :
    child.1 ∈ records ∧ a.skeleton.contains child.1.skeleton = true := by
  have hmem := List.mem_of_mem_filter (mem_of_mem_childrenOf hchild)
  have hfst := List.mem_map_of_mem (f := Prod.fst) hchild
  rw [map_fst_childrenOf] at hfst
  exact ⟨hmem, h.contains_of_namesParent ha hmem (List.mem_filter.1 hfst).2⟩

theorem isChild_of_isParent {a d : Record} (ha : a ∈ records) {position : Nat}
    (hd : (records.filter keep)[position]? = some d) (hparent : d.parentId = some a.id)
    (hne : a.skeleton ≠ d.skeleton) : IsChild (records.filter keep) a.id position := by
  refine ⟨d, hd, hparent, ?_⟩
  rw [Skeleton.isSelfParented, beq_eq_false_iff_ne]
  intro hself
  have hid : a.id = d.id := Option.some.inj (hparent.symm.trans hself)
  have hmem := List.mem_of_mem_filter (List.mem_of_getElem? hd)
  exact hne (congrArg _ (h.eq_of_id_eq ha hmem hid))

include hroot

/-- Every id on a way down is that of a record that contains the children at its end. -/
theorem contains_of_opens {x y : String} {xs : List String} {child : Record × Nat}
    (hway : Opens (records.filter keep) [root.id] (x :: xs)) (hy : y ∈ x :: xs)
    (hchild : child ∈ childrenOf (records.filter keep) x) :
    ∃ a ∈ records, a.id = y ∧ a.skeleton.contains child.1.skeleton = true := by
  -- induction on the way: what contains a node contains its children
  generalize hfurther : x :: xs = further at hway
  induction hway generalizing x xs y child with
  | refl =>
    obtain ⟨rfl, rfl⟩ := List.cons.inj hfurther
    obtain rfl := List.mem_singleton.1 hy
    exact ⟨root, hroot, rfl, (h.contains_of_mem_childrenOf hroot hchild).2⟩
  | tail _ hstep ih =>
    cases hstep with
    | @child id above c hmem _ =>
      obtain ⟨rfl, rfl⟩ := List.cons.inj hfurther
      have hc := List.mem_of_mem_filter (mem_of_mem_childrenOf hmem)
      have hcontains := (h.contains_of_mem_childrenOf hc hchild).2
      rcases List.mem_cons.1 hy with rfl | hy
      · exact ⟨c.1, hc, rfl, hcontains⟩
      · obtain ⟨a, ha, hid, habove⟩ := ih hy hmem rfl
        exact ⟨a, ha, hid, Skeleton.contains_trans habove hcontains⟩

/-- No way down comes back to an id. -/
theorem not_mem_of_opens {x : String} {xs : List String} {child : Record × Nat}
    (hway : Opens (records.filter keep) [root.id] (x :: xs))
    (hchild : child ∈ childrenOf (records.filter keep) x) : child.1.id ∉ x :: xs := by
  intro hmem
  obtain ⟨a, ha, hid, hcontains⟩ := h.contains_of_opens hroot hway hmem hchild
  have hrecord := List.mem_of_mem_filter (mem_of_mem_childrenOf hchild)
  obtain rfl := h.eq_of_id_eq ha hrecord hid
  exact Skeleton.contains_irrefl _ hcontains

theorem contains_of_reaches {position : Nat}
    (hreach : Reaches (records.filter keep) root.id position) :
    ∃ d, (records.filter keep)[position]? = some d ∧
      root.skeleton.contains d.skeleton = true := by
  obtain ⟨x, xs, hway, hx⟩ := reaches_iff_opens.1 hreach
  obtain ⟨d, hd⟩ := hx.exists_mem_childrenOf
  have hmem : root.id ∈ x :: xs := hway.suffix.subset List.mem_cons_self
  obtain ⟨a, ha, hid, hcontains⟩ := h.contains_of_opens hroot hway hmem hd
  obtain rfl := h.eq_of_id_eq ha hroot hid
  exact ⟨d, (mem_childrenOf_iff.1 hd).1, hcontains⟩

variable (hkeep : ∀ d ∈ records, root.skeleton.contains d.skeleton = true → keep d = true)

include hkeep

/-- What descends from a record can be reached from it: all in between was kept. -/
theorem reaches_of_transGen {s : Skeleton}
    (hs : Relation.TransGen (IsParent (records.map (·.skeleton))) root.skeleton s)
    (hne : root.skeleton ≠ s) {position : Nat} {d : Record}
    (hd : (records.filter keep)[position]? = some d) (hskeleton : d.skeleton = s) :
    Reaches (records.filter keep) root.id position := by
  -- induction on the chain of parents: each of them was kept, so it has a position of its own
  induction hs generalizing position d with
  | single hparent =>
    subst hskeleton
    exact .child (h.isChild_of_isParent hroot hd hparent.2.2 hne)
  | @tail b c hab hparent ih =>
    by_cases hself : b = c
    · -- a record that names itself is no further down
      subst hself
      exact ih hne hd hskeleton
    · subst hskeleton
      obtain ⟨e, he, rfl⟩ := List.mem_map.1 hparent.1
      have hchild := h.isChild_of_isParent he hd hparent.2.2 hself
      by_cases hfirst : root.skeleton = e.skeleton
      · -- the chain comes back to the root, whose child this is
        rw [← h.eq_of_id_eq hroot he (congrArg Skeleton.id hfirst)] at hchild
        exact .child hchild
      · have hcontains := (h.contains_iff _ (List.mem_map_of_mem hroot) _ hparent.1).2
          ⟨hfirst, hab⟩
        have hmem := List.mem_filter.2 ⟨he, hkeep e he hcontains⟩
        obtain ⟨above, habove⟩ := List.mem_iff_getElem?.1 hmem
        exact .next (ih hfirst habove rfl) habove hchild

/-- What can be reached from a record is what lies inside its interval. -/
theorem reaches_iff {position : Nat} :
    Reaches (records.filter keep) root.id position ↔
      ∃ d, (records.filter keep)[position]? = some d ∧
        root.skeleton.contains d.skeleton = true := by
  constructor
  · exact h.contains_of_reaches hroot
  · intro hinside
    obtain ⟨d, hd, hcontains⟩ := hinside
    have hmem := List.mem_of_mem_filter (List.mem_of_getElem? hd)
    obtain ⟨hne, htrans⟩ := (h.contains_iff _ (List.mem_map_of_mem hroot) _
      (List.mem_map_of_mem hmem)).1 hcontains
    exact h.reaches_of_transGen hroot hkeep htrans hne hd rfl

/-! ### What stands under a record -/

/-- Under a record stands what lies inside its interval, once. -/
theorem perm_occurrences :
    ((placement (records.filter keep) root).occurrences.map (·.child)).Perm
      (records.filter fun d => root.skeleton.contains d.skeleton) := by
  have hnodup : records.Nodup := .of_map _ h.nodup_ids
  refine (List.perm_ext_iff_of_nodup h.nodup_occurrences (hnodup.filter _)).2 fun d => ?_
  rw [List.mem_filter]
  constructor
  · -- what occurs can be reached, so it lies inside
    intro hd
    obtain ⟨o, ho, rfl⟩ := List.mem_map.1 hd
    have hposition := mem_positions_placement.1 (List.mem_map_of_mem (f := Occurrence.position) ho)
    obtain ⟨d, hd, hcontains⟩ := (h.reaches_iff hroot hkeep).1 hposition
    have hget := (mem_childrenOf_iff.1 (mem_occurrences_placement ho)).1
    obtain rfl := Option.some.inj (hd.symm.trans hget)
    exact ⟨List.mem_of_mem_filter (List.mem_of_getElem? hget), hcontains⟩
  · -- what lies inside was kept, so it can be reached
    intro hinside
    obtain ⟨hd, hcontains⟩ := hinside
    have hmem := List.mem_filter.2 ⟨hd, hkeep d hd hcontains⟩
    obtain ⟨position, hget⟩ := List.mem_iff_getElem?.1 hmem
    have hreach := (h.reaches_iff hroot hkeep).2 ⟨d, hget, hcontains⟩
    obtain ⟨o, ho, rfl⟩ := List.mem_map.1 (mem_positions_placement.2 hreach)
    have hget' := (mem_childrenOf_iff.1 (mem_occurrences_placement ho)).1
    exact List.mem_map.2 ⟨o, ho, Option.some.inj (hget'.symm.trans hget)⟩

/-- What names a record under the root was kept. -/
theorem filter_namesParent {a : Record} (ha : a ∈ records)
    (hbelow : a = root ∨ root.skeleton.contains a.skeleton = true) :
    (childrenOf (records.filter keep) a.id).map (·.1) =
      records.filter (·.skeleton.namesParent a.id) := by
  rw [map_fst_childrenOf, List.filter_filter]
  apply List.filter_congr
  intro d hd
  rw [Bool.and_eq_left_iff_imp]
  intro hparent
  have hcontains := h.contains_of_namesParent ha hd hparent
  rcases hbelow with rfl | hbelow
  · exact hkeep d hd hcontains
  · exact hkeep d hd (Skeleton.contains_trans hbelow hcontains)

/-- The children of a node are the records that name it as their parent, in their order. -/
theorem children_of_mem_nodes {t : Tree}
    (ht : t ∈ (placement (records.filter keep) root).tree.nodes) :
    ∃ a ∈ records, t.document = a.document ∧
      t.children.map Tree.document =
        (records.filter (·.skeleton.namesParent a.id)).map (·.document) := by
  rcases mem_nodes_placement ht with rfl | ⟨x, xs, child, hway, hchild, rfl⟩
  · refine ⟨root, hroot, rfl, ?_⟩
    rw [map_document_children_placement, ← h.filter_namesParent hroot hkeep hroot (.inl rfl),
      List.map_map]
    rfl
  · have hrecord := List.mem_of_mem_filter (mem_of_mem_childrenOf hchild)
    have hreach : Reaches (records.filter keep) root.id child.2 :=
      hway.reaches (isChild_of_mem_childrenOf hchild)
    obtain ⟨d, hd, hcontains⟩ := (h.reaches_iff hroot hkeep).1 hreach
    obtain rfl := Option.some.inj (hd.symm.trans (mem_childrenOf_iff.1 hchild).1)
    refine ⟨child.1, hrecord, rfl, ?_⟩
    rw [map_document_children_branchAt (h.not_mem_of_opens hroot hway hchild),
      ← h.filter_namesParent hroot hkeep hrecord (.inr hcontains), List.map_map]
    rfl

end

/-- If what lies inside the interval of some primary record is linked, all of it is attached. -/
theorem attached_link {records : List Record} (h : IsNestedSet (records.map (·.skeleton)))
    {primary : List Record} (hprimary : ∀ r ∈ primary, r ∈ records) :
    let descendants := records.filter fun d =>
      primary.any fun r => r.skeleton.contains d.skeleton
    (link primary descendants).attached = descendants.length := by
  intro descendants
  have hset : {position | ∃ r ∈ primary, Reaches descendants r.id position} =
      (Finset.range descendants.length : Set Nat) := by
    ext position
    rw [Finset.coe_range, Set.mem_Iio, Set.mem_ofPred_eq]
    constructor
    · intro hreached
      obtain ⟨r, -, hreach⟩ := hreached
      exact hreach.lt_length
    · intro hlt
      have hd := List.getElem?_eq_getElem hlt
      obtain ⟨-, hinside⟩ := List.mem_filter.1 (List.getElem_mem hlt)
      obtain ⟨r, hr, hcontains⟩ := List.any_eq_true.1 hinside
      refine ⟨r, hr, (h.reaches_iff (hprimary r hr) fun d _ hcontains => ?_).2 ⟨_, hd, hcontains⟩⟩
      exact List.any_eq_true.2 ⟨r, hr, hcontains⟩
  rw [ForestQuery.attached_link, hset, Set.ncard_coe_finset, Finset.card_range]

end IsNestedSet

end ForestQuery
