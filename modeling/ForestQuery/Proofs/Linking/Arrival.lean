import ForestQuery.Proofs.Linking.Unfolding

/-!
# Linking does not depend on the order of arrival

A store may return descendants in any order. Children keep the order in which they arrived, so the
linked trees of two orders differ in the order of siblings, and in nothing else: whether a
descendant can be reached does not depend on its position.

## Key results

- `permEquiv_unfold`: permuted descendants unfold to trees that are equal up to the order of
  siblings
- `attached_link_eq_countP`: the attached descendants, counted without positions
- `link_permEquiv`: permuted descendants give the same counts and the same forest up to the order
  of siblings
-/

namespace ForestQuery

/-- Trees are equal up to the order of siblings, at any depth: the roots have one document, and the
children of one root are, in some order, those of the other up to the order of siblings. -/
inductive Tree.PermEquiv : Tree → Tree → Prop
  /-- The children are compared one by one, and then put in another order. -/
  | node {document : Json} {children compared others : List Tree}
      (hchildren : List.Forall₂ PermEquiv children compared) (hperm : compared.Perm others) :
      PermEquiv (.node document children) (.node document others)

theorem Tree.PermEquiv.leaf (document : Json) : PermEquiv (.leaf document) (.leaf document) :=
  .node .nil .nil

/-- Permuted descendants unfold to trees that are equal up to the order of siblings. -/
theorem permEquiv_unfold {descendants others : List Record} (h : descendants.Perm others)
    (record : Record) (path : List String) :
    (unfold descendants record path).PermEquiv (unfold others record path) := by
  induction record, path using unfold.induct descendants with
  | case1 record path ih =>
    rw [unfold_eq descendants, unfold_eq others]
    -- each child unfolds to an equivalent tree, and the children are permuted
    refine .node ?_ ((h.filter _).map _)
    rw [List.forall₂_map_left_iff, List.forall₂_map_right_iff, List.forall₂_same]
    intro c hc
    rw [← map_fst_childrenOf, List.mem_map] at hc
    obtain ⟨child, hchild, rfl⟩ := hc
    by_cases hon : child.1.id ∈ path
    · rw [if_pos hon, if_pos hon]
      exact .leaf _
    · rw [if_neg hon, if_neg hon]
      exact ih child hchild (by simpa using hon)

/-! ### What can be reached, without positions -/

/-- A descendant stands below an id: it names the id as its parent, or the id of another one that
stands below it. -/
inductive IsBelow (descendants : List Record) (id : String) : Record → Prop
  /-- A child stands below. -/
  | child {d : Record} (hd : d ∈ descendants) (hnames : d.skeleton.namesParent id = true) :
      IsBelow descendants id d
  /-- The children of what stands below do so too. -/
  | next {d e : Record} (h : IsBelow descendants id d) (he : e ∈ descendants)
      (hnames : e.skeleton.namesParent d.id = true) : IsBelow descendants id e

theorem isChild_iff_namesParent {descendants : List Record} {id : String} {position : Nat} :
    IsChild descendants id position ↔
      ∃ d, descendants[position]? = some d ∧ d.skeleton.namesParent id = true := by
  refine exists_congr fun d => and_congr_right fun _ => ?_
  rw [Skeleton.namesParent, Bool.and_eq_true, Bool.not_eq_true', beq_iff_eq, and_comm]
  rfl

/-- Whether a descendant can be reached does not depend on its position. -/
theorem reaches_iff_isBelow {descendants : List Record} {id : String} {position : Nat} :
    Reaches descendants id position ↔
      ∃ d, descendants[position]? = some d ∧ IsBelow descendants id d := by
  constructor
  · intro h
    induction h with
    | child h =>
      obtain ⟨d, hd, hnames⟩ := isChild_iff_namesParent.1 h
      exact ⟨d, hd, .child (List.mem_of_getElem? hd) hnames⟩
    | next _ hd hbelow ih =>
      obtain ⟨d, hd', habove⟩ := ih
      obtain rfl := Option.some.inj (hd'.symm.trans hd)
      obtain ⟨e, he, hnames⟩ := isChild_iff_namesParent.1 hbelow
      exact ⟨e, he, .next habove (List.mem_of_getElem? he) hnames⟩
  · intro hbelow
    obtain ⟨d, hd, h⟩ := hbelow
    -- induction on the chain of parents, each of which has some position
    induction h generalizing position with
    | child _ hnames => exact .child (isChild_iff_namesParent.2 ⟨_, hd, hnames⟩)
    | @next above _ habove _ hnames ih =>
      have hmem : above ∈ descendants := by
        cases habove with
        | child h _ => exact h
        | next _ h _ => exact h
      obtain ⟨position', hposition⟩ := List.mem_iff_getElem?.1 hmem
      exact .next (ih hposition) hposition (isChild_iff_namesParent.2 ⟨_, hd, hnames⟩)

theorem IsBelow.of_perm {descendants others : List Record} (h : descendants.Perm others)
    {id : String} {d : Record} (hbelow : IsBelow descendants id d) : IsBelow others id d := by
  induction hbelow with
  | child hd hnames => exact .child (h.subset hd) hnames
  | next _ he hnames ih => exact .next ih (h.subset he) hnames

open Classical in
/-- The attached descendants are those that stand below the id of a primary record. -/
theorem attached_link_eq_countP (primary descendants : List Record) :
    (link primary descendants).attached =
      descendants.countP fun d => ∃ record ∈ primary, IsBelow descendants record.id d := by
  -- the positions of these descendants, listed without repetitions
  have hset : {position | ∃ record ∈ primary, Reaches descendants record.id position} =
      ((descendants.findIdxs fun d =>
        ∃ record ∈ primary, IsBelow descendants record.id d).toFinset : Set Nat) := by
    ext position
    simp only [reaches_iff_isBelow, List.coe_toFinset, Set.mem_ofPred_eq,
      List.mem_findIdxs_iff_exists_getElem_pos, decide_eq_true_eq, List.getElem?_eq_some_iff]
    constructor
    · intro hreached
      obtain ⟨record, hrecord, d, ⟨hlt, rfl⟩, hbelow⟩ := hreached
      exact ⟨hlt, record, hrecord, hbelow⟩
    · intro hlisted
      obtain ⟨hlt, record, hrecord, hbelow⟩ := hlisted
      exact ⟨record, hrecord, _, ⟨hlt, rfl⟩, hbelow⟩
  rw [attached_link, hset, Set.ncard_coe_finset, List.toFinset_card_of_nodup List.nodup_findIdxs,
    List.length_findIdxs]

/-- Permuted descendants are attached in the same number. -/
theorem attached_link_of_perm {descendants others : List Record} (h : descendants.Perm others)
    (primary : List Record) :
    (link primary descendants).attached = (link primary others).attached := by
  rw [attached_link_eq_countP, attached_link_eq_countP, h.countP_eq]
  refine List.countP_congr fun d _ => ?_
  simp only [decide_eq_true_eq]
  exact exists_congr fun record => and_congr_right fun _ => ⟨.of_perm h, .of_perm h.symm⟩

/-- Descendants that arrive in another order are attached and orphaned in the same numbers, and
linked to the same trees up to the order of siblings, with the roots in their order. -/
theorem link_permEquiv {descendants others : List Record} (h : descendants.Perm others)
    (primary : List Record) :
    (link primary descendants).attached = (link primary others).attached ∧
    (link primary descendants).orphaned = (link primary others).orphaned ∧
    List.Forall₂ Tree.PermEquiv (link primary descendants).forest (link primary others).forest := by
  have hattached := attached_link_of_perm h primary
  refine ⟨hattached, ?_, ?_⟩
  · -- the orphaned ones are the rest
    have hdescendants := attached_add_orphaned_link primary descendants
    have hothers := attached_add_orphaned_link primary others
    have hlength := h.length_eq
    omega
  · rw [forest_link, forest_link, List.forall₂_map_left_iff, List.forall₂_map_right_iff,
      List.forall₂_same]
    intro record _
    rw [tree_placement, tree_placement]
    exact permEquiv_unfold h record [record.id]

/-- Two records of one id, one of them below its own child, arrive before and after their parent. -/
theorem link_permEquiv_copies :
    let primary := [Record.blank "a" none, Record.blank "b" none]
    let descendants := [Record.blank "c" (some "b"), Record.blank "b" (some "a"),
      Record.blank "b" (some "c"), Record.blank "d" (some "x")]
    descendants.Perm descendants.reverse ∧
    (link primary descendants).attached = (link primary descendants.reverse).attached ∧
    (link primary descendants).orphaned = (link primary descendants.reverse).orphaned ∧
    List.Forall₂ Tree.PermEquiv (link primary descendants).forest
      (link primary descendants.reverse).forest := by
  intro primary descendants
  have h : descendants.Perm descendants.reverse := (List.reverse_perm descendants).symm
  exact ⟨h, link_permEquiv h primary⟩

end ForestQuery
