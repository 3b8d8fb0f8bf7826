import ForestQuery.Tree.Link
import Mathlib.Logic.Relation
import Mathlib.Data.List.Infix
import Mathlib.Data.List.Nodup

/-!
# Which descendants can be reached

A descendant is a child of an id if it names the id as its parent and does not name itself. What can
be reached from an id are its children, their children, and so on (`Reaches`). Linking goes down
only through ids that are not on the way yet (`Opens`).

## Key results

- `reaches_iff_opens`: leaving out the ways that come back to an id loses nothing
- `Opens.eq_of_nodup_ids`: if ids are unique, only one way leads to an open node
-/

namespace ForestQuery

namespace Skeleton

/-- The skeleton names an id as its parent, and does not name itself. -/
def namesParent (id : String) (s : Skeleton) : Bool :=
  !s.isSelfParented && s.parentId == some id

theorem namesParent_iff {id : String} {s : Skeleton} :
    s.namesParent id = true ↔ s.parentId = some id ∧ s.id ≠ id := by
  rw [namesParent, isSelfParented]
  constructor
  · intro h
    simp only [Bool.and_eq_true, Bool.not_eq_true', beq_eq_false_iff_ne, beq_iff_eq] at h
    obtain ⟨hself, hparent⟩ := h
    refine ⟨hparent, fun hid => ?_⟩
    subst hid
    exact hself hparent
  · intro hnames
    obtain ⟨hparent, hid⟩ := hnames
    simp [hparent, Ne.symm hid]

end Skeleton

/-- The descendant at a position names an id as its parent, and does not name itself. -/
def IsChild (descendants : List Record) (id : String) (position : Nat) : Prop :=
  ∃ d, descendants[position]? = some d ∧ d.parentId = some id ∧ d.skeleton.isSelfParented = false

/-- The descendant at a position can be reached from an id: it is a child of the id, or of the id of
a descendant that can be reached. -/
inductive Reaches (descendants : List Record) (id : String) : Nat → Prop
  /-- A child is reached. -/
  | child {position : Nat} (h : IsChild descendants id position) : Reaches descendants id position
  /-- The children of what is reached are reached. -/
  | next {position below : Nat} {d : Record} (h : Reaches descendants id position)
      (hd : descendants[position]? = some d) (hbelow : IsChild descendants d.id below) :
      Reaches descendants id below

theorem mem_childrenOf_iff {descendants : List Record} {id : String} {child : Record × Nat} :
    child ∈ childrenOf descendants id ↔
      descendants[child.2]? = some child.1 ∧ child.1.parentId = some id ∧
        child.1.skeleton.isSelfParented = false := by
  obtain ⟨record, position⟩ := child
  rw [childrenOf, List.mem_filter, List.mk_mem_zipIdx_iff_getElem?]
  simp [and_comm]

/-- The children of an id are the descendants that name it, in their order. -/
theorem map_fst_childrenOf (descendants : List Record) (id : String) :
    (childrenOf descendants id).map Prod.fst =
      descendants.filter (·.skeleton.namesParent id) := by
  have hfst : descendants.zipIdx.map Prod.fst = descendants := List.zipIdx_map_fst 0 descendants
  conv => rhs; rw [← hfst, List.filter_map]
  rfl

theorem isChild_of_mem_childrenOf {descendants : List Record} {id : String}
    {child : Record × Nat} (h : child ∈ childrenOf descendants id) :
    IsChild descendants id child.2 :=
  ⟨child.1, mem_childrenOf_iff.1 h⟩

theorem IsChild.exists_mem_childrenOf {descendants : List Record} {id : String} {position : Nat}
    (h : IsChild descendants id position) :
    ∃ d, (d, position) ∈ childrenOf descendants id := by
  obtain ⟨d, hd⟩ := h
  exact ⟨d, mem_childrenOf_iff.2 hd⟩

theorem IsChild.lt_length {descendants : List Record} {id : String} {position : Nat}
    (h : IsChild descendants id position) : position < descendants.length := by
  obtain ⟨d, hd, -⟩ := h
  exact (List.getElem?_eq_some_iff.1 hd).1

theorem Reaches.lt_length {descendants : List Record} {id : String} {position : Nat}
    (h : Reaches descendants id position) : position < descendants.length := by
  cases h with
  | child h => exact h.lt_length
  | next _ _ hbelow => exact hbelow.lt_length

/-! ### Ways down

A way has the ids of its nodes, the last first. -/

/-- One step further down: from the last node of a way to a child whose id is not on it. -/
inductive Deepens (descendants : List Record) : List String → List String → Prop
  /-- The way to a child. -/
  | child {id : String} {above : List String} {child : Record × Nat}
      (hmem : child ∈ childrenOf descendants id) (hnew : child.1.id ∉ id :: above) :
      Deepens descendants (id :: above) (child.1.id :: id :: above)

/-- What stands above the last node of a deeper way, and which child that node is. -/
theorem Deepens.exists_child {descendants : List Record} {way above : List String} {id : String}
    (h : Deepens descendants way (id :: above)) :
    way = above ∧ id ∉ above ∧ ∃ parent outer child,
      above = parent :: outer ∧ child ∈ childrenOf descendants parent ∧ child.1.id = id := by
  generalize hfurther : id :: above = further at h
  cases h with
  | child hmem hnew =>
    obtain ⟨rfl, rfl⟩ := List.cons.inj hfurther
    exact ⟨rfl, hnew, _, _, _, rfl, hmem, rfl⟩

/-- A way leads further down, to a node that linking opens. -/
def Opens (descendants : List Record) : List String → List String → Prop :=
  Relation.ReflTransGen (Deepens descendants)

/-- A way starts with what it goes on from. -/
theorem Opens.suffix {descendants : List Record} {way further : List String}
    (h : Opens descendants way further) : way <:+ further := by
  induction h with
  | refl => exact List.suffix_rfl
  | tail _ hstep ih =>
    cases hstep with
    | child => exact ih.trans (List.suffix_cons _ _)

/-- Some way ends at every id that stands on a way. -/
theorem Opens.exists_of_mem {descendants : List Record} {root id : String} {way : List String}
    (h : Opens descendants [root] way) (hid : id ∈ way) :
    ∃ above, Opens descendants [root] (id :: above) := by
  induction h with
  | refl =>
    rw [List.mem_singleton] at hid
    subst hid
    exact ⟨[], .refl⟩
  | tail hway hstep ih =>
    cases hstep with
    | child hmem hnew =>
      rcases List.mem_cons.1 hid with rfl | hid
      · exact ⟨_, hway.tail (.child hmem hnew)⟩
      · exact ih hid

/-- Whatever is a child of an open node can be reached. -/
theorem Opens.reaches {descendants : List Record} {root id : String} {above : List String}
    {position : Nat} (h : Opens descendants [root] (id :: above))
    (hchild : IsChild descendants id position) : Reaches descendants root position := by
  -- induction on the way: its last node is a child of the node before it
  generalize hway : id :: above = way at h
  induction h generalizing id above position with
  | refl =>
    obtain ⟨rfl, -⟩ := List.cons.inj hway
    exact .child hchild
  | tail _ hstep ih =>
    cases hstep with
    | child hmem _ =>
      obtain ⟨rfl, -⟩ := List.cons.inj hway
      exact .next (ih (isChild_of_mem_childrenOf hmem) rfl) (mem_childrenOf_iff.1 hmem).1 hchild

/-- Whatever can be reached is a child of an open node. -/
theorem Reaches.exists_opens {descendants : List Record} {root : String} {position : Nat}
    (h : Reaches descendants root position) :
    ∃ id above, Opens descendants [root] (id :: above) ∧ IsChild descendants id position := by
  -- induction on how the descendant is reached, with an open way to each parent in between
  induction h with
  | child h => exact ⟨root, [], .refl, h⟩
  | @next position below d _ hd hbelow ih =>
    obtain ⟨id, above, hway, hchild⟩ := ih
    obtain ⟨e, hmem⟩ := hchild.exists_mem_childrenOf
    obtain rfl : e = d := Option.some.inj ((mem_childrenOf_iff.1 hmem).1.symm.trans hd)
    by_cases hnew : e.id ∈ id :: above
    · -- the id is on the way already: the part of the way up to it leads there too
      obtain ⟨above', hway'⟩ := hway.exists_of_mem hnew
      exact ⟨e.id, above', hway', hbelow⟩
    · -- the id is new: the way goes one step further down
      exact ⟨e.id, id :: above, hway.tail (.child hmem hnew), hbelow⟩

/-- What can be reached are the children of the open nodes. -/
theorem reaches_iff_opens {descendants : List Record} {root : String} {position : Nat} :
    Reaches descendants root position ↔
      ∃ id above, Opens descendants [root] (id :: above) ∧ IsChild descendants id position := by
  constructor
  · exact Reaches.exists_opens
  · intro hopen
    obtain ⟨id, above, hway, hchild⟩ := hopen
    exact hway.reaches hchild

/-! ### Unique ids -/

/-- Two descendants of one id are the same. -/
theorem eq_of_mem_childrenOf {descendants : List Record}
    (hids : (descendants.map Record.id).Nodup) {id id' : String} {child child' : Record × Nat}
    (h : child ∈ childrenOf descendants id) (h' : child' ∈ childrenOf descendants id')
    (heq : child.1.id = child'.1.id) : child = child' := by
  obtain ⟨hget, -⟩ := mem_childrenOf_iff.1 h
  obtain ⟨hget', -⟩ := mem_childrenOf_iff.1 h'
  have hlt : child.2 < (descendants.map Record.id).length := by
    rw [List.length_map]
    exact (isChild_of_mem_childrenOf h).lt_length
  have hpos : child.2 = child'.2 := by
    apply (List.getElem?_inj hlt hids).1
    rw [List.getElem?_map, List.getElem?_map, hget, hget', Option.map_some, Option.map_some, heq]
  rw [hpos] at hget
  exact Prod.ext (Option.some.inj (hget.symm.trans hget')) hpos

/-- A way that leads further down ends at another id. -/
private theorem Opens.ne_of_tail {descendants : List Record} {id : String}
    {above upper above' : List String} (h : Opens descendants (id :: above) upper) :
    ¬ Deepens descendants upper (id :: above') := by
  intro hstep
  obtain ⟨rfl, hnew, -⟩ := hstep.exists_child
  exact hnew (h.suffix.subset List.mem_cons_self)

/-- If ids are unique, only one way leads from a node to another. -/
theorem Opens.eq_of_nodup_ids {descendants : List Record}
    (hids : (descendants.map Record.id).Nodup) {way above above' : List String} {id : String}
    (h : Opens descendants way (id :: above)) (h' : Opens descendants way (id :: above')) :
    above = above' := by
  -- induction on the first way, comparing the last steps of both
  generalize heq : id :: above = further at h
  induction h generalizing id above above' with
  | refl =>
    subst heq
    rcases Relation.ReflTransGen.cases_tail h' with heq | ⟨upper, hupper, hstep⟩
    · exact (List.cons.inj heq).2.symm
    · exact absurd hstep (Opens.ne_of_tail hupper)
  | tail hupper hstep ih =>
    subst heq
    rcases Relation.ReflTransGen.cases_tail h' with rfl | ⟨upper', hupper', hstep'⟩
    · exact absurd hstep (Opens.ne_of_tail hupper)
    · -- both ways end at the same descendant, which names the id above it
      obtain ⟨rfl, -, parent, outer, child, rfl, hmem, hid⟩ := hstep.exists_child
      obtain ⟨rfl, -, parent', outer', child', rfl, hmem', hid'⟩ := hstep'.exists_child
      obtain rfl := eq_of_mem_childrenOf hids hmem hmem' (hid.trans hid'.symm)
      have hparent := (mem_childrenOf_iff.1 hmem).2.1
      obtain rfl := Option.some.inj (hparent.symm.trans (mem_childrenOf_iff.1 hmem').2.1)
      rw [ih hupper' rfl]

end ForestQuery
