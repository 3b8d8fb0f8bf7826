import ForestQuery.Proofs.Linking.Walk
import Mathlib.Data.Finset.Card

/-!
# Ids on the way down

Parents may form cycles and ids may repeat, so what keeps the walk that links descendants from going
round is the way down: a child whose id stands on it is not opened. No two open nodes have one id,
then, and no more nodes are open than there are ids. In the finished tree an id can only come back
at the end of a way.

## Key results

- `Walk.valid_simple_of_leads`: all along a walk the open nodes have different ids
- `Walk.Simple.length_frames_le`: how many nodes can be open
- `Placement.Way.below_cases`: what is placed at the end of a way
- `Walk.build_repeats_only_leaves`: the walk ends with a tree in which only leaves repeat an id
-/

namespace ForestQuery

/-! ### Open nodes -/

namespace Walk

/-- A walk leads to another in some steps. -/
def Leads (descendants : List Record) : Walk → Walk → Prop :=
  Relation.ReflTransGen fun w next => w.step descendants = some next

/-- The open nodes have different ids, and stand for the root and for descendants. -/
structure Simple (descendants : List Record) (root : Record) (w : Walk) : Prop where
  /-- No two open nodes have one id. -/
  nodup_ids : (w.frames.map (·.record.id)).Nodup
  /-- An open node is that of the root or of a descendant. -/
  record_mem : ∀ frame ∈ w.frames, frame.record ∈ root :: descendants

variable {descendants : List Record} {root : Record}

theorem simple_start (surfaced : List Nat) :
    (start descendants root surfaced).Simple descendants root where
  nodup_ids := List.nodup_singleton _
  record_mem := List.forall_mem_singleton.2 List.mem_cons_self

/-- A step opens no node whose id another one has. -/
theorem Simple.step {w next : Walk} (h : w.Simple descendants root) (hw : w.Valid descendants)
    (hstep : w.step descendants = some next) : next.Simple descendants root := by
  obtain ⟨hnodup, hmem⟩ := h
  obtain ⟨top, outer, hframes, hcases⟩ := step_cases hstep
  rw [hframes, List.map_cons] at hnodup
  rw [hframes, List.forall_mem_cons] at hmem
  rcases hcases with ⟨child, rest, -, -, rfl⟩ | ⟨child, rest, hpending, hnew, rfl⟩ | ⟨-, rfl⟩
  · exact ⟨hnodup, List.forall_mem_cons.2 hmem⟩
  · -- opened: the path has the ids of the open nodes, and the new one is not on it
    have hchild : child.1 ∈ descendants :=
      hw.pending_mem top (hframes ▸ List.mem_cons_self) child (hpending ▸ List.mem_cons_self)
    have hnot : child.1.id ∉ top.record.id :: outer.map (·.record.id) := by
      intro hon
      rw [hw.path_of_frames hframes] at hnew
      exact Bool.eq_false_iff.1 hnew (List.contains_iff_mem.2 hon)
    refine ⟨List.nodup_cons.2 ⟨hnot, hnodup⟩, ?_⟩
    exact List.forall_mem_cons.2 ⟨List.mem_cons_of_mem _ hchild, List.forall_mem_cons.2 hmem⟩
  · cases outer with
    | nil => exact ⟨List.nodup_nil, List.forall_mem_nil _⟩
    | cons parent others =>
      exact ⟨(List.nodup_cons.1 hnodup).2,
        List.forall_mem_cons.2 (List.forall_mem_cons.1 hmem.2)⟩

/-- All along a walk from the root the path is that of the open nodes, and these have different
ids. -/
theorem valid_simple_of_leads {surfaced : List Nat} {w : Walk}
    (h : Leads descendants (start descendants root surfaced) w) :
    w.Valid descendants ∧ w.Simple descendants root := by
  induction h with
  | refl => exact ⟨valid_start descendants root surfaced, simple_start surfaced⟩
  | tail _ hstep ih => exact ⟨ih.1.step hstep, ih.2.step ih.1 hstep⟩

/-- No more nodes are open than there are ids of descendants, and the root. -/
theorem Simple.length_frames_le {w : Walk} (h : w.Simple descendants root) :
    w.frames.length ≤ 1 + (descendants.map Record.id).toFinset.card := by
  have hsubset : (w.frames.map (·.record.id)).toFinset ⊆
      insert root.id (descendants.map Record.id).toFinset := by
    intro id hid
    rw [List.mem_toFinset, List.mem_map] at hid
    obtain ⟨frame, hframe, rfl⟩ := hid
    rw [← List.toFinset_cons, ← List.map_cons, List.mem_toFinset]
    exact List.mem_map_of_mem (h.record_mem frame hframe)
  calc w.frames.length
      = (w.frames.map (·.record.id)).toFinset.card := by
        rw [List.toFinset_card_of_nodup h.nodup_ids, List.length_map]
    _ ≤ (insert root.id (descendants.map Record.id).toFinset).card := Finset.card_le_card hsubset
    _ ≤ (descendants.map Record.id).toFinset.card + 1 := Finset.card_insert_le _ _
    _ = 1 + (descendants.map Record.id).toFinset.card := Nat.add_comm _ _

/-- A walk leads to its end. -/
theorem leads_run (w : Walk) (hw : w.Valid descendants) :
    Leads descendants w (run descendants w hw) := by
  fun_induction run descendants w hw with
  | case1 w hw hstep => exact .refl
  | case2 w hw next hstep ih => exact .head hstep ih

/-- There is no step at the end of a walk. -/
theorem step_run (w : Walk) (hw : w.Valid descendants) :
    (run descendants w hw).step descendants = none := by
  fun_induction run descendants w hw with
  | case1 w hw hstep => exact hstep
  | case2 w hw next hstep ih => exact ih

end Walk

/-! ### Ways in the finished tree -/

/-- A way down a placement: the records at its nodes, the last first, and what is placed under the
last one. -/
inductive Placement.Way (p : Placement) : List Record → List Branch → Prop
  /-- The way that ends at the root. -/
  | root : Way p [p.root] p.below
  /-- The way to what is placed under its last node. -/
  | child {way : List Record} {below deeper : List Branch} {child : Record × Nat}
      (h : Way p way below) (hmem : Branch.node child deeper ∈ below) :
      Way p (child.1 :: way) deeper

/-- What linking places under the last node of a way: if its id is new, all that it places under the
id; if the id stands on the way before, nothing. No id stands twice on the way before. -/
theorem Placement.Way.below_cases {descendants : List Record} {root r : Record} {way : List Record}
    {below : List Branch} (h : (placement descendants root).Way (r :: way) below) :
    (way.map Record.id).Nodup ∧
      ((r.id ∉ way.map Record.id ∧ below = branches descendants (way.map Record.id) r.id) ∨
        (r.id ∈ way.map Record.id ∧ below = [])) := by
  -- induction on the way: only a node whose id is new has nodes under it
  generalize hnodes : r :: way = nodes at h
  induction h generalizing r way with
  | root =>
    obtain ⟨rfl, rfl⟩ := List.cons.inj hnodes
    exact ⟨List.nodup_nil, .inl ⟨List.not_mem_nil, rfl⟩⟩
  | child hway hmem ih =>
    obtain ⟨rfl, rfl⟩ := List.cons.inj hnodes
    cases way with
    | nil => cases hway
    | cons parent above =>
      obtain ⟨hnodup, ⟨hnew, rfl⟩ | ⟨-, rfl⟩⟩ := ih rfl
      · refine ⟨List.nodup_cons.2 ⟨hnew, hnodup⟩, ?_⟩
        rw [branches_eq, List.mem_map] at hmem
        obtain ⟨c, -, hbranch⟩ := hmem
        rw [branchAt] at hbranch
        obtain ⟨rfl, rfl⟩ := Branch.node.inj hbranch
        by_cases hon : c.1.id ∈ (parent :: above).map Record.id
        · exact .inr ⟨hon, if_pos (List.contains_iff_mem.2 hon)⟩
        · exact .inl ⟨hon, if_neg (mt List.contains_iff_mem.1 hon)⟩
      · exact absurd hmem List.not_mem_nil

/-! ### The whole walk -/

/-- Whatever the ids and parents, the walk that builds the tree of a record ends, and it ends with a
tree. All along it no two open nodes have one id, the path has their ids, and no more nodes are open
than there are ids of descendants, and the root. On every way down the tree the nodes before the
last have different ids, and a last node that repeats one of them has nothing under it. -/
theorem Walk.build_repeats_only_leaves (descendants : List Record) (root : Record)
    (surfaced : List Nat) :
    (∀ w, Leads descendants (start descendants root surfaced) w →
      (w.frames.map (·.record.id)).Nodup ∧ w.path = w.frames.map (·.record.id) ∧
      w.frames.length ≤ 1 + (descendants.map Record.id).toFinset.card) ∧
    (∃ w, Leads descendants (start descendants root surfaced) w ∧ w.step descendants = none ∧
      w.finished = some (build descendants root surfaced).1 ∧
      w.surfaced = (build descendants root surfaced).2) ∧
    (build descendants root surfaced).1 = (placement descendants root).tree ∧
    ∀ r way below, (placement descendants root).Way (r :: way) below →
      (way.map Record.id).Nodup ∧ (r.id ∈ way.map Record.id → below = []) := by
  refine ⟨fun w hleads => ?_, ?_, build_fst descendants root surfaced, fun r way below hway => ?_⟩
  · obtain ⟨hvalid, hsimple⟩ := valid_simple_of_leads hleads
    exact ⟨hsimple.nodup_ids, hvalid.path_eq, hsimple.length_frames_le⟩
  · have hw := valid_start descendants root surfaced
    refine ⟨run descendants _ hw, leads_run _ hw, step_run _ hw, ?_, rfl⟩
    rw [finished_run, outcome_start, build_fst]
  · obtain ⟨hnodup, ⟨hnew, -⟩ | ⟨-, hbelow⟩⟩ := hway.below_cases
    · exact ⟨hnodup, fun hon => absurd hon hnew⟩
    · exact ⟨hnodup, fun _ => hbelow⟩

end ForestQuery
