import ForestQuery.Proofs.Linking.Placement
import Mathlib.Data.List.Lattice

/-!
# The walk builds the placement

The walk that links descendants keeps half-built nodes on a stack. What it comes to can be said at
any time: the innermost node gets what linking makes of its waiting children, closes under the next
one, and so on (`Walk.outcome`). A step changes neither the outcome nor the descendants that are
placed in the end, so the walk comes to the placement that plain recursion makes.

## Key results

- `Walk.build_fst`: the tree that is built is that of the placement
- `Walk.mem_build_snd`: what has surfaced after it is what had before and what the placement has
-/

namespace ForestQuery

/-! ### What open nodes come to -/

/-- The tree that an open node comes to, with the ids above it on the way: the children that are
done, and what linking makes of those that wait. -/
def Frame.outcome (descendants : List Record) (above : List String) (frame : Frame) : Tree :=
  .node frame.record.document (frame.built.reverse ++
    Branch.trees (frame.pending.map (branchAt descendants (frame.record.id :: above))))

/-- A waiting child may be placed before the others. -/
theorem Frame.outcome_of_pending {descendants : List Record} {above : List String} {frame : Frame}
    {child : Record × Nat} {rest : List (Record × Nat)} (h : frame.pending = child :: rest) :
    frame.outcome descendants above =
      ({ frame with pending := rest }.add
        (branchAt descendants (frame.record.id :: above) child).tree).outcome
          descendants above := by
  simp [Frame.outcome, Frame.add, h, Branch.trees]

/-- An opened record comes to its document over what linking places under its id. -/
theorem Frame.outcome_opened (descendants : List Record) (record : Record) (above : List String) :
    (Frame.opened descendants record).outcome descendants above =
      .node record.document (Branch.trees (branches descendants above record.id)) := by
  rw [Frame.outcome, Frame.opened, branches_eq]
  rfl

/-- A node in which nothing waits comes to its tree. -/
theorem Frame.outcome_of_pending_nil {descendants : List Record} {above : List String}
    {frame : Frame} (h : frame.pending = []) : frame.outcome descendants above = frame.tree := by
  simp [Frame.outcome, Frame.tree, h, Branch.trees]

namespace Walk

/-- The tree that open nodes come to, once the innermost gets one more child. -/
def close (descendants : List Record) (t : Tree) : List Frame → Tree
  | [] => t
  | frame :: outer =>
    close descendants ((frame.add t).outcome descendants (outer.map (·.record.id))) outer

/-- The tree that a walk comes to: that of its open nodes, or the one that is finished. -/
def outcome (descendants : List Record) (w : Walk) : Option Tree :=
  match w.frames with
  | [] => w.finished
  | top :: outer =>
    some (close descendants (top.outcome descendants (outer.map (·.record.id))) outer)

/-- While a node is open, the walk comes to the tree of its open nodes. -/
theorem outcome_of_frames {descendants : List Record} {w : Walk} {top : Frame} {outer : List Frame}
    (h : w.frames = top :: outer) :
    w.outcome descendants =
      some (close descendants (top.outcome descendants (outer.map (·.record.id))) outer) := by
  rw [outcome, h]

/-- A step does not change what the walk comes to. -/
theorem outcome_step {descendants : List Record} {w next : Walk} (hw : w.Valid descendants)
    (h : w.step descendants = some next) : next.outcome descendants = w.outcome descendants := by
  obtain ⟨top, outer, hframes, hcases⟩ := step_cases h
  have hpath := hw.path_of_frames hframes
  rw [outcome_of_frames hframes]
  rcases hcases with ⟨child, rest, hpending, hon, rfl⟩ | ⟨child, rest, hpending, hon, rfl⟩ |
    ⟨hpending, rfl⟩
  · -- placed alone: linking puts nothing under a child that is on the way
    rw [hpath] at hon
    rw [Frame.outcome_of_pending hpending, branchAt, if_pos hon]
    rfl
  · -- opened: the node is what linking makes of the child
    rw [hpath] at hon
    have hopened : (w.openChild descendants { top with pending := rest } outer child).frames =
        .opened descendants child.1 :: { top with pending := rest } :: outer := rfl
    rw [Frame.outcome_of_pending hpending, branchAt, if_neg (Bool.eq_false_iff.1 hon),
      outcome_of_frames hopened, Frame.outcome_opened, close]
    rfl
  · -- closed: the node above gets the tree that it was to get, and the last one is finished
    rw [Frame.outcome_of_pending_nil hpending]
    cases outer with
    | nil => rfl
    | cons parent others => rfl

/-! ### What open nodes still place -/

/-- The positions of the descendants that open nodes still place. -/
def awaited (descendants : List Record) : List Frame → List Nat
  | [] => []
  | frame :: outer =>
    frame.pending.flatMap
      (positionsAt descendants (frame.record.id :: outer.map (·.record.id))) ++
      awaited descendants outer

/-- A descendant was placed, or will be. -/
def Places (descendants : List Record) (w : Walk) (position : Nat) : Prop :=
  position ∈ w.surfaced ∨ position ∈ awaited descendants w.frames

/-- A step does not change what is placed in the end. -/
theorem places_step {descendants : List Record} {w next : Walk} (hw : w.Valid descendants)
    (h : w.step descendants = some next) (position : Nat) :
    next.Places descendants position ↔ w.Places descendants position := by
  obtain ⟨top, outer, hframes, hcases⟩ := step_cases h
  have hpath := hw.path_of_frames hframes
  rw [Places, Places, hframes]
  rcases hcases with ⟨child, rest, hpending, hon, rfl⟩ | ⟨child, rest, hpending, hon, rfl⟩ |
    ⟨hpending, rfl⟩
  · -- placed alone: only the child itself was awaited
    rw [hpath] at hon
    simp only [placeAlone, awaited, Frame.add, hpending, List.flatMap_cons, positionsAt, if_pos hon,
      List.mem_insert_iff, List.mem_append, List.mem_singleton]
    tauto
  · -- opened: what was awaited below the child now waits in its own node
    rw [hpath] at hon
    simp only [openChild, awaited, Frame.opened, hpending, List.flatMap_cons, positionsAt,
      if_neg (Bool.eq_false_iff.1 hon), List.mem_insert_iff, List.mem_append, List.mem_cons,
      positionsOf_branches, List.map_cons]
    tauto
  · -- closed: nothing was awaited in the node
    cases outer with
    | nil => simp only [closeTop, awaited, hpending, List.flatMap_nil, List.nil_append]
    | cons parent others =>
      simp only [closeTop, awaited, Frame.add, hpending, List.flatMap_nil, List.nil_append]

/-- Nothing is placed twice by a step. -/
theorem nodup_surfaced_step {descendants : List Record} {w next : Walk}
    (h : w.step descendants = some next) (hw : w.surfaced.Nodup) : next.surfaced.Nodup := by
  obtain ⟨top, outer, -, hcases⟩ := step_cases h
  rcases hcases with ⟨child, rest, -, -, rfl⟩ | ⟨child, rest, -, -, rfl⟩ | ⟨-, rfl⟩
  · exact hw.insert
  · exact hw.insert
  · cases outer with
    | nil => exact hw
    | cons parent others => exact hw

/-! ### The whole walk -/

/-- A walk ends in its outcome. -/
theorem finished_run {descendants : List Record} (w : Walk) (hw : w.Valid descendants) :
    (run descendants w hw).finished = w.outcome descendants := by
  -- induction on the run: every step keeps the outcome, and it is there when no node is open
  fun_induction run descendants w hw with
  | case1 w hw hstep => rw [outcome, frames_eq_nil_of_step hstep]
  | case2 w hw next hstep ih => rw [ih, outcome_step hw hstep]

/-- A walk places what it was to place. -/
theorem mem_surfaced_run {descendants : List Record} (w : Walk) (hw : w.Valid descendants)
    (position : Nat) :
    position ∈ (run descendants w hw).surfaced ↔ w.Places descendants position := by
  fun_induction run descendants w hw with
  | case1 w hw hstep => simp [Places, awaited, frames_eq_nil_of_step hstep]
  | case2 w hw next hstep ih => rw [ih, places_step hw hstep]

/-- A walk places nothing twice. -/
theorem nodup_surfaced_run {descendants : List Record} (w : Walk) (hw : w.Valid descendants)
    (hsurfaced : w.surfaced.Nodup) : (run descendants w hw).surfaced.Nodup := by
  fun_induction run descendants w hw with
  | case1 w hw hstep => exact hsurfaced
  | case2 w hw next hstep ih => exact ih (nodup_surfaced_step hstep hsurfaced)

section

variable (descendants : List Record) (record : Record) (surfaced : List Nat)

/-- The walk from a record comes to the tree of its placement. -/
theorem outcome_start :
    (start descendants record surfaced).outcome descendants =
      some (placement descendants record).tree := by
  have hframes : (start descendants record surfaced).frames = [.opened descendants record] := rfl
  rw [outcome_of_frames hframes, Frame.outcome_opened]
  rfl

/-- The tree of a record is that of its placement. -/
theorem build_fst :
    (build descendants record surfaced).1 = (placement descendants record).tree := by
  rw [build, finished_run, outcome_start, Option.getD_some]

/-- What has surfaced after a record was built is what had before, and what stands under it. -/
theorem mem_build_snd (position : Nat) :
    position ∈ (build descendants record surfaced).2 ↔
      position ∈ surfaced ∨ position ∈ (placement descendants record).positions := by
  rw [build, mem_surfaced_run, Places, placement, Placement.positions, positionsOf_branches]
  simp [start, awaited, Frame.opened]

theorem nodup_build_snd (h : surfaced.Nodup) : (build descendants record surfaced).2.Nodup :=
  nodup_surfaced_run _ _ h

end

end Walk

end ForestQuery
