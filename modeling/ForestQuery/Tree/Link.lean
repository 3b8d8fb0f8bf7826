import ForestQuery.Skeleton
import ForestQuery.Tree.Basic

/-!
# Linking descendants under their ancestors

Fetched descendants name their parents. Linking puts them under the primary records: the children of
a record are the descendants that name its id as their parent, in the order of their arrival. A
descendant that names itself is nobody's child. Ids should be unique, but a store may return several
records of one id; a child whose id already stands on the way down to it is placed without children
of its own, so that every tree is finite.

A tree is built by a walk with its own stack of open nodes. `Walk.step_lt` is the reason that it
ends: a child that is opened adds its id to the way down, so it leaves less room below it, and
`Walk.load` counts every waiting child with the most steps that it can still cost in its room.

`unfold` says by plain recursion what tree a record gets.
-/

namespace ForestQuery

/-- The descendants that may be placed under a record with an id, with their positions among all
descendants. -/
def childrenOf (descendants : List Record) (id : String) : List (Record × Nat) :=
  descendants.zipIdx.filter fun child =>
    !child.1.skeleton.isSelfParented && child.1.parentId == some id

theorem mem_of_mem_childrenOf {descendants : List Record} {id : String} {child : Record × Nat}
    (h : child ∈ childrenOf descendants id) : child.1 ∈ descendants := by
  obtain ⟨record, position⟩ := child
  rw [childrenOf, List.mem_filter] at h
  exact List.fst_mem_of_mem_zipIdx h.1

theorem length_childrenOf_le (descendants : List Record) (id : String) :
    (childrenOf descendants id).length ≤ descendants.length := by
  have := List.length_filter_le (fun child : Record × Nat =>
    !child.1.skeleton.isSelfParented && child.1.parentId == some id) descendants.zipIdx
  simpa [childrenOf] using this

/-- A stricter condition that a member fails is met less often. -/
private theorem countP_lt_of_mem {α : Type} {p q : α → Bool} {xs : List α} {x : α}
    (hpq : ∀ y ∈ xs, p y → q y) (hx : x ∈ xs) (hq : q x) (hp : ¬ p x) :
    xs.countP p < xs.countP q := by
  induction xs with
  | nil => exact absurd hx List.not_mem_nil
  | cons y ys ih =>
    have hle : ys.countP p ≤ ys.countP q :=
      List.countP_mono_left fun z hz => hpq z (List.mem_cons_of_mem _ hz)
    rcases List.mem_cons.1 hx with rfl | hmem
    · rw [List.countP_cons_of_pos hq, List.countP_cons_of_neg hp]
      exact Nat.lt_succ_of_le hle
    · have hlt := ih (fun z hz => hpq z (List.mem_cons_of_mem _ hz)) hmem
      by_cases hpy : p y
      · rw [List.countP_cons_of_pos hpy, List.countP_cons_of_pos (hpq y List.mem_cons_self hpy)]
        exact Nat.succ_lt_succ hlt
      · rw [List.countP_cons_of_neg hpy, List.countP_cons]
        omega

/-- The number of descendants whose ids do not stand on the way down. -/
def room (descendants : List Record) (path : List String) : Nat :=
  descendants.countP fun d => !path.contains d.id

/-- A descendant that is not on the way down leaves less room below it. -/
theorem room_cons_lt {descendants : List Record} {path : List String} {d : Record}
    (hmem : d ∈ descendants) (hnew : ¬ path.contains d.id) :
    room descendants (d.id :: path) < room descendants path := by
  apply countP_lt_of_mem (x := d) _ hmem
  · simpa using hnew
  · simp
  · intro y _ hy
    simp only [List.contains_cons, Bool.not_or, Bool.and_eq_true] at hy
    exact hy.2

/-- The tree of a record by plain recursion, with the ids on the way down to it. -/
def unfold (descendants : List Record) (record : Record) (path : List String) : Tree :=
  .node record.document
    ((childrenOf descendants record.id).attach.map fun ⟨child, _⟩ =>
      if path.contains child.1.id then
        .leaf child.1.document
      else
        unfold descendants child.1 (child.1.id :: path))
termination_by room descendants path
decreasing_by exact room_cons_lt (mem_of_mem_childrenOf ‹_›) ‹_›

/-- A node of a tree that is being built. -/
structure Frame where
  /-- Its record. -/
  record : Record
  /-- The children that wait, with their positions. -/
  pending : List (Record × Nat)
  /-- The trees of the children that are done, the newest first. -/
  built : List Tree

namespace Frame

/-- A node whose children all wait. -/
def opened (descendants : List Record) (record : Record) : Frame :=
  ⟨record, childrenOf descendants record.id, []⟩

/-- The tree of a node whose children are done. -/
def tree (frame : Frame) : Tree := .node frame.record.document frame.built.reverse

/-- The node with one more child done. -/
def add (frame : Frame) (t : Tree) : Frame := { frame with built := t :: frame.built }

end Frame

/-- A walk that builds the tree of a record. -/
structure Walk where
  /-- The open nodes, the innermost first. -/
  frames : List Frame
  /-- The ids on the way down, the last first. -/
  path : List String
  /-- The positions of the descendants that were placed. -/
  surfaced : List Nat
  /-- The tree of the record, once its own node is closed. -/
  finished : Option Tree

namespace Walk

/-- The walk that starts at a record. -/
def start (descendants : List Record) (record : Record) (surfaced : List Nat) : Walk :=
  ⟨[.opened descendants record], [record.id], surfaced, none⟩

/-- Places a child of the innermost node alone. -/
def placeAlone (w : Walk) (top : Frame) (outer : List Frame) (child : Record × Nat) : Walk :=
  { w with
    frames := top.add (.leaf child.1.document) :: outer
    surfaced := w.surfaced.insert child.2 }

/-- Places a child of the innermost node and opens it. -/
def openChild (descendants : List Record) (w : Walk) (top : Frame) (outer : List Frame)
    (child : Record × Nat) : Walk :=
  { w with
    frames := .opened descendants child.1 :: top :: outer
    path := child.1.id :: w.path
    surfaced := w.surfaced.insert child.2 }

/-- Closes the innermost node, under the node above it if there is one. -/
def closeTop (w : Walk) (top : Frame) (outer : List Frame) : Walk :=
  let path := w.path.erase top.record.id
  match outer with
  | [] => { w with frames := [], path, finished := some top.tree }
  | parent :: others => { w with frames := parent.add top.tree :: others, path }

/-- One step: place the next waiting child of the innermost node, or close that node. When no node
is open the walk is over. -/
def step (descendants : List Record) (w : Walk) : Option Walk :=
  match w.frames with
  | [] => none
  | top :: outer =>
    match top.pending with
    | child :: rest =>
      let top := { top with pending := rest }
      -- a child that stands on the way down to it gets no children of its own
      if w.path.contains child.1.id then
        some (w.placeAlone top outer child)
      else
        some (w.openChild descendants top outer child)
    | [] => some (w.closeTop top outer)

/-- All that a step can do. -/
theorem step_cases {descendants : List Record} {w next : Walk}
    (h : w.step descendants = some next) :
    ∃ top outer, w.frames = top :: outer ∧
      ((∃ child rest, top.pending = child :: rest ∧ w.path.contains child.1.id = true ∧
        next = w.placeAlone { top with pending := rest } outer child) ∨
      (∃ child rest, top.pending = child :: rest ∧ w.path.contains child.1.id = false ∧
        next = w.openChild descendants { top with pending := rest } outer child) ∨
      (top.pending = [] ∧ next = w.closeTop top outer)) := by
  rw [step] at h
  cases hframes : w.frames with
  | nil =>
    rw [hframes] at h
    cases h
  | cons top outer =>
    refine ⟨top, outer, rfl, ?_⟩
    rw [hframes] at h
    cases hpending : top.pending with
    | cons child rest =>
      simp only [hpending] at h
      split at h
      · next hon => exact .inl ⟨child, rest, rfl, hon, (Option.some.inj h).symm⟩
      · next hnew =>
        have hnew := Bool.eq_false_iff.2 hnew
        exact .inr (.inl ⟨child, rest, rfl, hnew, (Option.some.inj h).symm⟩)
    | nil =>
      simp only [hpending] at h
      exact .inr (.inr ⟨rfl, (Option.some.inj h).symm⟩)

/-- The walk is over when no node is open. -/
theorem frames_eq_nil_of_step {descendants : List Record} {w : Walk}
    (h : w.step descendants = none) : w.frames = [] := by
  rw [step] at h
  cases hframes : w.frames with
  | nil => rfl
  | cons top outer =>
    rw [hframes] at h
    dsimp only at h
    split at h
    · split at h <;> cases h
    · cases h

/-- What holds all along a walk: the path is that of the open nodes, and only descendants wait. -/
structure Valid (descendants : List Record) (w : Walk) : Prop where
  /-- The path has the ids of the open nodes. -/
  path_eq : w.path = w.frames.map (·.record.id)
  /-- Whatever waits is a descendant. -/
  pending_mem : ∀ frame ∈ w.frames, ∀ child ∈ frame.pending, child.1 ∈ descendants

theorem valid_start (descendants : List Record) (record : Record) (surfaced : List Nat) :
    (start descendants record surfaced).Valid descendants where
  path_eq := rfl
  pending_mem frame hframe child hchild := by
    simp only [start, List.mem_singleton] at hframe
    subst hframe
    exact mem_of_mem_childrenOf hchild

/-- The path starts at the innermost open node. -/
theorem Valid.path_of_frames {descendants : List Record} {w : Walk} {top : Frame}
    {outer : List Frame} (h : w.Valid descendants) (hframes : w.frames = top :: outer) :
    w.path = top.record.id :: outer.map (·.record.id) := by
  rw [h.path_eq, hframes, List.map_cons]

/-- A step keeps the walk valid. -/
theorem Valid.step {descendants : List Record} {w next : Walk} (h : w.Valid descendants)
    (hstep : w.step descendants = some next) : next.Valid descendants := by
  obtain ⟨top, outer, hframes, hcases⟩ := step_cases hstep
  have hpath := h.path_of_frames hframes
  have hmem := h.pending_mem
  rw [hframes, List.forall_mem_cons] at hmem
  obtain ⟨htop, houter⟩ := hmem
  rcases hcases with ⟨child, rest, hpending, -, rfl⟩ | ⟨child, rest, hpending, -, rfl⟩ | ⟨-, rfl⟩
  · rw [hpending, List.forall_mem_cons] at htop
    exact ⟨hpath, List.forall_mem_cons.2 ⟨htop.2, houter⟩⟩
  · rw [hpending, List.forall_mem_cons] at htop
    refine ⟨by simp [openChild, Frame.opened, hpath], ?_⟩
    refine List.forall_mem_cons.2 ⟨fun c hc => mem_of_mem_childrenOf hc, ?_⟩
    exact List.forall_mem_cons.2 ⟨htop.2, houter⟩
  · cases outer with
    | nil => exact ⟨by simp [closeTop, hpath], List.forall_mem_nil _⟩
    | cons parent others =>
      refine ⟨by simp [closeTop, Frame.add, hpath], ?_⟩
      exact List.forall_mem_cons.2 (List.forall_mem_cons.1 houter)

/-- The most steps that a waiting child can cost, with so many descendants and so much room. -/
def cost (descendants : Nat) : Nat → Nat
  | 0 => 1
  | room + 1 => descendants * cost descendants room + 2

theorem cost_pos (n r : Nat) : 0 < cost n r := by
  cases r <;> simp [cost]

theorem cost_mono (n : Nat) {r s : Nat} (h : r ≤ s) : cost n r ≤ cost n s := by
  induction s generalizing r with
  | zero => exact Nat.le_of_eq (congrArg (cost n) (Nat.le_zero.1 h))
  | succ s ih =>
    cases r with
    | zero => simp [cost]
    | succ r =>
      have := Nat.mul_le_mul_left n (ih (Nat.le_of_succ_le_succ h))
      simp only [cost]
      omega

/-- The most steps that open nodes can still cost. -/
def load (descendants : List Record) : List Frame → Nat
  | [] => 0
  | frame :: outer =>
    frame.pending.length *
        cost descendants.length (room descendants ((frame :: outer).map (·.record.id))) +
      1 + load descendants outer

/-- A step lessens the load. -/
theorem step_lt {descendants : List Record} {w next : Walk} (h : w.Valid descendants)
    (hstep : w.step descendants = some next) :
    load descendants next.frames < load descendants w.frames := by
  obtain ⟨top, outer, hframes, hcases⟩ := step_cases hstep
  have hpath := h.path_of_frames hframes
  have hmem := h.pending_mem
  rw [hframes, List.forall_mem_cons] at hmem
  rw [hframes]
  rcases hcases with ⟨child, rest, hpending, -, rfl⟩ | ⟨child, rest, hpending, hnew, rfl⟩ |
    ⟨hpending, rfl⟩
  · -- a child placed alone: one child fewer waits, and a child costs something
    have := cost_pos descendants.length
      (room descendants (top.record.id :: outer.map (·.record.id)))
    simp only [placeAlone, Frame.add, load, hpending, List.map_cons, List.length_cons, Nat.add_mul]
    omega
  · -- an opened child: all that waits below it has less room than the child had
    have hchild := hmem.1 child (hpending ▸ List.mem_cons_self)
    rw [hpath] at hnew
    have hroom := room_cons_lt hchild (Bool.eq_false_iff.1 hnew)
    have hlen := length_childrenOf_le descendants child.1.id
    simp only [openChild, Frame.opened, load, hpending, List.map_cons, List.length_cons,
      Nat.add_mul]
    generalize room descendants (child.1.id :: top.record.id :: outer.map (·.record.id)) = r at *
    generalize room descendants (top.record.id :: outer.map (·.record.id)) = s at *
    obtain ⟨s, rfl⟩ : ∃ t, s = t + 1 := ⟨s - 1, by omega⟩
    have hmono := cost_mono descendants.length (Nat.le_of_lt_succ hroom)
    have hmul := Nat.mul_le_mul hlen hmono
    simp only [cost]
    omega
  · -- a closed node: nothing more waits in it
    cases outer with
    | nil => exact Nat.zero_lt_succ _
    | cons parent others =>
      simp only [closeTop, Frame.add, load, List.map_cons]
      omega

/-- Walks until no node is open. -/
def run (descendants : List Record) (w : Walk) (h : w.Valid descendants) : Walk :=
  match hstep : w.step descendants with
  | none => w
  | some next => run descendants next (h.step hstep)
termination_by load descendants w.frames
decreasing_by exact step_lt h hstep

/-- Builds the tree of a record after some descendants were placed: the tree, and the positions of
the descendants that are placed then. If the walk ended without a tree, the record would stand
alone. -/
def build (descendants : List Record) (record : Record) (surfaced : List Nat) : Tree × List Nat :=
  let w := run descendants (start descendants record surfaced)
    (valid_start descendants record surfaced)
  (w.finished.getD (.leaf record.document), w.surfaced)

end Walk

/-- Primary records with their descendants linked under them. -/
structure LinkedForest where
  /-- A tree for every primary record, in order. -/
  forest : List Tree
  /-- The number of descendants that stand somewhere in the forest. -/
  attached : Nat
  /-- The number of descendants that stand nowhere. -/
  orphaned : Nat

/-- Builds the trees of records in order, after some descendants were placed. -/
def buildForest (descendants : List Record) :
    List Record → List Nat → List Tree × List Nat
  | [], surfaced => ([], surfaced)
  | record :: rest, surfaced =>
    let first := Walk.build descendants record surfaced
    let others := buildForest descendants rest first.2
    (first.1 :: others.1, others.2)

/-- Links descendants under primary records. -/
def link (primary descendants : List Record) : LinkedForest :=
  let built := buildForest descendants primary []
  ⟨built.1, built.2.length, descendants.length - built.2.length⟩

end ForestQuery
