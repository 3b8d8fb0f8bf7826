import ForestQuery.Tree.Basic

/-!
# Trees as documents

A tree is rendered as its document with the rendered children under one more key. The renderer keeps
its own stack of open nodes, so that deep trees need no deep recursion. The last frame of the stack
stands for the forest: the renderer returns the rendered trees when it closes that frame. It would
return nothing if the stack ran empty before.
-/

namespace ForestQuery.Tree

/-- The key of the rendered children. -/
def childrenKey : String := "_children"

/-- A document with rendered children in it. A document without children stays as it is, one that is
no object is wrapped into one. -/
def embed (document : Json) (children : List Json) : Json :=
  if children.isEmpty then document
  else
    match document with
    | .object members => .object (Json.put childrenKey (.array children) members)
    | other => .object [(childrenKey, .array children), ("value", other)]

/-- A node that is being rendered, or the forest, which is no node. -/
structure RenderFrame where
  /-- The node. -/
  node? : Option Tree
  /-- The trees under it that wait. -/
  waiting : List Tree
  /-- The rendered trees under it, the newest first. -/
  rendered : List Json

namespace RenderFrame

/-- A forest whose trees all wait. -/
def ofForest (forest : List Tree) : RenderFrame := ⟨none, forest, []⟩

/-- A node whose children all wait. -/
def opened (t : Tree) : RenderFrame := ⟨some t, t.children, []⟩

/-- The frame with one more rendered tree. -/
def add (frame : RenderFrame) (document : Json) : RenderFrame :=
  { frame with rendered := document :: frame.rendered }

/-- What a step comes to. -/
inductive Progress
  /-- The renderer goes on. -/
  | more (frames : List RenderFrame)
  /-- The renderer returns these documents. -/
  | done (documents : List Json)
  /-- The stack is empty. -/
  | exhausted

/-- One step: open the next waiting tree of the innermost frame, or close that frame. A node closes
under the frame above it, anything else returns what is rendered. -/
def step : List RenderFrame → Progress
  | [] => .exhausted
  | frame :: outer =>
    match frame.waiting with
    | t :: rest => .more (.opened t :: { frame with waiting := rest } :: outer)
    | [] =>
      match frame.node?, outer with
      | some t, parent :: outer =>
        .more (parent.add (embed t.document frame.rendered.reverse) :: outer)
      | _, _ => .done frame.rendered.reverse

/-- All that a step can do while there is a frame: open a tree, close a node under the frame above
it, or return what is rendered. -/
theorem step_cons (frame : RenderFrame) (outer : List RenderFrame) :
    (∃ t rest, frame.waiting = t :: rest ∧
      step (frame :: outer) = .more (.opened t :: { frame with waiting := rest } :: outer)) ∨
    (∃ t parent others, frame.waiting = [] ∧ frame.node? = some t ∧ outer = parent :: others ∧
      step (frame :: outer) =
        .more (parent.add (embed t.document frame.rendered.reverse) :: others)) ∨
    (frame.waiting = [] ∧ (frame.node? = none ∨ outer = []) ∧
      step (frame :: outer) = .done frame.rendered.reverse) := by
  obtain ⟨node?, waiting, rendered⟩ := frame
  cases waiting with
  | cons t rest => exact .inl ⟨t, rest, rfl, rfl⟩
  | nil =>
    cases node? with
    | none => exact .inr (.inr ⟨rfl, .inl rfl, rfl⟩)
    | some t =>
      cases outer with
      | nil => exact .inr (.inr ⟨rfl, .inr rfl, rfl⟩)
      | cons parent others => exact .inr (.inl ⟨t, parent, others, rfl, rfl, rfl, rfl⟩)

/-- The number of steps that the frames still need: two for every waiting tree's node, one to open
and one to close it, and one for every frame. -/
def work : List RenderFrame → Nat
  | [] => 0
  | frame :: outer => 2 * nodeCountOf frame.waiting + 1 + work outer

/-- A step lessens the work. -/
theorem work_step_lt {frames next : List RenderFrame} (h : step frames = .more next) :
    work next < work frames := by
  cases frames with
  | nil => cases h
  | cons frame outer =>
    rcases step_cons frame outer with ⟨t, rest, hwaiting, hstep⟩ |
      ⟨t, parent, others, hwaiting, -, rfl, hstep⟩ | ⟨-, -, hstep⟩
    · -- an opened node: its frame is new, but it waits no longer
      obtain rfl := Progress.more.inj (hstep.symm.trans h)
      obtain ⟨document, children⟩ := t
      simp only [work, opened, Tree.children, hwaiting, nodeCountOf, nodeCount]
      omega
    · -- a closed node: its frame is gone
      obtain rfl := Progress.more.inj (hstep.symm.trans h)
      simp only [work, add]
      omega
    · cases hstep.symm.trans h

/-- Renders to the end: the documents that are returned, if the stack does not run empty before. -/
def run (frames : List RenderFrame) : Option (List Json) :=
  match _hstep : step frames with
  | .more next => run next
  | .done documents => some documents
  | .exhausted => none
termination_by work frames
decreasing_by exact work_step_lt _hstep

end RenderFrame

/-- The rendered trees of a forest. -/
def renderForest (forest : List Tree) : List Json :=
  (RenderFrame.run [.ofForest forest]).getD []

/-- The rendered tree. -/
def toDocument (t : Tree) : Json := (renderForest [t]).getLast?.getD .null

end ForestQuery.Tree
