import ForestQuery.Tree.Render
import Mathlib.Algebra.GroupWithZero.Nat

/-!
# Rendering by plain recursion

The renderer keeps half-rendered nodes on a stack. What they come to can be said at any time: the
innermost node gets the rendered trees of its waiting children, closes under the next one, and so on
(`RenderFrame.outcome`). No step changes that, so a rendered tree is its document with the rendered
children in it, which is what plain recursion makes (`Tree.rendered`). Trees are counted in the same
way, by a stack of waiting trees.

## Key results

- `RenderFrame.run_eq_outcome`: what the renderer returns, whatever frames are on its stack
- `renderForest_eq_map`, `toDocument_eq`: forests and trees are rendered by plain recursion
- `traversals_eq_recursion`: rendering and counting, with all that the recursion does at a node
-/

namespace ForestQuery.Tree

mutual

/-- The rendered tree: its document with the rendered children in it. -/
def rendered : Tree → Json
  | node document children => embed document (renderedAll children)

/-- The rendered trees, in order. -/
def renderedAll : List Tree → List Json
  | [] => []
  | t :: rest => t.rendered :: renderedAll rest

end

theorem renderedAll_eq_map (ts : List Tree) : renderedAll ts = ts.map rendered := by
  induction ts with
  | nil => rfl
  | cons t rest ih => rw [renderedAll, ih, List.map_cons]

/-! ### What frames come to -/

namespace RenderFrame

/-- What the trees under a frame come to: those that are rendered, and those that wait. -/
def documents (frame : RenderFrame) : List Json :=
  frame.rendered.reverse ++ renderedAll frame.waiting

/-- What a frame under others returns in the end, the nearest of them first: a node closes under the
next frame, anything else returns what its trees come to. -/
def close : RenderFrame → List RenderFrame → List Json
  | frame, [] => frame.documents
  | frame, parent :: outer =>
    match frame.node? with
    | some t => close (parent.add (embed t.document frame.documents)) outer
    | none => frame.documents

/-- What the frames of a stack return in the end. Without a frame there is nothing to return. -/
def outcome : List RenderFrame → Option (List Json)
  | [] => none
  | frame :: outer => some (frame.close outer)

/-- It matters only which node a frame is and what its trees come to. -/
theorem close_congr {frame other : RenderFrame} (hnode : frame.node? = other.node?)
    (hdocuments : frame.documents = other.documents) (outer : List RenderFrame) :
    frame.close outer = other.close outer := by
  cases outer with
  | nil => exact hdocuments
  | cons parent outer => rw [close, close, hnode, hdocuments]

/-- A frame closes at once if it is no node or there is no other frame. -/
theorem close_of_last {frame : RenderFrame} {outer : List RenderFrame}
    (h : frame.node? = none ∨ outer = []) : frame.close outer = frame.documents := by
  cases outer with
  | nil => rfl
  | cons parent outer =>
    have hnode := h.resolve_right (List.cons_ne_nil parent outer)
    rw [close, hnode]

/-- A frame in which nothing waits comes to what is rendered in it. -/
theorem documents_of_waiting_nil {frame : RenderFrame} (h : frame.waiting = []) :
    frame.documents = frame.rendered.reverse := by
  rw [documents, h, renderedAll, List.append_nil]

/-- A waiting tree may be rendered before the others. -/
theorem documents_of_waiting_cons {frame : RenderFrame} {t : Tree} {rest : List Tree}
    (h : frame.waiting = t :: rest) :
    ({ frame with waiting := rest }.add t.rendered).documents = frame.documents := by
  simp [documents, add, h, renderedAll]

/-- An opened node closes as its rendered tree. -/
theorem close_opened (t : Tree) (parent : RenderFrame) (outer : List RenderFrame) :
    (opened t).close (parent :: outer) = (parent.add t.rendered).close outer := by
  obtain ⟨document, children⟩ := t
  rfl

/-- A step does not change what is returned. -/
theorem outcome_step {frames next : List RenderFrame} (h : step frames = .more next) :
    outcome next = outcome frames := by
  cases frames with
  | nil => cases h
  | cons frame outer =>
    rcases step_cons frame outer with ⟨t, rest, hwaiting, hstep⟩ |
      ⟨t, parent, others, hwaiting, hnode, rfl, hstep⟩ | ⟨-, -, hstep⟩
    · -- opened: the frame gets the tree that waited in it
      obtain rfl := Progress.more.inj (hstep.symm.trans h)
      have hdocuments := documents_of_waiting_cons hwaiting
      rw [outcome, outcome, close_opened, close_congr (by rfl) hdocuments]
    · -- closed: nothing waited in the node
      obtain rfl := Progress.more.inj (hstep.symm.trans h)
      rw [outcome, outcome, close, hnode, documents_of_waiting_nil hwaiting]
    · cases hstep.symm.trans h

/-- The last step returns what the frames come to. -/
theorem outcome_of_step_eq_done {frames : List RenderFrame} {documents : List Json}
    (h : step frames = .done documents) : outcome frames = some documents := by
  cases frames with
  | nil => cases h
  | cons frame outer =>
    rcases step_cons frame outer with ⟨t, rest, -, hstep⟩ | ⟨t, parent, others, -, -, -, hstep⟩ |
      ⟨hwaiting, hlast, hstep⟩
    · cases hstep.symm.trans h
    · cases hstep.symm.trans h
    · obtain rfl := Progress.done.inj (hstep.symm.trans h)
      rw [outcome, close_of_last hlast, documents_of_waiting_nil hwaiting]

/-- Only an empty stack has no step. -/
theorem step_cons_ne_exhausted (frame : RenderFrame) (outer : List RenderFrame) :
    step (frame :: outer) ≠ .exhausted := by
  rcases step_cons frame outer with ⟨t, rest, -, hstep⟩ | ⟨t, parent, others, -, -, -, hstep⟩ |
    ⟨-, -, hstep⟩
  all_goals
    rw [hstep]
    nofun

/-- The renderer returns what the frames come to. -/
theorem run_eq_outcome (frames : List RenderFrame) : run frames = outcome frames := by
  -- induction on the run: every step keeps the outcome, the last one returns it
  fun_induction run frames with
  | case1 frames next hstep ih => rw [ih, outcome_step hstep]
  | case2 frames documents hstep => exact (outcome_of_step_eq_done hstep).symm
  | case3 frames hstep =>
    cases frames with
    | nil => rfl
    | cons frame outer => exact absurd hstep (step_cons_ne_exhausted frame outer)

/-- The renderer returns the rendered trees of a forest; its stack does not run empty before. -/
theorem run_ofForest (forest : List Tree) :
    run [ofForest forest] = some (forest.map Tree.rendered) := by
  rw [run_eq_outcome, outcome, close, documents, renderedAll_eq_map]
  rfl

end RenderFrame

/-! ### Forests and trees -/

/-- The trees of a forest are rendered by plain recursion, in order. -/
theorem renderForest_eq_map (forest : List Tree) : renderForest forest = forest.map rendered := by
  rw [renderForest, RenderFrame.run_ofForest, Option.getD_some]

/-- A tree is rendered by plain recursion. -/
theorem toDocument_eq (t : Tree) : t.toDocument = t.rendered := by
  rw [toDocument, renderForest_eq_map]
  rfl

/-- What plain recursion makes of a node. -/
theorem rendered_node (document : Json) (children : List Tree) :
    (node document children).rendered =
      match children, document with
      | [], _ => document
      | _, .object members =>
        .object (Json.put "_children" (.array (children.map rendered)) members)
      | _, _ => .object [("_children", .array (children.map rendered)), ("value", document)] := by
  rw [rendered, renderedAll_eq_map]
  cases children with
  | nil => rfl
  | cons child siblings => cases document <;> rfl

/-! ### Sizes -/

/-- Several trees have as many nodes as each of them together. -/
theorem nodeCountOf_eq_sum (ts : List Tree) : nodeCountOf ts = (ts.map size).sum := by
  induction ts with
  | nil => rfl
  | cons t rest ih =>
    obtain ⟨document, children⟩ := t
    rw [nodeCountOf, nodeCount, ih, List.map_cons, List.sum_cons, size_eq]

/-! ### Both traversals -/

/-- Rendering and counting by stacks are plain recursion, whatever the documents are. The renderer
returns the rendered trees of a forest, in order, before its stack runs empty, and a document for
every tree. A leaf is rendered as its document; an object gets the rendered children under a key, in
place of what it had there; anything else is wrapped into an object. The size of a tree is one more
than the sizes of its children together. -/
theorem traversals_eq_recursion (forest : List Tree) :
    RenderFrame.run [.ofForest forest] = some (forest.map rendered) ∧
    renderForest forest = forest.map rendered ∧
    (∀ t, (renderForest [t]).getLast? = some t.toDocument ∧ t.toDocument = t.rendered) ∧
    (∀ document children, (node document children).rendered =
      match children, document with
      | [], _ => document
      | _, .object members =>
        .object (Json.put "_children" (.array (children.map rendered)) members)
      | _, _ => .object [("_children", .array (children.map rendered)), ("value", document)]) ∧
    (∀ members child siblings key,
      (node (.object members) (child :: siblings)).rendered.member? key =
        if key = "_children" then some (.array ((child :: siblings).map rendered))
        else (Json.object members).member? key) ∧
    ∀ document children, (node document children).size = 1 + (children.map size).sum := by
  refine ⟨RenderFrame.run_ofForest forest, renderForest_eq_map forest, fun t => ?_, rendered_node,
    fun members child siblings key => ?_, fun document children => ?_⟩
  · rw [toDocument_eq, renderForest_eq_map]
    exact ⟨rfl, rfl⟩
  · rw [rendered_node, Json.member?]
    by_cases hkey : key = "_children"
    · rw [if_pos hkey, hkey, Json.lookup_put_self]
    · rw [if_neg hkey, Json.lookup_put_of_ne hkey, Json.member?]
  · rw [size_eq, nodeCountOf_eq_sum, Nat.add_comm]

/-- Children take the place of what a document has under their key. -/
example :
    (node (.object [("_children", .null)]) [leaf (.bool true)]).toDocument =
      .object [("_children", .array [.bool true])] := by
  cbv

end ForestQuery.Tree
