import ForestQuery.Layout

/-!
# Skeletons

The skeleton of a record is its place in the hierarchy: its id, the id of its parent, and the bounds
of an interval. A record is a descendant of another exactly if its interval lies strictly inside the
other's. `Record.ofDocument?` decodes the skeleton of a stored document.
-/

namespace ForestQuery

/-- The place of a record in the hierarchy. -/
structure Skeleton where
  /-- The record's own id. -/
  id : String
  /-- The id of its parent; roots have none. -/
  parentId : Option String
  /-- The left bound of its interval. -/
  left : Binary64
  /-- The right bound of its interval. -/
  right : Binary64
deriving DecidableEq

namespace Skeleton

/-- The id that a stored value is: a text that is not empty, or the text of a number. -/
def idText? : Json → Option String
  | .string s => if s.isEmpty then none else some s
  | .number n => some n.text
  | _ => none

/-- The bound that a stored value is. -/
def bound? : Json → Option Binary64
  | .number n => some n.toBinary64
  | _ => none

/-- The skeleton of a stored document. Without an id or a bound there is none; what is no id where
the parent's should stand counts as no parent. -/
def ofDocument? (l : Layout) (document : Json) : Option Skeleton := do
  let stored ← document.member? l.skeletonKey
  let id ← (stored.member? l.idKey).bind idText?
  let left ← (stored.member? l.leftKey).bind bound?
  let right ← (stored.member? l.rightKey).bind bound?
  return ⟨id, (stored.member? l.parentKey).bind idText?, left, right⟩

/-- The interval is not empty. -/
def isWellFormed (s : Skeleton) : Bool := s.left.lt s.right

/-- The other interval lies strictly inside this one. -/
def contains (s other : Skeleton) : Bool := s.left.lt other.left && other.right.lt s.right

/-- The record names itself as its parent. -/
def isSelfParented (s : Skeleton) : Bool := s.parentId == some s.id

end Skeleton

/-- A document with its skeleton. -/
structure Record where
  /-- The skeleton. -/
  skeleton : Skeleton
  /-- The document as it was fetched. -/
  document : Json

namespace Record

/-- The record of a stored document, if it has a skeleton. -/
def ofDocument? (l : Layout) (document : Json) : Option Record :=
  (Skeleton.ofDocument? l document).map (⟨·, document⟩)

/-- The id of a record. -/
def id (r : Record) : String := r.skeleton.id

/-- The id of its parent. -/
def parentId (r : Record) : Option String := r.skeleton.parentId

end Record

end ForestQuery
