import ForestQuery.Json.Basic

/-!
# Dotted paths

A dotted path names a value inside a document: each part between dots is the key of one more object
on the way down. `Path.keys_join` takes a path of two dot-free keys apart again.
-/

namespace ForestQuery

namespace Path

/-- The parts of a path between its dots; there is always at least one, possibly empty. -/
def splitDots : List Char → List (List Char)
  | [] => [[]]
  | c :: rest =>
    match splitDots rest with
    | [] => [[c]]
    | part :: parts => if c = '.' then [] :: part :: parts else (c :: part) :: parts

/-- The keys that a dotted path names, in order. -/
def keys (path : String) : List String :=
  (splitDots path.toList).map String.ofList

/-- The path one key further down. -/
def join (parent child : String) : String := parent ++ "." ++ child

theorem splitDots_ne_nil (cs : List Char) : splitDots cs ≠ [] := by
  cases cs with
  | nil => simp [splitDots]
  | cons c rest =>
    rw [splitDots]
    split
    · simp
    · split <;> simp

/-- A text without dots is a single part. -/
theorem splitDots_of_not_mem {cs : List Char} (h : '.' ∉ cs) : splitDots cs = [cs] := by
  induction cs with
  | nil => rfl
  | cons c rest ih =>
    rw [List.mem_cons, not_or] at h
    rw [splitDots, ih h.2]
    exact if_neg (Ne.symm h.1)

/-- The part before the first dot comes off whole. -/
theorem splitDots_append_dot {cs : List Char} (h : '.' ∉ cs) (rest : List Char) :
    splitDots (cs ++ '.' :: rest) = cs :: splitDots rest := by
  induction cs with
  | nil =>
    rw [List.nil_append, splitDots]
    split
    · next heq => exact absurd heq (splitDots_ne_nil rest)
    · next heq => rw [heq]; exact if_pos rfl
  | cons c cs ih =>
    rw [List.mem_cons, not_or] at h
    rw [List.cons_append, splitDots, ih h.2]
    exact if_neg (Ne.symm h.1)

theorem toList_join (parent child : String) :
    (join parent child).toList = parent.toList ++ '.' :: child.toList := by
  simp [join, String.toList_append]

/-- A dot-free key comes off a path whole. -/
theorem keys_join_of_not_mem {parent : String} (hp : '.' ∉ parent.toList) (child : String) :
    keys (join parent child) = parent :: keys child := by
  rw [keys, keys, toList_join, splitDots_append_dot hp, List.map_cons, String.ofList_toList]

/-- A path joined of two dot-free keys names these two keys. -/
theorem keys_join {parent child : String} (hp : '.' ∉ parent.toList) (hc : '.' ∉ child.toList) :
    keys (join parent child) = [parent, child] := by
  rw [keys_join_of_not_mem hp, keys, splitDots_of_not_mem hc, List.map_singleton,
    String.ofList_toList]

end Path

/-- The value at the end of a way down through objects. -/
def Json.descend? (document : Json) : List String → Option Json
  | [] => some document
  | key :: rest => (document.member? key).bind (·.descend? rest)

/-- The value that a dotted path names in a document. -/
def Json.at? (document : Json) (path : String) : Option Json :=
  document.descend? (Path.keys path)

end ForestQuery
