import ForestQuery.Proofs.Descent.Intervals

/-!
# Where the paths of a layout lead

Decoding takes every key of a layout as it is, and a path is taken apart at its dots. So a condition
on the path of a bound or of an id asks for the values that were decoded exactly if the keys have no
dots. A key with a dot is decoded like any other, but there is a record of which its path misses the
values.

## Key results

- `Layout.NamesFields.readsAlike`: without dots, conditions ask for what is decoded
- `Json.at?_join_eq_none`: a path of two keys may lead nowhere if one of them has a dot
- `Layout.readsAlike_iff`: paths and decoding read the same values exactly without dots
-/

namespace ForestQuery

/-! ### Paths with dots -/

namespace Path

/-- A path with a dot names more keys than one, and the first of them has no dots. -/
theorem exists_keys_of_mem {path : String} (hdot : '.' ∈ path.toList) :
    ∃ first second rest, keys path = first :: second :: rest ∧ '.' ∉ first.toList := by
  obtain ⟨front, back, hpath, hfront⟩ := List.eq_append_cons_of_mem hdot
  obtain ⟨part, parts, hback⟩ := List.exists_cons_of_ne_nil (splitDots_ne_nil back)
  refine ⟨String.ofList front, String.ofList part, parts.map String.ofList, ?_, ?_⟩
  · rw [keys, hpath, splitDots_append_dot hfront, hback, List.map_cons, List.map_cons]
  · rwa [String.toList_ofList]

end Path

namespace Json

/-- If one of two keys has a dot, their path leads nowhere in an object that has plain values under
the first. -/
theorem at?_join_eq_none {parent child : String}
    (hdot : '.' ∈ parent.toList ∨ '.' ∈ child.toList) {stored : Json}
    (hplain : ∀ key value, stored.member? key = some value → ∀ other, value.member? other = none) :
    (object [(parent, stored)]).at? (Path.join parent child) = none := by
  rw [at?]
  by_cases hparent : '.' ∈ parent.toList
  · -- the first key of the path ends before the dot, and there is nothing under it
    have hmem : '.' ∈ (Path.join parent child).toList := by
      rw [Path.toList_join]
      exact List.mem_append_left _ hparent
    obtain ⟨first, second, rest, hkeys, hfirst⟩ := Path.exists_keys_of_mem hmem
    have hne : first ≠ parent := by
      rintro rfl
      exact hfirst hparent
    rw [hkeys, descend?, member?, List.lookup_cons, beq_eq_false_iff_ne.2 hne]
    rfl
  · -- the path goes on below a plain value
    obtain ⟨first, second, rest, hkeys, -⟩ :=
      Path.exists_keys_of_mem (hdot.resolve_left hparent)
    rw [Path.keys_join_of_not_mem hparent, hkeys, descend?, member?, List.lookup_cons_self,
      Option.bind_some, descend?]
    cases hvalue : stored.member? first with
    | none => rfl
    | some value =>
      rw [Option.bind_some, descend?, hplain first value hvalue second]
      rfl

/-- Members with the same value under every key. -/
def repeated (value : Json) (keys : List String) : List (String × Json) :=
  keys.foldr (fun key members => put key value members) []

theorem lookup_repeated (value : Json) (keys : List String) (key : String) :
    (repeated value keys).lookup key = if key ∈ keys then some value else none := by
  induction keys with
  | nil => rfl
  | cons first rest ih =>
    rw [repeated, List.foldr_cons, ← repeated]
    by_cases hkey : key = first
    · rw [hkey, lookup_put_self, if_pos List.mem_cons_self]
    · rw [lookup_put_of_ne hkey, ih]
      simp [hkey]

end Json

/-! ### Decoding and conditions -/

namespace Layout

/-- The value that decoding reads under a key inside the skeleton. -/
def stored? (l : Layout) (key : String) (document : Json) : Option Json :=
  (document.member? l.skeletonKey).bind (·.member? key)

/-- The keys of the skeleton, of the id and of the bounds have no dots. -/
structure NamesFields (l : Layout) : Prop where
  /-- The key of the skeleton has no dots. -/
  skeletonKey : '.' ∉ l.skeletonKey.toList
  /-- The key of the id has no dots. -/
  idKey : '.' ∉ l.idKey.toList
  /-- The key of the left bound has no dots. -/
  leftKey : '.' ∉ l.leftKey.toList
  /-- The key of the right bound has no dots. -/
  rightKey : '.' ∉ l.rightKey.toList

/-- Conditions on the paths of a layout ask a document for the values that its skeleton was decoded
from. -/
structure ReadsAlike (compiles : String → Bool) (l : Layout) (document : Json) (s : Skeleton) :
    Prop where
  /-- The path of the id leads to the value that was read as the id. -/
  id : document.at? l.idField = l.stored? l.idKey document
  /-- The path of the left bound leads to the value that was read as the left bound. -/
  left : document.at? l.leftField = l.stored? l.leftKey document
  /-- The path of the right bound leads to the value that was read as the right bound. -/
  right : document.at? l.rightField = l.stored? l.rightKey document
  /-- The left field is above a bound exactly if the decoded left is; only numbers are bounds. -/
  above (bound : Json) :
    (Predicate.field l.leftField (.range .greater bound)).isMatch compiles document =
      (Skeleton.bound? bound).any (·.lt s.left)
  /-- The right field is below a bound exactly if the decoded right is; only numbers are bounds. -/
  below (bound : Json) :
    (Predicate.field l.rightField (.range .less bound)).isMatch compiles document =
      (Skeleton.bound? bound).any s.right.lt
  /-- The field of the id equals the value that was read as the id. -/
  equal (value : Json) (hvalue : l.stored? l.idKey document = some value) :
    (Predicate.field l.idField (.equals value)).isMatch compiles document = true

end Layout

/-- A value that is an id equals itself as the value of a condition. -/
theorem Condition.equalsField_self_of_idText? {value : Json} {id : String}
    (hid : Skeleton.idText? value = some id) : equalsField (some value) value = true := by
  cases value with
  | string s => exact Json.same_self (.string s)
  | number n =>
    obtain ⟨x, hx⟩ := n.exists_finite
    simp [equalsField, Json.equalsValue, hx, Binary64.compare?, Binary64.place?]
  | null | bool | array | object => cases hid

/-- The id of a decoded skeleton is the text of a value that stands in the document. -/
theorem Skeleton.exists_id {l : Layout} {document : Json} {s : Skeleton}
    (h : ofDocument? l document = some s) :
    ∃ value, l.stored? l.idKey document = some value ∧ idText? value = some s.id := by
  simp only [ofDocument?, Option.bind_eq_bind, Option.bind_eq_some_iff] at h
  obtain ⟨stored, hstored, id, ⟨value, hvalue, hid⟩, left, -, right, -, hs⟩ := h
  obtain rfl := Option.some.inj hs
  refine ⟨value, ?_, hid⟩
  rw [Layout.stored?, hstored, Option.bind_some, hvalue]

namespace Layout

/-- Without dots in the keys, conditions ask for what is decoded. -/
theorem NamesFields.readsAlike {l : Layout} (hl : l.NamesFields) (compiles : String → Bool)
    {document : Json} {s : Skeleton} (hs : Skeleton.ofDocument? l document = some s) :
    l.ReadsAlike compiles document s := by
  have hid : document.at? l.idField = l.stored? l.idKey document :=
    Json.at?_join hl.skeletonKey hl.idKey document
  have hleft : document.at? l.leftField = l.stored? l.leftKey document :=
    Json.at?_join hl.skeletonKey hl.leftKey document
  have hright : document.at? l.rightField = l.stored? l.rightKey document :=
    Json.at?_join hl.skeletonKey hl.rightKey document
  obtain ⟨stored, m, n, hstored, hm, hmleft, hn, hnright⟩ := Skeleton.exists_bounds hs
  refine ⟨hid, hleft, hright, fun bound => ?_, fun bound => ?_, fun value hvalue => ?_⟩
  · rw [Predicate.isMatch, hleft, stored?, hstored, Option.bind_some, hm, ← hmleft]
    cases bound with
    | number b => exact Binary64.any_greater_compare? ..
    | null | bool | string | array | object => rfl
  · rw [Predicate.isMatch, hright, stored?, hstored, Option.bind_some, hn, ← hnright]
    cases bound with
    | number b => exact Binary64.any_less_compare? ..
    | null | bool | string | array | object => rfl
  · obtain ⟨value', hvalue', hidText⟩ := Skeleton.exists_id hs
    obtain rfl := Option.some.inj (hvalue.symm.trans hvalue')
    rw [Predicate.isMatch, hid, hvalue, Condition.holds]
    exact Condition.equalsField_self_of_idText? hidText

/-! ### A record for every layout -/

/-- A number as the id and the bounds of a record. -/
def one : Json := .number (.ofUInt64 1)

/-- What is stored of the skeleton of a record whose id and bounds are the same number, so that it
does not matter whether their keys are different. -/
def plainSkeleton (l : Layout) : Json :=
  .object (Json.repeated one [l.idKey, l.leftKey, l.rightKey])

/-- A record with that skeleton and nothing else. -/
def plainRecord (l : Layout) : Json := .object [(l.skeletonKey, l.plainSkeleton)]

theorem member?_plainSkeleton (l : Layout) (key : String) :
    l.plainSkeleton.member? key =
      if key ∈ [l.idKey, l.leftKey, l.rightKey] then some one else none :=
  Json.lookup_repeated ..

theorem member?_plainRecord (l : Layout) :
    l.plainRecord.member? l.skeletonKey = some l.plainSkeleton := by
  rw [plainRecord, Json.member?, List.lookup_cons_self]

theorem stored?_plainRecord (l : Layout) {key : String}
    (hkey : key ∈ [l.idKey, l.leftKey, l.rightKey]) : l.stored? key l.plainRecord = some one := by
  rw [stored?, member?_plainRecord, Option.bind_some, member?_plainSkeleton, if_pos hkey]

/-- The record is decoded under its layout, whatever the keys are. -/
theorem exists_ofDocument?_plainRecord (l : Layout) :
    ∃ s, Skeleton.ofDocument? l l.plainRecord = some s := by
  simp [Skeleton.ofDocument?, member?_plainRecord, member?_plainSkeleton, one, Skeleton.idText?,
    Skeleton.bound?]

/-- If a path leads to a value in that record, the keys that it is joined of have no dots. -/
theorem not_mem_of_at?_plainRecord {l : Layout} {key : String} {value : Json}
    (hvalue : l.plainRecord.at? (Path.join l.skeletonKey key) = some value) :
    '.' ∉ l.skeletonKey.toList ∧ '.' ∉ key.toList := by
  rw [← not_or]
  intro hdot
  have hplain (k : String) (stored : Json) (hstored : l.plainSkeleton.member? k = some stored)
      (other : String) : stored.member? other = none := by
    rw [member?_plainSkeleton, Option.ite_none_right_eq_some] at hstored
    obtain rfl := Option.some.inj hstored.2
    rfl
  rw [plainRecord, Json.at?_join_eq_none hdot hplain] at hvalue
  cases hvalue

/-- Conditions on the paths of a layout ask every record for what is decoded of it exactly if the
keys of the skeleton, of the id and of the bounds have no dots. -/
theorem readsAlike_iff (compiles : String → Bool) (l : Layout) :
    (∀ document s, Skeleton.ofDocument? l document = some s → l.ReadsAlike compiles document s) ↔
      l.NamesFields := by
  constructor
  · intro hreads
    obtain ⟨s, hs⟩ := l.exists_ofDocument?_plainRecord
    have halike := hreads l.plainRecord s hs
    have hid := halike.id.trans (l.stored?_plainRecord (by simp))
    have hleft := halike.left.trans (l.stored?_plainRecord (by simp))
    have hright := halike.right.trans (l.stored?_plainRecord (by simp))
    exact ⟨(not_mem_of_at?_plainRecord hid).1, (not_mem_of_at?_plainRecord hid).2,
      (not_mem_of_at?_plainRecord hleft).2, (not_mem_of_at?_plainRecord hright).2⟩
  · intro hl document s hs
    exact hl.readsAlike compiles hs

/-- A left bound under a key with a dot is decoded, but the path of the left bound does not lead to
it: it lies above zero, and the field does not. -/
theorem not_readsAlike_dotted_left :
    let l : Layout := { leftKey := "left.bound" }
    let document : Json := .object [("_digger", .object [
      ("diggerid", .string "a"), ("left.bound", .ofNat 2), ("right", .ofNat 5)])]
    let s : Skeleton := ⟨"a", none, .ofInt 2, .ofInt 5⟩
    let compiles (_ : String) : Bool := true
    Skeleton.ofDocument? l document = some s ∧
      (Skeleton.bound? (.ofNat 0)).any (·.lt s.left) = true ∧
      (Predicate.field l.leftField (.range .greater (.ofNat 0))).isMatch compiles document = false ∧
      ¬ l.ReadsAlike compiles document s := by
  intro l document s compiles
  have habove : (Skeleton.bound? (.ofNat 0)).any (·.lt s.left) = true := by decide +kernel
  have hmatch : (Predicate.field l.leftField (.range .greater (.ofNat 0))).isMatch compiles
      document = false := by
    decide +kernel
  refine ⟨by decide +kernel, habove, hmatch, fun halike => ?_⟩
  have hfield := halike.above (.ofNat 0)
  rw [hmatch, habove] at hfield
  cases hfield

end Layout

end ForestQuery
