import ForestQuery.Descent
import ForestQuery.Predicate.Matching
import ForestQuery.Proofs.Descent.Order

/-!
# What looking by intervals finds

The filter for descendants by intervals has a group for every record whose interval is not empty. A
document with a skeleton satisfies it exactly if it lies strictly inside one of these intervals.
This needs the boundary fields to name the bounds: the keys have no dots in them, and nothing is set
before the paths.

## Key results

- `Json.at?_join`: a path of two keys without dots leads through both
- `Skeleton.exists_bounds`: the bounds of a decoded skeleton are stored numbers
- `isMatch_intervalNode`: the group of an interval holds of what the interval surrounds
- `filter?_intervals_eq_none_iff`, `any_filter?_intervals`: when there is a filter and what it holds
  of
- `filter?_intervals_interior`: the filter for decoded records, whatever their bounds
-/

namespace ForestQuery

/-- A path of two keys without dots leads through both. -/
theorem Json.at?_join {parent child : String} (hp : '.' ∉ parent.toList)
    (hc : '.' ∉ child.toList) (document : Json) :
    document.at? (Path.join parent child) =
      (document.member? parent).bind (·.member? child) := by
  rw [Json.at?, Path.keys_join hp hc, Json.descend?]
  congr 1
  funext stored
  rw [Json.descend?]
  cases stored.member? child <;> rfl

namespace Skeleton

/-- What is a bound is a stored number. -/
theorem bound?_eq_some_iff {stored : Json} {x : Binary64} :
    bound? stored = some x ↔ ∃ n, stored = .number n ∧ n.toBinary64 = x := by
  cases stored <;> simp [bound?]

/-- The bounds of a decoded skeleton are numbers that stand in the document. -/
theorem exists_bounds {l : Layout} {document : Json} {s : Skeleton}
    (h : ofDocument? l document = some s) :
    ∃ stored left right, document.member? l.skeletonKey = some stored ∧
      stored.member? l.leftKey = some (.number left) ∧ left.toBinary64 = s.left ∧
      stored.member? l.rightKey = some (.number right) ∧ right.toBinary64 = s.right := by
  simp only [ofDocument?, Option.bind_eq_bind, Option.bind_eq_some_iff] at h
  obtain ⟨stored, hstored, id, -, left, ⟨leftJson, hleft, hl⟩, right, ⟨rightJson, hright, hr⟩,
    hs⟩ := h
  obtain ⟨m, rfl, hm⟩ := bound?_eq_some_iff.1 hl
  obtain ⟨n, rfl, hn⟩ := bound?_eq_some_iff.1 hr
  obtain rfl := Option.some.inj hs
  exact ⟨stored, m, n, hstored, hleft, hm, hright, hn⟩

/-- Both bounds are finite. -/
def IsFinite (s : Skeleton) : Prop := ∃ x y, s.left = .finite x ∧ s.right = .finite y

/-- The bounds of a decoded skeleton are finite. -/
theorem isFinite_of_ofDocument? {l : Layout} {document : Json} {s : Skeleton}
    (h : ofDocument? l document = some s) : s.IsFinite := by
  obtain ⟨-, left, right, -, -, hleft, -, hright⟩ := exists_bounds h
  obtain ⟨x, hx⟩ := left.exists_finite
  obtain ⟨y, hy⟩ := right.exists_finite
  exact ⟨x, y, hleft ▸ hx, hright ▸ hy⟩

end Skeleton

/-- The boundary fields name the bounds: their keys have no dots, and nothing is set before them. -/
structure Layout.NamesBounds (l : Layout) : Prop where
  /-- The key of the skeleton has no dots. -/
  skeletonKey : '.' ∉ l.skeletonKey.toList
  /-- The key of the left bound has no dots. -/
  leftKey : '.' ∉ l.leftKey.toList
  /-- The key of the right bound has no dots. -/
  rightKey : '.' ∉ l.rightKey.toList
  /-- Nothing is set before the paths. -/
  treePrefix : l.treePrefix = ""

namespace Predicate

variable (compiles : String → Bool) (path : String) (n : Number) (document : Json)

/-- A field stands above a number exactly if it is a number that does. -/
theorem isMatch_greater :
    (field path (.range .greater (.number n))).isMatch compiles document =
      ((document.at? path).bind Skeleton.bound?).any n.toBinary64.lt := by
  rw [isMatch]
  cases document.at? path with
  | none => rfl
  | some value =>
    cases value with
    | number m => exact Binary64.any_greater_compare? ..
    | null | bool | string | array | object => rfl

/-- A field stands below a number exactly if it is a number that does. -/
theorem isMatch_less :
    (field path (.range .less (.number n))).isMatch compiles document =
      ((document.at? path).bind Skeleton.bound?).any (·.lt n.toBinary64) := by
  rw [isMatch]
  cases document.at? path with
  | none => rfl
  | some value =>
    cases value with
    | number m => exact Binary64.any_less_compare? ..
    | null | bool | string | array | object => rfl

end Predicate

namespace Skeleton

/-- Whether the numbers at the boundary fields of a document lie strictly inside the interval. A
document without such numbers lies inside no interval. -/
def surrounds (l : Layout) (s : Skeleton) (document : Json) : Bool :=
  ((document.at? l.leftField).bind bound?).any s.left.lt &&
    ((document.at? l.rightField).bind bound?).any (·.lt s.right)

/-- An interval surrounds a document with a skeleton exactly if it contains that skeleton. -/
theorem surrounds_eq_contains {l : Layout} (hl : l.NamesBounds) {document : Json} {d : Skeleton}
    (hd : ofDocument? l document = some d) (s : Skeleton) :
    s.surrounds l document = s.contains d := by
  obtain ⟨stored, left, right, hstored, hleft, hx, hright, hy⟩ := exists_bounds hd
  rw [surrounds, Layout.leftField, Layout.rightField, Json.at?_join hl.skeletonKey hl.leftKey,
    Json.at?_join hl.skeletonKey hl.rightKey, hstored, Option.bind_some, Option.bind_some, hleft,
    hright, contains, ← hx, ← hy]
  rfl

end Skeleton

namespace Descent

/-! ### One interval -/

/-- The terms of an interval keep its bounds as they are. -/
theorem predicate?_intervalNode {l : Layout} {s : Skeleton} {x y : Finite}
    (hleft : s.left = .finite x) (hright : s.right = .finite y) :
    (intervalNode l "" s).predicate? l = some (.all [
      .field l.leftField (.range .greater (.number (.float x))),
      .field l.rightField (.range .less (.number (.float y)))]) := by
  have hgreater : Operator.ofSymbol? ">" = some (.range .greater) := rfl
  have hless : Operator.ofSymbol? "<" = some (.range .less) := rfl
  simp [intervalNode, hleft, hright, TermNode.predicate?, TermNode.predicates, Term.predicate?,
    hgreater, hless, Layout.condition, Layout.bound, Layout.boundaryField, TermValue.ofBinary64,
    TermValue.toJson]

variable (compiles : String → Bool) {l : Layout} {document : Json} {d : Skeleton}

/-- The group of an interval holds of a document exactly if the interval surrounds it. -/
theorem isMatch_intervalNode {s : Skeleton} (hfinite : s.IsFinite) {p : Predicate}
    (hp : (intervalNode l "" s).predicate? l = some p) (document : Json) :
    p.isMatch compiles document = s.surrounds l document := by
  obtain ⟨x, y, hx, hy⟩ := hfinite
  rw [predicate?_intervalNode hx hy] at hp
  obtain rfl := Option.some.inj hp
  rw [Predicate.isMatch, Predicate.allMatch, Predicate.allMatch, Predicate.allMatch, Bool.and_true,
    Predicate.isMatch_greater, Predicate.isMatch_less, Skeleton.surrounds, hx, hy]
  rfl

/-! ### The filter -/

/-- There is a filter that holds exactly if any of its predicates does, also if there is only one,
and there is none if there are none. -/
theorem any_filterOf (ps : List Predicate) (document : Json) :
    (filterOf ps).any (·.isMatch compiles document) = Predicate.anyMatch compiles document ps := by
  unfold filterOf
  split
  · rfl
  · next p =>
    rw [Option.any_some, Predicate.isMatch, Predicate.allMatch, Predicate.allMatch,
      Predicate.anyMatch, Predicate.anyMatch, Bool.and_true, Bool.or_false]
  · rw [Option.any_some, Predicate.isMatch]

/-- The predicates of the filter by intervals, one for every interval that is not empty. -/
private theorem predicates_intervals (hl : l.NamesBounds) (records : List Record) :
    (Compilation.ofNodes l (intervals l l.treePrefix (records.map (·.skeleton)))).predicates =
      ((records.map (·.skeleton)).filter (·.isWellFormed)).filterMap
        fun s => (intervalNode l "" s).predicate? l := by
  rw [Compilation.ofNodes, intervals, hl.treePrefix, List.filterMap_map]
  rfl

/-- There is no filter by intervals exactly if all of them are empty. -/
theorem filter?_intervals_eq_none_iff (hl : l.NamesBounds) {records : List Record}
    (hfinite : ∀ r ∈ records, r.skeleton.IsFinite) :
    filter? (intervals l) l records = none ↔
      ∀ r ∈ records, r.skeleton.isWellFormed = false := by
  rw [filter?, filterOf_eq_none_iff, predicates_intervals hl, List.filterMap_eq_nil_iff]
  constructor
  · intro h r hr
    rw [Bool.eq_false_iff]
    intro hwell
    -- the interval has finite bounds, so its group compiles
    obtain ⟨x, y, hx, hy⟩ := hfinite r hr
    have hmem : r.skeleton ∈ (records.map (·.skeleton)).filter (·.isWellFormed) :=
      List.mem_filter.2 ⟨List.mem_map_of_mem hr, hwell⟩
    have hnone := h r.skeleton hmem
    rw [predicate?_intervalNode hx hy] at hnone
    exact nomatch hnone
  · intro h s hs
    obtain ⟨hs, hwell⟩ := List.mem_filter.1 hs
    obtain ⟨r, hr, rfl⟩ := List.mem_map.1 hs
    rw [h r hr] at hwell
    exact nomatch hwell

/-- There is a filter by intervals that holds of a document exactly if the document, with a skeleton
or without, is surrounded by an interval that is not empty. -/
theorem any_filter?_intervals (hl : l.NamesBounds) {records : List Record}
    (hfinite : ∀ r ∈ records, r.skeleton.IsFinite) (document : Json) :
    (filter? (intervals l) l records).any (·.isMatch compiles document) = true ↔
      ∃ r ∈ records, r.skeleton.isWellFormed = true ∧
        r.skeleton.surrounds l document = true := by
  rw [filter?, any_filterOf, predicates_intervals hl, Predicate.anyMatch_eq_any, List.any_eq_true]
  constructor
  · -- a predicate that holds is that of some interval
    intro hsome
    obtain ⟨p, hp, hmatch⟩ := hsome
    obtain ⟨s, hs, hp⟩ := List.mem_filterMap.1 hp
    obtain ⟨hs, hwell⟩ := List.mem_filter.1 hs
    obtain ⟨r, hr, rfl⟩ := List.mem_map.1 hs
    rw [isMatch_intervalNode compiles (hfinite r hr) hp] at hmatch
    exact ⟨r, hr, hwell, hmatch⟩
  · -- an interval that is not empty has a predicate in the filter
    intro hinside
    obtain ⟨r, hr, hwell, hsurrounds⟩ := hinside
    obtain ⟨x, y, hx, hy⟩ := hfinite r hr
    have hp := predicate?_intervalNode (l := l) hx hy
    have hmem : r.skeleton ∈ (records.map (·.skeleton)).filter (·.isWellFormed) :=
      List.mem_filter.2 ⟨List.mem_map_of_mem hr, hwell⟩
    refine ⟨_, List.mem_filterMap.2 ⟨_, hmem, hp⟩, ?_⟩
    rw [isMatch_intervalNode compiles (hfinite r hr) hp, hsurrounds]

/-- The filter by intervals holds of what lies strictly inside an interval that is not empty. -/
theorem isMatch_filter?_intervals (hl : l.NamesBounds)
    (hd : Skeleton.ofDocument? l document = some d) {records : List Record}
    (hfinite : ∀ r ∈ records, r.skeleton.IsFinite) {filter : Predicate}
    (h : filter? (intervals l) l records = some filter) :
    filter.isMatch compiles document = true ↔
      ∃ r ∈ records, r.skeleton.isWellFormed = true ∧ r.skeleton.contains d = true := by
  have hany := any_filter?_intervals compiles hl hfinite document
  rw [h, Option.any_some] at hany
  rw [hany]
  simp only [Skeleton.surrounds_eq_contains hl hd]

/-- There is no filter for the descendants of decoded records exactly if no interval has its left
bound below its right one. Otherwise the filter holds of a document with a skeleton exactly if that
skeleton lies strictly inside the interval of some record, intervals that are empty or upside down
left aside. -/
theorem filter?_intervals_interior (hl : l.NamesBounds) {primary : List Record}
    (hdecoded : ∀ r ∈ primary, Skeleton.ofDocument? l r.document = some r.skeleton) :
    (filter? (intervals l) l primary = none ↔
      ∀ r ∈ primary, r.skeleton.left.lt r.skeleton.right = false) ∧
    ∀ filter, filter? (intervals l) l primary = some filter →
      ∀ document d, Skeleton.ofDocument? l document = some d →
        (filter.isMatch compiles document = true ↔
          ∃ r ∈ primary, r.skeleton.left.lt r.skeleton.right = true ∧
            r.skeleton.contains d = true) := by
  -- what was decoded has finite bounds, so the terms of its interval keep them
  have hfinite : ∀ r ∈ primary, r.skeleton.IsFinite := by
    intro r hr
    exact Skeleton.isFinite_of_ofDocument? (hdecoded r hr)
  constructor
  · exact filter?_intervals_eq_none_iff hl hfinite
  · intro filter hfilter document d hd
    exact isMatch_filter?_intervals compiles hl hd hfinite hfilter

/-- Two intervals that overlap, one of them from two and a half, and one that is upside down. A
document inside the second only is found, and one that only the last contains is not. -/
theorem filter?_intervals_interior_overlapping :
    let half : Json := .number (.float ⟨false, 5 * unitsPerOne / 2, by decide +kernel⟩)
    let stored (left right : Json) : Json := .object [
      ("_digger", .object [("diggerid", .string "a"), ("left", left), ("right", right)])]
    let documents := [stored (.ofNat 1) (.ofNat 4), stored half (.ofNat 8),
      stored (.ofNat 20) (.ofNat 10)]
    let primary := documents.filterMap (Record.ofDocument? {})
    let compiles (_ : String) : Bool := true
    Layout.NamesBounds {} ∧
    (∀ r ∈ primary, Skeleton.ofDocument? {} r.document = some r.skeleton) ∧
    ∃ filter, filter? (intervals {}) {} primary = some filter ∧
      filter.isMatch compiles (stored (.ofNat 3) (.ofNat 5)) = true ∧
      filter.isMatch compiles (stored (.ofNat 25) (.ofNat 9)) = false := by
  intro half stored documents primary compiles
  have hl : Layout.NamesBounds {} := ⟨by decide, by decide, by decide, rfl⟩
  have hdecoded : ∀ r ∈ primary, Skeleton.ofDocument? {} r.document = some r.skeleton := by
    decide +kernel
  obtain ⟨hnone, hmatch⟩ := filter?_intervals_interior compiles hl hdecoded
  have hsome : filter? (intervals {}) {} primary ≠ none := by
    rw [ne_eq, hnone]
    decide +kernel
  obtain ⟨filter, hfilter⟩ := Option.ne_none_iff_exists'.1 hsome
  refine ⟨hl, hdecoded, filter, hfilter, ?_, ?_⟩
  · rw [hmatch filter hfilter _ _ rfl]
    decide +kernel
  · rw [Bool.eq_false_iff, ne_eq, hmatch filter hfilter _ _ rfl]
    decide +kernel

end Descent

end ForestQuery
