import ForestQuery.Proofs.Descent.Intervals
import ForestQuery.Proofs.Select.Records

/-!
# One round of looking is enough

What is found inside an interval may have an interval of its own, but that one lies inside the
first, and so does whatever it surrounds. So when the records that were found are expanded along
with those they were found for, no document is found that was not found before. This holds of
intervals that overlap, that are empty or that are upside down, and of documents without skeletons,
for which the filter may hold as well.

## Key results

- `Skeleton.surrounds_of_contains`: what a contained interval surrounds is surrounded
- `exists_contains_of_mem_found`: what is found lies inside the interval of a record
- `filter?_intervals_closed`: the filter is the same with what was found as without
-/

namespace ForestQuery

/-- What a contained interval surrounds, the containing one surrounds too. -/
theorem Skeleton.surrounds_of_contains {l : Layout} {document : Json} {s d : Skeleton}
    (hcontains : s.contains d = true) (hsurrounds : d.surrounds l document = true) :
    s.surrounds l document = true := by
  rw [contains, Bool.and_eq_true] at hcontains
  rw [surrounds, Bool.and_eq_true, Option.any_eq_true, Option.any_eq_true] at hsurrounds ⊢
  obtain ⟨⟨left, hleft, habove⟩, right, hright, hbelow⟩ := hsurrounds
  exact ⟨⟨left, hleft, Binary64.lt_trans hcontains.1 habove⟩,
    right, hright, Binary64.lt_trans hbelow hcontains.2⟩

namespace Descent

/-- Whether a document is found when the descendants of records are looked for: there is a filter
for them, and it holds of the document. -/
def finds (descent : Descent) (compiles : String → Bool) (l : Layout) (records : List Record)
    (document : Json) : Bool :=
  (descent.filter? l records).any (·.isMatch compiles document)

/-- The records that are found among documents when the descendants of records are looked for. What
is found without a skeleton is no record. -/
def found (descent : Descent) (compiles : String → Bool) (l : Layout) (records : List Record)
    (documents : List Json) : List Record :=
  l.records (documents.filter (descent.finds compiles l records))

/-- If records have finite bounds, then so have they and what was found for them. -/
theorem isFinite_of_mem_append_found {descent : Descent} {compiles : String → Bool} {l : Layout}
    {records : List Record} (hfinite : ∀ r ∈ records, r.skeleton.IsFinite)
    {documents : List Json} :
    ∀ r ∈ records ++ descent.found compiles l records documents, r.skeleton.IsFinite := by
  rw [List.forall_mem_append]
  refine ⟨hfinite, fun d hd => ?_⟩
  exact Skeleton.isFinite_of_ofDocument? (mem_records.1 hd).2

section

variable {compiles : String → Bool} {l : Layout} (hl : l.NamesBounds) {primary : List Record}
  (hfinite : ∀ r ∈ primary, r.skeleton.IsFinite)

include hl hfinite

/-- What is found by intervals lies inside an interval that is not empty. -/
theorem exists_contains_of_mem_found {documents : List Json} {d : Record}
    (hd : d ∈ (intervals l).found compiles l primary documents) :
    ∃ r ∈ primary, r.skeleton.isWellFormed = true ∧ r.skeleton.contains d.skeleton = true := by
  obtain ⟨hmem, hskeleton⟩ := mem_records.1 hd
  have hfinds := (List.mem_filter.1 hmem).2
  obtain ⟨r, hr, hwell, hsurrounds⟩ :=
    (any_filter?_intervals compiles hl hfinite d.document).1 hfinds
  rw [Skeleton.surrounds_eq_contains hl hskeleton] at hsurrounds
  exact ⟨r, hr, hwell, hsurrounds⟩

/-- With what was found as without, the same documents are found. -/
theorem finds_append_found (documents : List Json) (document : Json) :
    (intervals l).finds compiles l (primary ++ (intervals l).found compiles l primary documents)
        document =
      (intervals l).finds compiles l primary document := by
  rw [Bool.eq_iff_iff, finds, finds,
    any_filter?_intervals compiles hl (isFinite_of_mem_append_found hfinite),
    any_filter?_intervals compiles hl hfinite]
  simp only [List.mem_append, or_and_right, exists_or]
  constructor
  · intro hsome
    obtain hprimary | ⟨d, hd, -, hsurrounds⟩ := hsome
    · exact hprimary
    · -- the interval of what was found lies inside one of the first
      obtain ⟨r, hr, hwell, hcontains⟩ := exists_contains_of_mem_found hl hfinite hd
      exact ⟨r, hr, hwell, Skeleton.surrounds_of_contains hcontains hsurrounds⟩
  · exact .inl

/-- With what was found as without, there are descendants to look for. -/
theorem filter?_append_found_eq_none_iff (documents : List Json) :
    filter? (intervals l) l (primary ++ (intervals l).found compiles l primary documents) = none ↔
      filter? (intervals l) l primary = none := by
  rw [filter?_intervals_eq_none_iff hl (isFinite_of_mem_append_found hfinite),
    filter?_intervals_eq_none_iff hl hfinite, List.forall_mem_append]
  constructor
  · exact And.left
  · intro hempty
    refine ⟨hempty, fun d hd => ?_⟩
    -- nothing is found if all intervals are empty
    obtain ⟨r, hr, hwell, -⟩ := exists_contains_of_mem_found hl hfinite hd
    rw [hempty r hr] at hwell
    exact nomatch hwell

end

/-- One round of looking is enough. Let decoded records be expanded by their intervals, whatever
these are, and let their descendants be found among any documents. Then the filter for the records
and what was found is missing exactly if the filter for the records is, and it holds of the same
documents, with skeletons or without. -/
theorem filter?_intervals_closed (compiles : String → Bool) {l : Layout} (hl : l.NamesBounds)
    {primary : List Record}
    (hdecoded : ∀ r ∈ primary, Skeleton.ofDocument? l r.document = some r.skeleton)
    (documents : List Json) :
    (filter? (intervals l) l (primary ++ (intervals l).found compiles l primary documents) = none ↔
      filter? (intervals l) l primary = none) ∧
    ∀ document,
      (intervals l).finds compiles l (primary ++ (intervals l).found compiles l primary documents)
          document =
        (intervals l).finds compiles l primary document := by
  have hfinite : ∀ r ∈ primary, r.skeleton.IsFinite := by
    intro r hr
    exact Skeleton.isFinite_of_ofDocument? (hdecoded r hr)
  constructor
  · exact filter?_append_found_eq_none_iff hl hfinite documents
  · exact finds_append_found hl hfinite documents

/-- Two intervals that overlap and one that is upside down. A document is found that has an interval
of its own, and one whose interval is upside down. A document without an id, which lies inside the
first of them, is found with them as without, and one beside all intervals is not. -/
theorem filter?_intervals_closed_upside_down :
    let stored (left right : Nat) : Json := .object [("_digger",
      .object [("diggerid", .string "a"), ("left", .ofNat left), ("right", .ofNat right)])]
    let primary := [stored 1 10, stored 5 20, stored 30 25].filterMap (Record.ofDocument? {})
    let documents := [stored 2 9, stored 12 7, stored 26 27]
    let unnamed : Json := .object [("_digger", .object [("left", .ofNat 3), ("right", .ofNat 4)])]
    let compiles (_ : String) : Bool := true
    Layout.NamesBounds {} ∧
    (∀ r ∈ primary, Skeleton.ofDocument? {} r.document = some r.skeleton) ∧
    ((intervals {}).found compiles {} primary documents).length = 2 ∧
    (intervals {}).finds compiles {} (primary ++ (intervals {}).found compiles {} primary documents)
      unnamed = true ∧
    (intervals {}).finds compiles {} (primary ++ (intervals {}).found compiles {} primary documents)
      (stored 26 27) = false := by
  intro stored primary documents unnamed compiles
  have hl : Layout.NamesBounds {} := ⟨by decide, by decide, by decide, rfl⟩
  have hdecoded : ∀ r ∈ primary, Skeleton.ofDocument? {} r.document = some r.skeleton := by
    decide +kernel
  obtain ⟨-, hsame⟩ := filter?_intervals_closed compiles hl hdecoded documents
  refine ⟨hl, hdecoded, by decide +kernel, ?_, ?_⟩
  · rw [hsame]
    decide +kernel
  · rw [hsame]
    decide +kernel

end Descent

end ForestQuery
