import ForestQuery.Predicate.Matching
import ForestQuery.Proofs.Descent.Order
import ForestQuery.Proofs.Predicate.Bounds
import ForestQuery.Term.Wire

/-!
# Equality and order of stored values

A stored value equals the value of a condition, a number or a text, if it compares to it as equal:
numbers by their places, texts by their characters. An inclusive relation is therefore the strict
one or equality, as far as values are compared. Conditions on fields differ in one case: equality
looks into a sequence for an equal item, and a relation does not.

## Key results

- `Json.compare?_number_number`, `Json.equalsValue_number_number`: numbers compare by their places
- `Json.compare?_eq_some_eq_iff`: a value compares as equal exactly if it equals
- `Condition.holds_inclusive_iff`, `Condition.holds_equals_iff`: what inclusive relations and
  equality hold of
- `Predicate.isMatch_inclusive_iff`: an inclusive relation is the strict one or equality, unless an
  item of a sequence equals the bound
-/

namespace ForestQuery

/-! ### Values -/

namespace Number

/-- The place of a number on the line of the binary format. -/
def place (n : Number) : Int := n.toBinary64.place?.getD 0

/-- The place of a number that is finite in the binary format is the one it has there. -/
theorem place_eq {n : Number} {x : Finite} (hx : n.toBinary64 = .finite x) : n.place = x.place := by
  rw [place, hx]
  rfl

/-- A number has a place. -/
theorem place?_toBinary64 (n : Number) : n.toBinary64.place? = some n.place := by
  obtain ⟨x, hx⟩ := n.exists_finite
  rw [place_eq hx, hx]
  rfl

end Number

namespace Json

/-- Numbers compare by their places. -/
theorem compare?_number_number (m n : Number) :
    (number m).compare? (number n) = some (compare m.place n.place) := by
  rw [compare?, Binary64.compare?, m.place?_toBinary64, n.place?_toBinary64]

/-- Numbers are equal if they have the same place. -/
theorem equalsValue_number_number (m n : Number) :
    (number m).equalsValue (number n) = true ↔ m.place = n.place := by
  rw [equalsValue, Binary64.compare?, m.place?_toBinary64, n.place?_toBinary64]
  simp

theorem compare?_string_string_eq_some_eq_iff (s t : String) :
    (string s).compare? (string t) = some .eq ↔ s = t := by
  rw [compare?, Option.some_inj, compareOfLessAndEq]
  constructor
  · intro h
    split at h
    · exact absurd h (by decide)
    · split at h
      · assumption
      · exact absurd h (by decide)
  · intro heq
    subst heq
    rw [if_neg (String.lt_irrefl s), if_pos rfl]

/-- A sequence equals no number and no text. -/
theorem equalsValue_array (items : List Json) (value : TermValue) :
    (array items).equalsValue value.toJson = false := by
  cases value <;> rfl

/-- A value compares to a number or a text as equal exactly if it equals it. -/
theorem compare?_eq_some_eq_iff (stored : Json) (value : TermValue) :
    stored.compare? value.toJson = some .eq ↔ stored.equalsValue value.toJson = true := by
  cases value with
  | number n =>
    cases stored with
    | number m =>
      rw [TermValue.toJson, equalsValue_number_number, compare?_number_number, Option.some_inj,
        Int.compare_eq_eq]
    | null | bool | string | array | object => simp [TermValue.toJson, compare?, equalsValue, same]
  | text t =>
    cases stored with
    | string s =>
      rw [TermValue.toJson, compare?_string_string_eq_some_eq_iff]
      simp [equalsValue, same]
    | null | bool | number | array | object => simp [TermValue.toJson, compare?, equalsValue, same]

end Json

/-! ### Relations -/

namespace Relation

/-- The relation that also holds of what is equal. -/
def inclusive : Relation → Relation
  | greater | greaterOrEqual => greaterOrEqual
  | less | lessOrEqual => lessOrEqual

theorem admits_inclusive_iff (relation : Relation) (o : Ordering) :
    relation.inclusive.admits o = true ↔ relation.admits o = true ∨ o = .eq := by
  cases relation <;> cases o <;> decide

end Relation

/-! ### Fields -/

namespace Condition

variable (compiles : String → Bool)

/-- A relation holds of a field with a value that compares to the bound as the relation admits. -/
theorem holds_range_iff {relation : Relation} {bound : Json} {actual : Option Json} :
    (range relation bound).holds compiles actual = true ↔
      ∃ stored o, actual = some stored ∧ stored.compare? bound = some o ∧
        relation.admits o = true := by
  rw [holds, Option.any_eq_true]
  constructor
  · intro h
    obtain ⟨o, ho, hadmits⟩ := h
    obtain ⟨stored, hstored, hcompare⟩ := Option.bind_eq_some_iff.1 ho
    exact ⟨stored, o, hstored, hcompare, hadmits⟩
  · intro h
    obtain ⟨stored, o, hstored, hcompare, hadmits⟩ := h
    exact ⟨o, Option.bind_eq_some_iff.2 ⟨stored, hstored, hcompare⟩, hadmits⟩

/-- No relation holds of a sequence. -/
theorem holds_range_array (relation : Relation) (bound : Json) (items : List Json) :
    (range relation bound).holds compiles (some (.array items)) = false := rfl

/-- An inclusive relation holds of a field if the relation does, or its value equals the bound. -/
theorem holds_inclusive_iff (relation : Relation) (value : TermValue) (actual : Option Json) :
    (range relation.inclusive value.toJson).holds compiles actual = true ↔
      (range relation value.toJson).holds compiles actual = true ∨
        ∃ stored, actual = some stored ∧ stored.equalsValue value.toJson = true := by
  simp only [holds_range_iff, Relation.admits_inclusive_iff, ← Json.compare?_eq_some_eq_iff]
  constructor
  · intro h
    obtain ⟨stored, o, hstored, hcompare, hadmits | rfl⟩ := h
    · exact .inl ⟨stored, o, hstored, hcompare, hadmits⟩
    · exact .inr ⟨stored, hstored, hcompare⟩
  · intro h
    obtain ⟨stored, o, hstored, hcompare, hadmits⟩ | ⟨stored, hstored, hcompare⟩ := h
    · exact ⟨stored, o, hstored, hcompare, .inl hadmits⟩
    · exact ⟨stored, .eq, hstored, hcompare, .inr rfl⟩

/-- A field equals a number or a text if its value does, or an item of it. -/
theorem holds_equals_iff (value : TermValue) (actual : Option Json) :
    (equals value.toJson).holds compiles actual = true ↔
      ∃ stored, actual = some stored ∧
        (stored.equalsValue value.toJson = true ∨
          ∃ items, stored = .array items ∧
            ∃ item ∈ items, item.equalsValue value.toJson = true) := by
  rw [holds]
  cases actual with
  | none => cases value <;> simp [equalsField, TermValue.toJson]
  | some stored =>
    cases stored with
    | array items =>
      have hitems : equalsField (some (.array items)) value.toJson =
          items.any (·.equalsValue value.toJson) := by
        cases value <;> rfl
      simp [hitems, Json.equalsValue_array]
    | null | bool | number | string | object => simp [equalsField]

end Condition

namespace Predicate

/-- An inclusive relation to a number or a text matches a document exactly if the relation does or
the value at the path equals the bound. This is the relation or the condition of equality, unless
the path leads to a sequence with an item that equals the bound. -/
theorem isMatch_inclusive_iff (compiles : String → Bool) (path : String) (relation : Relation)
    (value : TermValue) (document : Json) :
    ((field path (.range relation.inclusive value.toJson)).isMatch compiles document = true ↔
      (field path (.range relation value.toJson)).isMatch compiles document = true ∨
        ∃ stored, document.at? path = some stored ∧ stored.equalsValue value.toJson = true) ∧
    (((field path (.range relation.inclusive value.toJson)).isMatch compiles document = true ↔
      (field path (.range relation value.toJson)).isMatch compiles document = true ∨
        (field path (.equals value.toJson)).isMatch compiles document = true) ↔
      ∀ items, document.at? path = some (.array items) →
        ∀ item ∈ items, item.equalsValue value.toJson = false) := by
  have hinclusive := Condition.holds_inclusive_iff compiles relation value (document.at? path)
  have hequals := Condition.holds_equals_iff compiles value (document.at? path)
  simp only [isMatch]
  refine ⟨hinclusive, ?_⟩
  constructor
  · intro hlaw items hitems item hitem
    rw [← Bool.not_eq_true]
    intro hequal
    -- equality finds the item, so the inclusive relation would have to hold of the sequence
    have hsequence := hlaw.2 (.inr (hequals.2 ⟨_, hitems, .inr ⟨items, rfl, item, hitem, hequal⟩⟩))
    rw [hitems, Condition.holds_range_array] at hsequence
    exact absurd hsequence (by decide)
  · intro hitems
    rw [hinclusive, hequals]
    apply or_congr_right
    constructor
    · intro hstored
      obtain ⟨stored, hstored, hequal⟩ := hstored
      exact ⟨stored, hstored, .inl hequal⟩
    · intro hstored
      obtain ⟨stored, hstored, hequal | ⟨items, rfl, item, hitem, hequal⟩⟩ := hstored
      · exact ⟨stored, hstored, hequal⟩
      · exact absurd hequal (by simp [hitems items hstored item hitem])

/-- A sequence with the bound as its only item: equality matches, and the inclusive relation does
not. -/
theorem not_isMatch_inclusive_sequence :
    let bound : TermValue := .number (.int 5 (by decide))
    let document : Json := .object [("sizes", .array [.ofNat 5])]
    let compiles (_ : String) : Bool := true
    ¬ ((field "sizes" (.range Relation.greater.inclusive bound.toJson)).isMatch compiles
        document = true ↔
      (field "sizes" (.range .greater bound.toJson)).isMatch compiles document = true ∨
        (field "sizes" (.equals bound.toJson)).isMatch compiles document = true) := by
  decide +kernel

end Predicate

end ForestQuery
