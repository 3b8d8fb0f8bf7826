import ForestQuery.Predicate.Matching
import ForestQuery.Predicate.OfTerm
import ForestQuery.Proofs.Descent.Order
import ForestQuery.Proofs.Predicate.Lookup

/-!
# What range operators ask

A range operator compares a stored number with the number that the text of its value opens with. If
the text opens with no number, the bound is null and nothing compares to it. If it opens with an
infinity, the bound is the largest finite number of its sign, so that only that number itself does
not compare as it would to an infinity. All this holds of every field but the one boundary field
whose bound is taken as it is.

## Key results

- `Relation.admits_compare_iff`: a relation admits the comparisons that it holds of
- `Finite.holds_infinite_iff`, `Finite.holds_largest_iff`: the infinity of a sign and the largest
  number, which stands for it, compare alike to every number but that one
- `Term.predicate?_range`: what a term with a range operator means
- `Predicate.isMatch_range_iff`: a condition with a finite bound holds of the stored numbers that
  stand in the relation to it
- `Term.isMatch_numeric_iff`: what a term with a finite bound, or without one, holds of
- `Term.isMatch_infinite_bound`: what a term with an infinite bound holds of
-/

namespace ForestQuery

/-! ### Relations and the order -/

namespace Relation

/-- Whether a place stands in the relation to another one. -/
def Holds : Relation → Int → Int → Prop
  | greater, a, b => b < a
  | greaterOrEqual, a, b => b ≤ a
  | less, a, b => a < b
  | lessOrEqual, a, b => a ≤ b

theorem admits_compare_iff (relation : Relation) (a b : Int) :
    relation.admits (compare a b) = true ↔ relation.Holds a b := by
  cases relation with
  | greater => simp [admits, Holds, Int.compare_eq_gt]
  | greaterOrEqual => simp [admits, Holds, Int.compare_eq_lt]
  | less => simp [admits, Holds, Int.compare_eq_lt]
  | lessOrEqual => simp [admits, Holds, Int.compare_eq_gt]

instance (relation : Relation) (a b : Int) : Decidable (relation.Holds a b) :=
  decidable_of_iff _ (relation.admits_compare_iff a b)

/-- Whether every number stands in the relation to the infinity of a sign, see
`Finite.holds_infinite_iff`. -/
def reaches (relation : Relation) (negative : Bool) : Bool :=
  match relation with
  | greater | greaterOrEqual => negative
  | less | lessOrEqual => !negative

/-- Whether a number stands in the relation to itself. -/
def isInclusive : Relation → Bool
  | greaterOrEqual | lessOrEqual => true
  | greater | less => false

theorem holds_self_iff (relation : Relation) (a : Int) :
    relation.Holds a a ↔ relation.isInclusive = true := by
  cases relation <;> simp [Holds, isInclusive]

end Relation

namespace Finite

theorem maxUnits_pos : 0 < maxUnits := by
  decide +kernel

theorem negative_largest (negative : Bool) : (largest negative).negative = negative := rfl

theorem units_largest (negative : Bool) : (largest negative).units = maxUnits := by
  rw [largest]

theorem place_largest (negative : Bool) :
    (largest negative).place = if negative then -(maxUnits : Int) else maxUnits := by
  rw [place, negative_largest, units_largest]

/-- No place lies beyond those of the largest numbers. -/
theorem place_bounds (x : Finite) : -(maxUnits : Int) ≤ x.place ∧ x.place ≤ maxUnits := by
  have hunits : x.units ≤ maxUnits := x.representable.2
  rw [place]
  -- the bound is a number of six hundred digits, which nothing below is to compute
  generalize maxUnits = m at *
  split <;> omega

/-- Every number compares to the infinity of a sign in the same way. -/
theorem holds_infinite_iff (x : Finite) (relation : Relation) {negative : Bool} {place : Int}
    (hplace : (Binary64.infinite negative).place? = some place) :
    relation.Holds x.place place ↔ relation.reaches negative = true := by
  have hbounds := x.place_bounds
  have hbeyond : (maxUnits : Int) < Binary64.infinitePlace := by decide +kernel
  cases negative with
  | true =>
    obtain rfl := Option.some.inj hplace
    generalize Binary64.infinitePlace = infinity at *
    cases relation <;> simp [Relation.Holds, Relation.reaches] <;> omega
  | false =>
    obtain rfl := Option.some.inj hplace
    generalize Binary64.infinitePlace = infinity at *
    cases relation <;> simp [Relation.Holds, Relation.reaches] <;> omega

/-- Only the largest number of a sign stands at its place. -/
theorem place_eq_largest_iff {x : Finite} {negative : Bool} :
    x.place = (largest negative).place ↔ x = largest negative := by
  constructor
  · intro hplace
    have hpos := maxUnits_pos
    obtain ⟨sign, units, hrepresentable⟩ := x
    have hsame : sign = negative ∧ units = maxUnits := by
      rw [place_largest, place] at hplace
      generalize maxUnits = m at *
      cases sign <;> cases negative <;> simp at hplace ⊢ <;> omega
    rw [largest, mk.injEq]
    exact hsame
  · intro heq
    rw [heq]

/-- A number that is not the largest of a sign compares to it as to the infinity of that sign. -/
theorem holds_largest_iff {x : Finite} {negative : Bool} (hne : x ≠ largest negative)
    (relation : Relation) {place : Int}
    (hplace : (Binary64.infinite negative).place? = some place) :
    relation.Holds x.place (largest negative).place ↔ relation.Holds x.place place := by
  -- against the infinity the sign decides; `x` lies on the same side of the largest number
  rw [x.holds_infinite_iff relation hplace]
  have hbounds := x.place_bounds
  rw [ne_eq, ← place_eq_largest_iff, place_largest] at hne
  rw [place_largest]
  generalize maxUnits = m at *
  cases relation <;> cases negative <;> simp [Relation.Holds, Relation.reaches] at hne ⊢ <;> omega

end Finite

/-! ### Conditions -/

namespace Predicate

variable {compiles : String → Bool} {path : String} {relation : Relation} {document : Json}

/-- A condition with a finite bound holds exactly if a number is stored at its path that stands in
the relation to the bound. -/
theorem isMatch_range_iff {b : Finite} :
    (field path (.range relation (.number (.float b)))).isMatch compiles document = true ↔
      ∃ n x, document.at? path = some (.number n) ∧ n.toBinary64 = .finite x ∧
        relation.Holds x.place b.place := by
  rw [isMatch, Condition.holds]
  constructor
  · intro hmatch
    obtain ⟨o, ho, hadmits⟩ := (Option.any_eq_true ..).1 hmatch
    obtain ⟨value, hvalue, hcompare⟩ := Option.bind_eq_some_iff.1 ho
    cases value with
    | number n =>
      obtain ⟨x, hx⟩ := n.exists_finite
      rw [Json.compare?, hx] at hcompare
      obtain rfl := Option.some.inj hcompare
      exact ⟨n, x, hvalue, hx, (relation.admits_compare_iff _ _).1 hadmits⟩
    | null | bool | string | array | object => cases hcompare
  · intro hstored
    obtain ⟨n, x, hvalue, hx, hholds⟩ := hstored
    rw [hvalue, Option.bind_some, Json.compare?, hx]
    exact (relation.admits_compare_iff _ _).2 hholds

/-- Of a document that stores a number, such a condition holds exactly if that number stands in the
relation to the bound. -/
theorem isMatch_range_stored {b x : Finite} {n : Number}
    (hstored : document.at? path = some (.number n)) (hx : n.toBinary64 = .finite x) :
    (field path (.range relation (.number (.float b)))).isMatch compiles document = true ↔
      relation.Holds x.place b.place := by
  rw [isMatch_range_iff, hstored]
  constructor
  · intro hmatch
    obtain ⟨n', x', hn, hx', hholds⟩ := hmatch
    obtain rfl := Json.number.inj (Option.some.inj hn)
    obtain rfl := Binary64.finite.inj (hx.symm.trans hx')
    exact hholds
  · intro hholds
    exact ⟨n, x, rfl, hx, hholds⟩

theorem isMatch_range_null :
    (field path (.range relation .null)).isMatch compiles document = false := by
  have hnone : (document.at? path).bind (·.compare? .null) = none := by
    rw [Option.bind_eq_none_iff]
    intro value _
    cases value <;> rfl
  rw [isMatch, Condition.holds, hnone]
  rfl

end Predicate

/-! ### Terms -/

namespace TermValue

theorem numeric_of_finite {value : TermValue} {b : Finite}
    (h : Decimal.leadingNumber? value.display = some (.finite b)) :
    value.numeric = .number (.float b) := by
  rw [numeric, h]
  rfl

theorem numeric_of_infinite {value : TermValue} {negative : Bool}
    (h : Decimal.leadingNumber? value.display = some (.infinite negative)) :
    value.numeric = .number (.float (.largest negative)) := by
  rw [numeric, h]
  rfl

theorem numeric_of_none {value : TermValue} (h : Decimal.leadingNumber? value.display = none) :
    value.numeric = .null := by
  rw [numeric, h]
  rfl

end TermValue

namespace Term

variable {l : Layout} {term : Term} {relation : Relation}

/-- A term with a range operator asks its field for the numeric form of its value, but for the
boundary field of the operator. -/
theorem predicate?_range (hop : term.operator = (Operator.range relation).symbol)
    (hfield : term.field ≠ l.boundaryField relation) :
    term.predicate? l = some (.field term.field (.range relation term.value.numeric)) := by
  rw [predicate?, hop, Operator.ofSymbol?_symbol, Option.map_some, Layout.condition, Layout.bound,
    if_neg hfield]

/-- A term with a range operator, but for its boundary field, whose value opens with a finite number
or with none, has a predicate that holds of a document exactly if the path of the field leads
through objects to a number, the value opens with a number, and the first stands in the relation to
the second. -/
theorem isMatch_numeric_iff (compiles : String → Bool)
    (hop : term.operator = (Operator.range relation).symbol)
    (hfield : term.field ≠ l.boundaryField relation)
    (hvalue : ∀ b, Decimal.leadingNumber? term.value.display = some b → ∃ x, b = .finite x)
    (document : Json) :
    ∃ p, term.predicate? l = some p ∧
      (p.isMatch compiles document = true ↔
        ∃ keys n x b, Path.Names term.field keys ∧ document.LeadsTo keys (.number n) ∧
          n.toBinary64 = .finite x ∧
          Decimal.leadingNumber? term.value.display = some (.finite b) ∧
          relation.Holds x.place b.place) := by
  refine ⟨_, predicate?_range hop hfield, ?_⟩
  cases hb : Decimal.leadingNumber? term.value.display with
  | none =>
    rw [TermValue.numeric_of_none hb, Predicate.isMatch_range_null]
    simp
  | some b =>
    obtain ⟨b, rfl⟩ := hvalue b hb
    rw [TermValue.numeric_of_finite hb, Predicate.isMatch_range_iff]
    simp only [Json.at?_eq_some_iff]
    constructor
    · intro hstored
      obtain ⟨n, x, ⟨keys, hnames, hleads⟩, hx, hholds⟩ := hstored
      exact ⟨keys, n, x, b, hnames, hleads, hx, rfl, hholds⟩
    · intro hstored
      obtain ⟨keys, n, x, b', hnames, hleads, hx, hsame, hholds⟩ := hstored
      obtain rfl := Binary64.finite.inj (Option.some.inj hsame)
      exact ⟨n, x, ⟨keys, hnames, hleads⟩, hx, hholds⟩

/-- A price inside a record, against a value with a unit. -/
theorem isMatch_numeric_nested :
    let term : Term := ⟨"stock.price", ">=", .text "45.5 EUR"⟩
    let document : Json := .object [("stock", .object [("price", .ofNat 46)])]
    let compiles (_ : String) : Bool := true
    ∃ p, term.predicate? {} = some p ∧ p.isMatch compiles document = true := by
  intro term document compiles
  have hop : term.operator = (Operator.range .greaterOrEqual).symbol := rfl
  have hfield : term.field ≠ ({} : Layout).boundaryField .greaterOrEqual := by decide +kernel
  let b : Finite := ⟨false, 91 * Nat.pow 2 1073, by decide +kernel⟩
  have hvalue : Decimal.leadingNumber? term.value.display = some (.finite b) := by decide +kernel
  have hfinite : ∀ c, Decimal.leadingNumber? term.value.display = some c → ∃ x, c = .finite x := by
    intro c hc
    exact ⟨b, Option.some.inj (hc.symm.trans hvalue)⟩
  obtain ⟨p, hp, hmatch⟩ := isMatch_numeric_iff compiles hop hfield hfinite document
  have hnames : Path.Names term.field ["stock", "price"] := Path.names_iff.2 (by decide +kernel)
  have hleads : document.LeadsTo ["stock", "price"] (.ofNat 46) :=
    .member rfl (.member rfl (.here _))
  exact ⟨p, hp, hmatch.2 ⟨_, _, ⟨false, 46 * Nat.pow 2 1074, by decide +kernel⟩, b, hnames, hleads,
    by decide +kernel, hvalue, by decide +kernel⟩⟩

/-- A term with a range operator, but for its boundary field, whose value opens with an infinity,
has a predicate that compares every stored number as to that infinity, but for the largest finite
number of its sign, which compares as to itself. -/
theorem isMatch_infinite_bound (compiles : String → Bool) {negative : Bool}
    (hop : term.operator = (Operator.range relation).symbol)
    (hfield : term.field ≠ l.boundaryField relation)
    (hvalue : Decimal.leadingNumber? term.value.display = some (.infinite negative))
    {document : Json} {keys : List String} {n : Number} (hnames : Path.Names term.field keys)
    (hleads : document.LeadsTo keys (.number n)) :
    ∃ p, term.predicate? l = some p ∧
      p.isMatch compiles document =
        if n.toBinary64 = .finite (.largest negative) then relation.isInclusive
        else relation.reaches negative := by
  refine ⟨_, predicate?_range hop hfield, ?_⟩
  have hstored : document.at? term.field = some (.number n) :=
    Json.at?_eq_some_iff.2 ⟨keys, hnames, hleads⟩
  obtain ⟨x, hx⟩ := n.exists_finite
  -- the bound that is asked for is the largest number, and not the infinity
  have hmatch : (Predicate.field term.field (.range relation term.value.numeric)).isMatch compiles
      document = true ↔ relation.Holds x.place (Finite.largest negative).place := by
    rw [TermValue.numeric_of_infinite hvalue]
    exact Predicate.isMatch_range_stored hstored hx
  rw [hx, Bool.eq_iff_iff, hmatch]
  split
  · next hlargest =>
    rw [Binary64.finite.inj hlargest]
    exact relation.holds_self_iff _
  · next hother =>
    have hne : x ≠ .largest negative := mt (congrArg Binary64.finite) hother
    obtain ⟨place, hplace⟩ : ∃ place, (Binary64.infinite negative).place? = some place := by
      cases negative <;> exact ⟨_, rfl⟩
    rw [Finite.holds_largest_iff hne relation hplace, x.holds_infinite_iff relation hplace]

/-- A value beyond the range of the format: an ordinary price lies below it, the largest number does
not. -/
theorem isMatch_infinite_bound_overflow :
    let term : Term := ⟨"price", "<", .text "1e999"⟩
    let compiles (_ : String) : Bool := true
    ∃ p, term.predicate? {} = some p ∧
      p.isMatch compiles (.object [("price", .ofNat 46)]) = true ∧
      p.isMatch compiles (.object [("price", .number (.float (.largest false)))]) = false := by
  intro term compiles
  have hop : term.operator = (Operator.range .less).symbol := rfl
  have hfield : term.field ≠ ({} : Layout).boundaryField .less := by decide +kernel
  have hvalue : Decimal.leadingNumber? term.value.display = some (.infinite false) := by
    decide +kernel
  have hnames : Path.Names term.field ["price"] := Path.names_iff.2 (by decide +kernel)
  have hleads (n : Number) : Json.LeadsTo (.object [("price", .number n)]) ["price"] (.number n) :=
    .member rfl (.here _)
  have hbound (n : Number) :=
    isMatch_infinite_bound compiles hop hfield hvalue hnames (hleads n)
  obtain ⟨p, hp, hordinary⟩ := hbound (.int 46 (by decide))
  obtain ⟨p', hp', hlargest⟩ := hbound (.float (.largest false))
  obtain rfl := Option.some.inj (hp.symm.trans hp')
  exact ⟨p, hp, hordinary.trans (by decide +kernel), hlargest.trans (by decide +kernel)⟩

/-- The word for the infinity: the largest number does not lie below it. -/
theorem not_isMatch_infinite_bound_largest :
    let term : Term := ⟨"price", "<", .text "Infinity"⟩
    let document : Json := .object [("price", .number (.float (.largest false)))]
    let compiles (_ : String) : Bool := true
    Decimal.leadingNumber? term.value.display = some (.infinite false) ∧
      ¬ ∀ p, term.predicate? {} = some p → p.isMatch compiles document = true := by
  intro term document compiles
  refine ⟨by decide +kernel, ?_⟩
  intro hmatches
  exact absurd (hmatches _ rfl) (by decide +kernel)

end Term

end ForestQuery
