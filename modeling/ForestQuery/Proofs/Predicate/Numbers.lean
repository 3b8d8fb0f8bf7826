import ForestQuery.Proofs.Decimal.Printed
import ForestQuery.Proofs.Predicate.Bounds

/-!
# Numbers as values of range operators

A number that is the value of a term reaches a range condition in one of two ways: as it is on the
boundary field of the operator, or through its text, which is read as a number again, on every
other field. Both conditions hold of the same documents, since the text is read to its end and as
the number in the binary format, and that is what comparison takes a number for. So it cannot be
seen which fields a layout makes boundary fields.

A number of the binary format is handed in as such a value if it is finite. An infinity is handed in
as a text that opens with no number, so that the condition holds of no document.

## Key results

- `TermValue.numeric_number`: the numeric form of a number is the number in the binary format
- `Condition.holds_range_number`: a number and its numeric form bound the same fields
- `Term.predicate?_number_cases`: the two conditions that a layout chooses from
- `Term.isMatch_ofBinary64`: what a term with a number of the binary format holds of
-/

namespace ForestQuery

/-! ### A number and its numeric form -/

/-- Comparison takes a number for its place in the binary format. -/
theorem Json.compare?_number {n : Number} {x : Finite} (hx : n.toBinary64 = .finite x)
    (value : Json) : value.compare? (.number n) = value.compare? (.number (.float x)) := by
  cases value with
  | number m =>
    show m.toBinary64.compare? n.toBinary64 = m.toBinary64.compare? (.finite x)
    rw [hx]
  | null | bool | string | array | object => rfl

namespace TermValue

/-- The numeric form of a number is the number in the binary format. -/
theorem numeric_number {n : Number} {x : Finite} (hx : n.toBinary64 = .finite x) :
    (number n).numeric = .number (.float x) := by
  apply numeric_of_finite
  show Decimal.leadingNumber? n.text = some (.finite x)
  rw [Decimal.leadingNumber?_text, hx]

/-- The text of an infinity opens with no number. -/
theorem numeric_ofBinary64_of_ne_finite {x : Binary64} (hx : ∀ b, x ≠ .finite b) :
    (ofBinary64 x).numeric = .null := by
  apply numeric_of_none
  match x with
  | .finite b => exact absurd rfl (hx b)
  | .infinite true => decide +kernel
  | .infinite false => decide +kernel
  | .undefined => decide +kernel

end TermValue

/-- A number and its numeric form bound the same fields. -/
theorem Condition.holds_range_number (compiles : String → Bool) (actual : Option Json)
    (relation : Relation) (n : Number) :
    (range relation (TermValue.number n).numeric).holds compiles actual =
      (range relation (TermValue.number n).toJson).holds compiles actual := by
  obtain ⟨x, hx⟩ := n.exists_finite
  have hcompare : (·.compare? (.number (.float x))) = (Json.compare? · (.number n)) := by
    funext value
    exact (Json.compare?_number hx value).symm
  rw [TermValue.numeric_number hx]
  simp only [holds, TermValue.toJson, hcompare]

namespace Term

/-- With a number as its value, a term with a range operator means one of two conditions, whichever
field it is on. -/
theorem predicate?_number_cases (l : Layout) (relation : Relation) (field : String) (n : Number) :
    ∃ bound, predicate? ⟨field, (Operator.range relation).symbol, .number n⟩ l =
        some (.field field (.range relation bound)) ∧
      (bound = (TermValue.number n).toJson ∨ bound = (TermValue.number n).numeric) := by
  refine ⟨l.bound relation field (.number n), ?_, ?_⟩
  · rw [predicate?, Operator.ofSymbol?_symbol]
    rfl
  · unfold Layout.bound
    split
    · exact .inl rfl
    · exact .inr rfl

/-- The text of a number is a literal to its end and is read as the number in the binary format. A
range condition with the number holds of the same documents as one with what is read, so that terms
with this value match the same documents whatever the layout. -/
theorem isMatch_number_bound (compiles : String → Bool) (n : Number) :
    Decimal.literalEnd? (Decimal.bytes (Text.trimStart n.text.toList)) =
        some (Decimal.bytes n.text.toList).length ∧
      Decimal.leadingNumber? n.text = some n.toBinary64 ∧
      ∀ (relation : Relation) (field : String),
        (∀ document,
          (Predicate.field field (.range relation (TermValue.number n).numeric)).isMatch compiles
              document =
            (Predicate.field field (.range relation (TermValue.number n).toJson)).isMatch compiles
              document) ∧
        ∀ l l' : Layout, ∃ p p',
          predicate? ⟨field, (Operator.range relation).symbol, .number n⟩ l = some p ∧
          predicate? ⟨field, (Operator.range relation).symbol, .number n⟩ l' = some p' ∧
          ∀ document, p.isMatch compiles document = p'.isMatch compiles document := by
  refine ⟨Decimal.literalEnd?_text n, Decimal.leadingNumber?_text n, ?_⟩
  intro relation field
  have hsame (document : Json) :
      (Predicate.field field (.range relation (TermValue.number n).numeric)).isMatch compiles
          document =
        (Predicate.field field (.range relation (TermValue.number n).toJson)).isMatch compiles
          document := by
    simp only [Predicate.isMatch, Condition.holds_range_number]
  refine ⟨hsame, ?_⟩
  intro l l'
  obtain ⟨bound, hp, hbound⟩ := predicate?_number_cases l relation field n
  obtain ⟨bound', hp', hbound'⟩ := predicate?_number_cases l' relation field n
  refine ⟨_, _, hp, hp', ?_⟩
  intro document
  obtain rfl | rfl := hbound <;> obtain rfl | rfl := hbound'
  · rfl
  · exact (hsame document).symm
  · exact hsame document
  · rfl

/-! ### Numbers of the binary format -/

variable {l : Layout} {term : Term} {relation : Relation}

/-- A term with a range operator, but for its boundary field, that a number of the binary format is
handed in to has a predicate that holds of a stored number exactly if the number that was handed in
is finite and the stored one stands in the relation to it. -/
theorem isMatch_ofBinary64 (compiles : String → Bool) {x : Binary64}
    (hop : term.operator = (Operator.range relation).symbol)
    (hfield : term.field ≠ l.boundaryField relation) (hvalue : term.value = .ofBinary64 x)
    {document : Json} {keys : List String} {n : Number} {y : Finite}
    (hnames : Path.Names term.field keys) (hleads : document.LeadsTo keys (.number n))
    (hy : n.toBinary64 = .finite y) :
    ∃ p, term.predicate? l = some p ∧
      (p.isMatch compiles document = true ↔
        ∃ b, x = .finite b ∧ relation.Holds y.place b.place) := by
  refine ⟨_, predicate?_range hop hfield, ?_⟩
  have hstored : document.at? term.field = some (.number n) :=
    Json.at?_eq_some_iff.2 ⟨keys, hnames, hleads⟩
  rw [hvalue]
  by_cases hfinite : ∃ b, x = .finite b
  · obtain ⟨b, rfl⟩ := hfinite
    have hnumeric : (TermValue.ofBinary64 (.finite b)).numeric = .number (.float b) :=
      TermValue.numeric_number rfl
    rw [hnumeric, Predicate.isMatch_range_stored hstored hy]
    constructor
    · intro hholds
      exact ⟨b, rfl, hholds⟩
    · intro hholds
      obtain ⟨b', hb, hholds⟩ := hholds
      obtain rfl := Binary64.finite.inj hb
      exact hholds
  · have hnull := TermValue.numeric_ofBinary64_of_ne_finite (not_exists.1 hfinite)
    rw [hnull, Predicate.isMatch_range_null]
    constructor
    · intro hmatch
      exact absurd hmatch (by decide)
    · intro hholds
      obtain ⟨b, hb, -⟩ := hholds
      exact absurd ⟨b, hb⟩ hfinite

/-- A third, which no short decimal is: the number next below it lies below it, and it does not. -/
theorem isMatch_ofBinary64_neighbour :
    let third : Finite := ⟨false, 6004799503160661 * Nat.pow 2 1020, by decide +kernel⟩
    let below : Finite := ⟨false, 6004799503160660 * Nat.pow 2 1020, by decide +kernel⟩
    let term : Term := ⟨"share", "<", .ofBinary64 (.finite third)⟩
    let compiles (_ : String) : Bool := true
    ∃ p, term.predicate? {} = some p ∧
      p.isMatch compiles (.object [("share", .number (.float below))]) = true ∧
      p.isMatch compiles (.object [("share", .number (.float third))]) = false := by
  intro third below term compiles
  have hop : term.operator = (Operator.range .less).symbol := rfl
  have hfield : term.field ≠ ({} : Layout).boundaryField .less := by decide +kernel
  have hnames : Path.Names term.field ["share"] := Path.names_iff.2 (by decide +kernel)
  have hleads (y : Finite) :
      Json.LeadsTo (.object [("share", .number (.float y))]) ["share"] (.number (.float y)) :=
    .member rfl (.here _)
  have hvalue : term.value = .ofBinary64 (.finite third) := rfl
  have hbound (y : Finite) := isMatch_ofBinary64 compiles hop hfield hvalue hnames (hleads y) rfl
  obtain ⟨p, hp, hbelow⟩ := hbound below
  obtain ⟨p', hp', hthird⟩ := hbound third
  obtain rfl := Option.some.inj (hp.symm.trans hp')
  refine ⟨p, hp, hbelow.2 ⟨third, rfl, by decide +kernel⟩, ?_⟩
  rw [← Bool.not_eq_true, hthird]
  rintro ⟨b, hb, hholds⟩
  obtain rfl := Binary64.finite.inj hb
  exact absurd hholds (by decide +kernel)

/-- Every ordinary number lies below infinity, but a term that infinity is handed in to matches
none. -/
theorem not_isMatch_ofBinary64_infinite :
    let term : Term := ⟨"price", "<", .ofBinary64 (.infinite false)⟩
    let document : Json := .object [("price", .ofNat 5)]
    let compiles (_ : String) : Bool := true
    (∃ n y place, document.LeadsTo ["price"] (.number n) ∧ n.toBinary64 = .finite y ∧
      (Finite.largest true).place < y.place ∧ y.place < (Finite.largest false).place ∧
      (Binary64.infinite false).place? = some place ∧ Relation.less.Holds y.place place) ∧
    ¬ ∀ p, term.predicate? {} = some p → p.isMatch compiles document = true := by
  intro term document compiles
  constructor
  · refine ⟨.int 5 (by decide), ⟨false, 5 * unitsPerOne, by decide +kernel⟩, Binary64.infinitePlace,
      .member rfl (.here _), ?_⟩
    decide +kernel
  · intro hmatches
    exact absurd (hmatches _ rfl) (by decide +kernel)

end Term

end ForestQuery
