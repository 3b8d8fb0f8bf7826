import ForestQuery.Predicate.Matching
import ForestQuery.Predicate.OfTerm
import ForestQuery.Proofs.Predicate.Expression
import ForestQuery.Proofs.Predicate.Lookup

/-!
# What the operators on texts match

An operator on texts finds the text of its value, with every character as it is but for case, in one
of five places of a stored text. It goes through a regular expression, of which the value is a part:
what the expression finds is what the place asks for, whatever characters the value has.

The source of the expression tells the operator and the value. Two conditions with the same source
are therefore the same, and this is how patterns are compared.

## Key results

- `TextMatch.occurs_pattern_iff`: a pattern occurs where its operator finds the value
- `Condition.holds_pattern_iff`: a pattern holds of texts and of sequences with texts only
- `Term.isMatch_text_iff`: what a term with an operator on texts matches
- `Term.source_eq_iff`: the source tells the operator and the value
-/

namespace ForestQuery

/-! ### Five places -/

/-- A text has a value in a place. -/
def TextMatch.FoundIn (place : TextMatch) (value text : List Char) : Prop :=
  match place with
  | startsWith => ∃ part, part <+: text ∧ Text.SameLetters part value
  | endsWith => ∃ part, part <:+ text ∧ Text.SameLetters part value
  | contains => ∃ part, part <:+: text ∧ Text.SameLetters part value
  | hyphenPrefix => ∃ part, part ++ ['-'] <+: text ∧ Text.SameLetters part value
  | word => ∃ c part d, c :: (part ++ [d]) <:+: text ∧ Text.isWord c = false ∧
      Text.SameLetters part value ∧ Text.isWord d = false

/-- The pattern of an operator occurs exactly in the texts that have the value in its place. -/
theorem TextMatch.occurs_pattern_iff {place : TextMatch} {value : String} {text : List Char} :
    (place.pattern value).Occurs text ↔ place.FoundIn value.toList text := by
  cases place with
  | startsWith =>
    constructor
    · intro h
      obtain ⟨before, part, after, htext, rfl, hsame, -⟩ := h
      exact ⟨part, ⟨after, htext.symm⟩, hsame⟩
    · intro h
      obtain ⟨part, ⟨after, rfl⟩, hsame⟩ := h
      exact ⟨[], part, after, rfl, rfl, hsame, trivial⟩
  | endsWith =>
    constructor
    · intro h
      obtain ⟨before, part, after, rfl, -, hsame, rfl⟩ := h
      exact ⟨part, ⟨before, by simp⟩, hsame⟩
    · intro h
      obtain ⟨part, ⟨before, rfl⟩, hsame⟩ := h
      exact ⟨before, part, [], by simp, trivial, hsame, rfl⟩
  | contains =>
    constructor
    · intro h
      obtain ⟨before, part, after, rfl, -, hsame, -⟩ := h
      exact ⟨part, ⟨before, after, by simp⟩, hsame⟩
    · intro h
      obtain ⟨part, ⟨before, after, rfl⟩, hsame⟩ := h
      exact ⟨before, part, after, by simp, trivial, hsame, trivial⟩
  | hyphenPrefix =>
    constructor
    · intro h
      obtain ⟨before, part, after, rfl, rfl, hsame, rest, rfl⟩ := h
      exact ⟨part, ⟨rest, by simp⟩, hsame⟩
    · intro h
      obtain ⟨part, ⟨rest, rfl⟩, hsame⟩ := h
      exact ⟨[], part, '-' :: rest, by simp, rfl, hsame, rest, rfl⟩
  | word =>
    constructor
    · intro h
      obtain ⟨before, part, after, rfl, ⟨front, c, rfl, hc⟩, hsame, d, rest, rfl, hd⟩ := h
      exact ⟨c, part, d, ⟨front, rest, by simp⟩, hc, hsame, hd⟩
    · intro h
      obtain ⟨c, part, d, ⟨front, rest, rfl⟩, hc, hsame, hd⟩ := h
      exact ⟨front ++ [c], part, d :: rest, by simp, ⟨front, c, rfl, hc⟩, hsame, d, rest, rfl, hd⟩

/-! ### Patterns and stored values -/

/-- A value is a text, or a sequence with the text among its items. -/
def Json.HasText (value : Json) (text : String) : Prop :=
  value = .string text ∨ ∃ items, value = .array items ∧ .string text ∈ items

namespace Condition

variable {compiles : String → Bool} {p : Pattern}

theorem matchesText_iff {value : Json} :
    matchesText compiles p value = true ↔
      ∃ text, value = .string text ∧ p.isMatch compiles text = true := by
  cases value with
  | string s => simp [matchesText]
  | null | bool | number | array | object => simp [matchesText]

/-- A pattern holds of a field that has a text which it matches, and of no other. -/
theorem holds_pattern_iff {actual : Option Json} :
    (pattern p).holds compiles actual = true ↔
      ∃ value text, actual = some value ∧ value.HasText text ∧ p.isMatch compiles text = true := by
  cases actual with
  | none => simp [holds]
  | some value =>
    cases value with
    | array items =>
      show items.any (matchesText compiles p) = true ↔ _
      rw [List.any_eq_true]
      constructor
      · intro h
        obtain ⟨item, hitem, hmatches⟩ := h
        obtain ⟨text, rfl, hmatch⟩ := matchesText_iff.1 hmatches
        exact ⟨_, text, rfl, .inr ⟨items, rfl, hitem⟩, hmatch⟩
      · intro h
        obtain ⟨value, text, hvalue, htext, hmatch⟩ := h
        obtain rfl := Option.some.inj hvalue
        obtain htext | ⟨items', hitems, hmem⟩ := htext
        · exact nomatch htext
        · obtain rfl := Json.array.inj hitems
          exact ⟨_, hmem, matchesText_iff.2 ⟨text, rfl, hmatch⟩⟩
    | string | null | bool | number | object =>
      simp only [holds, matchesText_iff]
      simp [Json.HasText]

end Condition

/-! ### What terms match -/

namespace Pattern

/-- What is made of an operator and a value determines both. -/
theorem pattern_eq_iff {place place' : TextMatch} {value value' : String} :
    place.pattern value = place'.pattern value' ↔ place = place' ∧ value = value' := by
  cases place <;> cases place' <;> simp [TextMatch.pattern]

/-- Patterns of operators have the same source exactly if the operators are the same, and the
values. -/
theorem source_textMatch_eq_iff {place place' : TextMatch} {value value' : String} :
    (place.pattern value).source = (place'.pattern value').source ↔
      place = place' ∧ value = value' := by
  rw [← pattern_eq_iff]
  constructor
  · intro hsource
    -- both are read back from the one source
    have hread := ofSource?_textMatch place value
    rw [hsource, ofSource?_textMatch place' value'] at hread
    exact (Option.some.inj hread).symm
  · intro hpattern
    rw [hpattern]

/-- A pattern that can be matched matches the texts that it occurs in, and any other none. -/
theorem isMatch_eq_true_iff {compiles : String → Bool} {p : Pattern} {text : String} :
    p.isMatch compiles text = true ↔ p.isCompiled compiles = true ∧ p.Occurs text.toList := by
  rw [isMatch, Bool.and_eq_true, occursIn_iff]

end Pattern

namespace Term

variable {l : Layout} {term : Term} {place : TextMatch}

/-- A term with an operator on texts asks its field for the text of its value. -/
theorem predicate?_text (hop : term.operator = (Operator.text place).symbol) :
    term.predicate? l = some (.field term.field (.pattern (place.pattern term.value.display))) := by
  rw [predicate?, hop, Operator.ofSymbol?_symbol, Option.map_some, Layout.condition]

/-- A term with an operator on texts whose pattern can be matched has a predicate that holds of a
document exactly if the path of the field leads to a text that has the text of the value in the
place of the operator, or to a sequence with such a text. The pattern matches the same texts as its
source does, as a regular expression. -/
theorem isMatch_text_iff (compiles : String → Bool)
    (hop : term.operator = (Operator.text place).symbol)
    (hcompiled : (place.pattern term.value.display).isCompiled compiles = true) :
    ∃ p, term.predicate? l = some (.field term.field (.pattern p)) ∧
      (∃ atoms, Expression.ofSource? p.source.toList = some atoms ∧
        ∀ text, p.isMatch compiles text = true ↔ Expression.Finds atoms text.toList) ∧
      ∀ document, (Predicate.field term.field (.pattern p)).isMatch compiles document = true ↔
        ∃ keys value text, Path.Names term.field keys ∧ document.LeadsTo keys value ∧
          value.HasText text ∧ place.FoundIn term.value.display.toList text.toList := by
  refine ⟨_, predicate?_text hop, ⟨_, Pattern.ofSource?_source_toList _, ?_⟩, ?_⟩
  · intro text
    rw [Pattern.isMatch_eq_true_iff, and_iff_right hcompiled, Pattern.finds_iff]
  · intro document
    rw [Predicate.isMatch, Condition.holds_pattern_iff]
    -- the library accepts the source, so the pattern matches wherever it occurs
    simp only [Json.at?_eq_some_iff, Pattern.isMatch_eq_true_iff, hcompiled, true_and,
      TextMatch.occurs_pattern_iff]
    constructor
    · intro h
      obtain ⟨value, text, ⟨keys, hnames, hleads⟩, htext, hfound⟩ := h
      exact ⟨keys, value, text, hnames, hleads, htext, hfound⟩
    · intro h
      obtain ⟨keys, value, text, hnames, hleads, htext, hfound⟩ := h
      exact ⟨value, text, ⟨keys, hnames, hleads⟩, htext, hfound⟩

/-- A value that ends as an expression does, among the tags of a record. -/
theorem isMatch_text_iff_tag :
    let term : Term := ⟨"tags", "~=", .text "Ω.*$"⟩
    let document : Json := .object [("tags", .array [.ofNat 7, .string "(ω.*$)"])]
    let compiles (_ : String) : Bool := true
    ∃ p, term.predicate? {} = some (.field "tags" (.pattern p)) ∧
      (Predicate.field "tags" (.pattern p)).isMatch compiles document = true := by
  intro term document compiles
  have hop : term.operator = (Operator.text .word).symbol := rfl
  obtain ⟨p, hp, -, hmatch⟩ := isMatch_text_iff compiles hop rfl
  have hnames : Path.Names term.field ["tags"] := Path.names_iff.2 (by decide +kernel)
  have hleads : document.LeadsTo ["tags"] (.array [.ofNat 7, .string "(ω.*$)"]) :=
    .member rfl (.here _)
  refine ⟨p, hp, (hmatch document).2 ⟨["tags"], _, "(ω.*$)", hnames, hleads, ?_, ?_⟩⟩
  · exact .inr ⟨_, rfl, by simp⟩
  · exact ⟨'(', "ω.*$".toList, ')', ⟨[], [], by decide⟩, by decide +kernel, by
      unfold Text.SameLetters
      decide +kernel, by decide +kernel⟩

/-! ### What the source tells -/

/-- The patterns of two terms with operators on texts have the same source exactly if the operators
are the same and the texts of the values, and this is when their conditions are equal. -/
theorem source_eq_iff {a b : Term} {place' : TextMatch} {l' : Layout}
    (ha : a.operator = (Operator.text place).symbol)
    (hb : b.operator = (Operator.text place').symbol) :
    ∃ p q, a.predicate? l = some (.field a.field (.pattern p)) ∧
      b.predicate? l' = some (.field b.field (.pattern q)) ∧
      (p.source = q.source ↔ a.operator = b.operator ∧ a.value.display = b.value.display) ∧
      ((Condition.pattern p).same (.pattern q) = true ↔
        a.operator = b.operator ∧ a.value.display = b.value.display) := by
  have hsource : (place.pattern a.value.display).source = (place'.pattern b.value.display).source ↔
      a.operator = b.operator ∧ a.value.display = b.value.display := by
    rw [Pattern.source_textMatch_eq_iff, ha, hb, Operator.symbol_inj, Operator.text.injEq]
  refine ⟨_, _, predicate?_text ha, predicate?_text hb, hsource, ?_⟩
  rw [← hsource]
  exact beq_iff_eq

/-- A hyphen of the value is not the one of the operator. -/
theorem source_eq_iff_hyphen :
    let a : Term := ⟨"tag", "|=", .text "a"⟩
    let b : Term := ⟨"tag", "^=", .text "a-"⟩
    ∃ p q, a.predicate? {} = some (.field "tag" (.pattern p)) ∧
      b.predicate? {} = some (.field "tag" (.pattern q)) ∧ p.source ≠ q.source := by
  intro a b
  have ha : a.operator = (Operator.text .hyphenPrefix).symbol := rfl
  have hb : b.operator = (Operator.text .startsWith).symbol := rfl
  obtain ⟨p, q, hp, hq, hsource, -⟩ := source_eq_iff ha hb
  refine ⟨p, q, hp, hq, ?_⟩
  rw [ne_eq, hsource]
  decide +kernel

end Term

end ForestQuery
