import ForestQuery.Query.Wire
import Mathlib.Data.List.Forall2

/-!
# Written queries are read back

What is written of a query, or of any part of it, is read back as it was. A record is written as an
object of all its fields, so reading it comes to setting the fields one after another
(`RecordType.Sets`). A node is tried as a term first: a written group is a sequence whose items are
no texts, so that it is never taken for the sequence of a term's fields.

## Key results

- `RecordType.ofValue_object`: an object that sets the fields of a record is read as that record
- `ofValue_readList`: a sequence is read item by item
- `Query.ofValue_toJson_eq_ok`: queries and all that they are made of are read back
-/

namespace ForestQuery

open Json (Draft)

namespace Wire

variable {α β : Type}

/-! ### Values and sequences -/

/-- A value with alternatives is read as the alternative that it is. -/
theorem ofValue_readAlternative (type : String) (alternative? : Json → Option α) (value : Json) :
    ofValue (readAlternative type alternative?) value =
      match alternative? value with
      | some result => .ok result
      | none => refuse (.noAlternative type) := by
  rw [ofValue, readAlternative, Draft.read_ofJson]
  rfl

theorem ofValue_readAlternative_eq_ok_iff {type : String} {alternative? : Json → Option α}
    {value : Json} {result : α} :
    ofValue (readAlternative type alternative?) value = .ok result ↔
      alternative? value = some result := by
  rw [ofValue_readAlternative]
  cases alternative? value <;> simp [refuse]

theorem readEach_ofItems {item : Reader α} {values : List Json} {results : List α}
    (h : List.Forall₂ (fun value result => ofValue item value = .ok result) values results) :
    readEach item none (Draft.ofItems values) = .ok results := by
  induction h with
  | nil => rfl
  | cons hfirst _ ih =>
    rw [ofValue] at hfirst
    rw [Draft.ofItems, readEach, hfirst, ih]
    rfl

/-- A sequence is read item by item. -/
theorem ofValue_readList {item : Reader α} {values : List Json} {results : List α}
    (h : List.Forall₂ (fun value result => ofValue item value = .ok result) values results) :
    ofValue (readList item) (.array values) = .ok results := by
  have heach := readEach_ofItems h
  rw [ofValue, Draft.ofJson, readList, Draft.enter]
  simp [ofFault, Except.mapError, heach, Draft.readEnding, bind, Except.bind, pure, Except.pure]

/-! ### Records -/

/-- A field is set to what its reader makes of a value. -/
theorem Field.read_of {key : String} {required : Bool} {reader : Reader β} {set : β → α → α}
    {value : Json} {content : β} (h : ofValue reader value = .ok content) (record : α) :
    (Field.of key required reader set).read none (Draft.ofJson value) record =
      .ok (set content record) := by
  rw [ofValue] at h
  simp [Field.of, h, bind, Except.bind, pure, Except.pure]

namespace RecordType

/-- Members set the fields that they name, one after another, and lead from one record to
another. -/
inductive Sets (fields : List (Field α)) : List (String × Json) → α → α → Prop
  | nil {record : α} : Sets fields [] record record
  | cons {key : String} {value : Json} {rest : List (String × Json)} {field : Field α}
      {record next last : α} (hfield : fields.find? (·.key == key) = some field)
      (hread : field.read none (Draft.ofJson value) record = .ok next)
      (hrest : Sets fields rest next last) : Sets fields ((key, value) :: rest) record last

/-- Members with different keys are read one after another, and their keys are remembered. -/
theorem Sets.readMembers {fields : List (Field α)} {members : List (String × Json)}
    {record last : α} (h : Sets fields members record last) {seen : List String}
    (hkeys : (members.map Prod.fst ++ seen).Nodup) :
    readMembers fields none (Draft.ofMembers members) seen record =
      .ok ((members.map Prod.fst).reverse ++ seen, last) := by
  induction h generalizing seen with
  | nil => rfl
  | @cons key value rest field record next last hfield hread hrest ih =>
    -- the key is new, and stays new for the members to come
    have hperm : (key :: (rest.map Prod.fst ++ seen)).Perm (rest.map Prod.fst ++ key :: seen) :=
      List.perm_middle.symm
    have hnew : key ∉ seen := fun hmem =>
      (List.nodup_cons.1 hkeys).1 (List.mem_append_right _ hmem)
    have hlater := ih (hperm.nodup_iff.1 hkeys)
    rw [Draft.ofMembers, RecordType.readMembers, hfield]
    simp [hnew, hread, hlater, bind, Except.bind]

/-- An object that sets the fields of a record, and among them all that are required, is read as
that record. -/
theorem ofValue_object {type : RecordType α} {members : List (String × Json)} {record : α}
    (h : Sets type.fields members type.blank record) (hkeys : (members.map Prod.fst).Nodup)
    (hrequired : ∀ field ∈ type.fields, field.required = true →
      field.key ∈ members.map Prod.fst) :
    ofValue type.read (.object members) = .ok record := by
  have hnew : (members.map Prod.fst ++ []).Nodup := by rwa [List.append_nil]
  have hread := h.readMembers hnew
  have hmissing : (type.fields.find? fun field => field.required &&
      !((members.map Prod.fst).reverse ++ []).contains field.key) = none := by
    rw [List.find?_eq_none]
    intro field hfield
    have hgiven := hrequired field hfield
    simpa using hgiven
  rw [ofValue, Draft.ofJson, read, Draft.enter]
  simp only [ofFault, Except.mapError, hread, hmissing, Draft.readEnding, bind, Except.bind, pure,
    Except.pure]

end RecordType

end Wire

open Wire Wire.RecordType

/-! ### Terms -/

theorem TermValue.ofValue_toJson (value : TermValue) :
    ofValue TermValue.reader value.toJson = .ok value :=
  ofValue_readAlternative_eq_ok_iff.2 value.ofJson?_toJson

theorem Term.ofValue_toJson (term : Term) : ofValue Term.reader term.toJson = .ok term := by
  refine ofValue_object (.cons rfl (Field.read_of rfl _) (.cons rfl (Field.read_of rfl _)
    (.cons rfl (Field.read_of term.value.ofValue_toJson _) .nil))) ?_ ?_
  · simp
  · simp [recordType, Field.of]

theorem TermNode.ofValue_toJson (node : TermNode) :
    ofValue TermNode.reader node.toJson = .ok node :=
  ofValue_readAlternative_eq_ok_iff.2 node.ofJson?_toJson

theorem TermNode.ofValue_toJsonAll (nodes : List TermNode) :
    ofValue (readList TermNode.reader) (.array (toJsonAll nodes)) = .ok nodes := by
  refine ofValue_readList ?_
  induction nodes with
  | nil => exact .nil
  | cons node rest ih => exact .cons node.ofValue_toJson ih

/-- A written group is not read as a term: its items are no texts. -/
theorem TermNode.term_ofValue_group_ne_ok (children : List TermNode) (term : Term) :
    ofValue Term.reader (TermNode.group children).toJson ≠ .ok term := by
  intro h
  cases children with
  | nil => cases h
  | cons node rest =>
    -- the first field of a term is a text, and a written node is an object or a sequence
    cases node with
    | leaf => cases h
    | group => cases h

/-! ### Queries -/

theorem ofValue_readCount (limit : Option UInt64) :
    ofValue readCount (.ofOption (limit.map fun n => .number (.ofUInt64 n))) = .ok limit := by
  cases limit with
  | none => rfl
  | some n =>
    have hcount : (Number.ofUInt64 n).toUInt64? = some n := by
      simp [Number.ofUInt64, Number.toUInt64?]
    rw [Number.ofUInt64] at hcount
    rw [Option.map_some, Json.ofOption, ofValue, Draft.ofJson, Number.ofUInt64, readCount, hcount]

theorem Modifier.ofValue_toJson (m : Modifier) : ofValue Modifier.reader m.toJson = .ok m := by
  refine ofValue_object (.cons rfl (Field.read_of rfl _) (.cons rfl (Field.read_of rfl _)
    (.cons rfl (Field.read_of (ofValue_readCount m.limit) _)
      (.cons rfl (Field.read_of rfl _) .nil)))) ?_ ?_
  · simp
  · simp [recordType, Field.of]

theorem QueryTerms.ofValue_toJson (terms : QueryTerms) :
    ofValue QueryTerms.reader terms.toJson = .ok terms := by
  refine ofValue_object
    (.cons rfl (Field.read_of (TermNode.ofValue_toJsonAll terms.search) _)
      (.cons rfl (Field.read_of (TermNode.ofValue_toJsonAll terms.skeleton) _) .nil)) ?_ ?_
  · simp
  · simp [recordType, Field.of]

theorem Query.ofValue_toJson (q : Query) : ofValue Query.reader q.toJson = .ok q := by
  refine ofValue_object (.cons rfl (Field.read_of q.modifier.ofValue_toJson _)
    (.cons rfl (Field.read_of q.terms.ofValue_toJson _) .nil)) ?_ ?_
  · simp
  · simp [recordType, Field.of]

/-- A query and all that it is made of are read back from their written forms as they were: values,
terms, nodes however deep, modifiers and the terms of a query. A written group, of three nodes or of
any other number, is never read as a term. -/
theorem Query.ofValue_toJson_eq_ok :
    (∀ q : Query, ofValue Query.reader q.toJson = .ok q) ∧
    (∀ terms : QueryTerms, ofValue QueryTerms.reader terms.toJson = .ok terms) ∧
    (∀ m : Modifier, ofValue Modifier.reader m.toJson = .ok m) ∧
    (∀ node : TermNode, ofValue TermNode.reader node.toJson = .ok node) ∧
    (∀ term : Term, ofValue Term.reader term.toJson = .ok term) ∧
    (∀ value : TermValue, ofValue TermValue.reader value.toJson = .ok value) ∧
    ∀ (children : List TermNode) (term : Term),
      ofValue Term.reader (TermNode.group children).toJson ≠ .ok term :=
  ⟨Query.ofValue_toJson, QueryTerms.ofValue_toJson, Modifier.ofValue_toJson,
    TermNode.ofValue_toJson, Term.ofValue_toJson, TermValue.ofValue_toJson,
    TermNode.term_ofValue_group_ne_ok⟩

end ForestQuery
