import ForestQuery.Term.Basic
import ForestQuery.Wire.Record

/-!
# Terms on the wire

A term is an object of its three fields, or the sequence of them. A node is a term, or else a
sequence of nodes. A value is a number or a text. `TermNode.ofJson?_toJson` says that a node is read
back from its written form, also where a group has three children and might be taken for a term.
-/

namespace ForestQuery

namespace TermValue

/-- The value as a JSON literal. -/
def toJson : TermValue → Json
  | number value => .number value
  | text value => .string value

/-- The value that a JSON literal is. -/
def ofJson? : Json → Option TermValue
  | .number value => some (number value)
  | .string value => some (text value)
  | _ => none

/-- Reads a value. -/
def reader : Wire.Reader TermValue := Wire.readAlternative "TermValue" ofJson?

@[simp] theorem ofJson?_toJson (value : TermValue) : ofJson? value.toJson = some value := by
  cases value <;> rfl

end TermValue

namespace Term

/-- The written form of a term. -/
def toJson (term : Term) : Json :=
  .object [("field", .string term.field), ("operator", .string term.operator),
    ("value", term.value.toJson)]

/-- A term as a record. -/
def recordType : Wire.RecordType Term where
  name := "Term"
  fields := [
    .of "field" true Wire.readString fun field term => { term with field },
    .of "operator" true Wire.readString fun operator term => { term with operator },
    .of "value" true TermValue.reader fun value term => { term with value }]
  blank := ⟨"", "", .text ""⟩

/-- Reads a term. -/
def reader : Wire.Reader Term := recordType.read

/-- The value of the one member with a key; none if there is no such member, or more than one. -/
def onlyMember? (key : String) (members : List (String × Json)) : Option Json :=
  match members.filter (·.1 == key) with
  | [(_, value)] => some value
  | _ => none

/-- The term of three values. -/
def ofParts? : Json → Json → Json → Option Term
  | .string field, .string operator, value => (TermValue.ofJson? value).map (⟨field, operator, ·⟩)
  | _, _, _ => none

/-- The term that a value is. -/
def ofJson? : Json → Option Term
  | .array [field, operator, value] => ofParts? field operator value
  | .object members => do
    let field ← onlyMember? "field" members
    let operator ← onlyMember? "operator" members
    let value ← onlyMember? "value" members
    ofParts? field operator value
  | _ => none

@[simp] theorem ofJson?_toJson (term : Term) : ofJson? term.toJson = some term := by
  simp [toJson, ofJson?, onlyMember?, ofParts?]

end Term

namespace TermNode

mutual

/-- The written form of a node. -/
def toJson : TermNode → Json
  | leaf term => term.toJson
  | group children => .array (toJsonAll children)

/-- The written forms of nodes. -/
def toJsonAll : List TermNode → List Json
  | [] => []
  | node :: rest => node.toJson :: toJsonAll rest

end

mutual

/-- The node that a value is: a term if it can be one, else a group. -/
def ofJson? : Json → Option TermNode
  | .array items =>
    match Term.ofJson? (.array items) with
    | some term => some (leaf term)
    | none => (ofJsonAll? items).map group
  | value => (Term.ofJson? value).map leaf

/-- The nodes that values are; none unless each of them is one. -/
def ofJsonAll? : List Json → Option (List TermNode)
  | [] => some []
  | value :: rest =>
    match ofJson? value, ofJsonAll? rest with
    | some node, some nodes => some (node :: nodes)
    | _, _ => none

end

/-- Reads a node. -/
def reader : Wire.Reader TermNode := Wire.readAlternative "TermNode" ofJson?

/-- A written node is no text, so that no sequence of written nodes is a term. -/
theorem toJson_ne_string (node : TermNode) (s : String) : node.toJson ≠ .string s := by
  cases node <;> simp [toJson, Term.toJson]

/-- No sequence of written nodes is a term. -/
theorem term_ofJson?_toJsonAll (nodes : List TermNode) :
    Term.ofJson? (.array (toJsonAll nodes)) = none := by
  match nodes with
  | [a, b, c] =>
    have := toJson_ne_string a
    simp only [toJsonAll, Term.ofJson?]
    rw [Term.ofParts?.eq_def]
    split
    · next heq _ => exact absurd heq (this _)
    · rfl
  | [] | [_] | [_, _] | _ :: _ :: _ :: _ :: _ => rfl

mutual

/-- A node is read back from its written form. -/
theorem ofJson?_toJson : (node : TermNode) → ofJson? node.toJson = some node
  | leaf term => by
    have := term.ofJson?_toJson
    rw [Term.toJson] at this
    rw [toJson, Term.toJson, ofJson?, this]
    · rfl
    · intro items h
      exact Json.noConfusion h
  | group children => by
    rw [toJson, ofJson?, term_ofJson?_toJsonAll, ofJsonAll?_toJsonAll children]
    rfl

/-- Nodes are read back from their written forms. -/
theorem ofJsonAll?_toJsonAll : (nodes : List TermNode) →
    ofJsonAll? (toJsonAll nodes) = some nodes
  | [] => rfl
  | node :: rest => by
    rw [toJsonAll, ofJsonAll?, ofJson?_toJson node, ofJsonAll?_toJsonAll rest]

end

end TermNode

end ForestQuery
