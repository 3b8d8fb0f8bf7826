import ForestQuery.Json.Tidy
import ForestQuery.Proofs.Wire.Roundtrip

/-!
# The grammar of nodes

A JSON value spells a node in one of three forms: an object that names the fields of a term, the
sequence of these fields, or a sequence of values that spell nodes. `Json.SpellsNode` is this
grammar, with the form and the node. A text spells no node, so the sequence of a term's fields is
never a group, though a group of three is a sequence of the same length.

## Key results

- `TermNode.ofJsonAll?_eq_none`: what spells a term in a sequence is no group
- `TermNode.groupFirst?_eq_ofJson?`: groups may as well be tried before terms
- `TermNode.ofValue_reader_grammar`: exactly what the grammar spells is read, and as what it spells
-/

namespace ForestQuery

/-- The forms in which a node is spelled. -/
inductive NodeForm
  /-- An object that names the fields of a term. -/
  | record
  /-- The sequence of the fields of a term. -/
  | row
  /-- A sequence of nodes. -/
  | group

namespace Json

/-- A value spells the value of a term: a number or a text. -/
inductive SpellsValue : Json → TermValue → Prop
  | number (n : Number) : SpellsValue (.number n) (.number n)
  | text (s : String) : SpellsValue (.string s) (.text s)

mutual

/-- A value spells a node in a form. -/
inductive SpellsNode : Json → NodeForm → TermNode → Prop
  /-- An object with a text under `field`, a text under `operator` and a number or a text under
  `value`, whatever else it has. -/
  | record {members : List (String × Json)} {field operator : String} {literal : Json}
      {value : TermValue} (hfield : member? "field" (.object members) = some (.string field))
      (hoperator : member? "operator" (.object members) = some (.string operator))
      (hvalue : member? "value" (.object members) = some literal)
      (hliteral : literal.SpellsValue value) :
      SpellsNode (.object members) .record (.leaf ⟨field, operator, value⟩)
  /-- A sequence of two texts, and a number or a text. -/
  | row {field operator : String} {literal : Json} {value : TermValue}
      (hliteral : literal.SpellsValue value) :
      SpellsNode (.array [.string field, .string operator, literal]) .row
        (.leaf ⟨field, operator, value⟩)
  /-- A sequence of which every item spells a node. -/
  | group {items : List Json} {nodes : List TermNode} (hitems : SpellsNodes items nodes) :
      SpellsNode (.array items) .group (.group nodes)

/-- Values spell nodes, one by one. -/
inductive SpellsNodes : List Json → List TermNode → Prop
  | nil : SpellsNodes [] []
  | cons {item : Json} {rest : List Json} {form : NodeForm} {node : TermNode}
      {nodes : List TermNode} (hitem : SpellsNode item form node)
      (hrest : SpellsNodes rest nodes) : SpellsNodes (item :: rest) (node :: nodes)

end

/-! ### No value has two forms -/

theorem not_spellsNode_string {s : String} {form : NodeForm} {node : TermNode} :
    ¬ SpellsNode (.string s) form node := by
  intro h
  cases h

/-- A value that spells a node has one form. -/
theorem SpellsNode.form_eq {json : Json} {form form' : NodeForm} {node node' : TermNode}
    (h : json.SpellsNode form node) (h' : json.SpellsNode form' node') : form = form' := by
  cases h with
  | record => cases h'; rfl
  | row =>
    cases h' with
    | row => rfl
    | group hitems =>
      -- the first item of a row is a text
      cases hitems with
      | cons hitem => exact absurd hitem not_spellsNode_string
  | group hitems =>
    cases h' with
    | group => rfl
    | row =>
      cases hitems with
      | cons hitem => exact absurd hitem not_spellsNode_string

theorem SpellsNode.exists_leaf {json : Json} {node : TermNode} (h : json.SpellsNode .row node) :
    ∃ term, node = .leaf term := by
  cases h
  exact ⟨_, rfl⟩

end Json

/-! ### Terms -/

theorem TermValue.ofJson?_eq_some_iff {literal : Json} {value : TermValue} :
    ofJson? literal = some value ↔ literal.SpellsValue value := by
  constructor
  · intro h
    cases literal with
    | number n => obtain rfl := Option.some.inj h; exact .number n
    | string s => obtain rfl := Option.some.inj h; exact .text s
    | null | bool | array | object => cases h
  · intro h
    cases h <;> rfl

namespace Term

/-- Where no key stands twice, the only member with a key is the one that is found there. -/
theorem onlyMember?_eq_lookup {members : List (String × Json)} (h : Json.InOrder members)
    (key : String) : onlyMember? key members = members.lookup key := by
  induction members with
  | nil => rfl
  | cons m rest ih =>
    obtain ⟨hhead, htail⟩ := List.pairwise_cons.1 h
    have hrest := ih htail
    rw [onlyMember?] at hrest ⊢
    by_cases hkey : m.1 = key
    · -- all other keys come later
      have hnone : rest.filter (·.1 == key) = [] := by
        rw [List.filter_eq_nil_iff]
        intro other hother heq
        have hlt := hhead other hother
        rw [hkey, beq_iff_eq.1 heq] at hlt
        exact String.lt_irrefl key hlt
      have hbeq : (key == m.1) = true := by simp [hkey]
      rw [List.filter_cons_of_pos (by simpa using hkey), hnone, List.lookup_cons, hbeq]
    · have hbeq : (key == m.1) = false := by simpa using fun heq => hkey heq.symm
      rw [List.filter_cons_of_neg (by simpa using hkey), hrest, List.lookup_cons, hbeq]

theorem ofParts?_eq_some_iff {first second literal : Json} {term : Term} :
    ofParts? first second literal = some term ↔
      first = .string term.field ∧ second = .string term.operator ∧
        literal.SpellsValue term.value := by
  rw [← TermValue.ofJson?_eq_some_iff]
  constructor
  · intro h
    rw [ofParts?.eq_def] at h
    split at h
    · obtain ⟨value, hvalue, rfl⟩ := Option.map_eq_some_iff.1 h
      exact ⟨rfl, rfl, hvalue⟩
    · cases h
  · rintro ⟨rfl, rfl, hvalue⟩
    rw [ofParts?, hvalue]
    rfl

theorem ofJson?_object_eq_some_iff {members : List (String × Json)} (h : Json.InOrder members)
    {term : Term} :
    ofJson? (.object members) = some term ↔
      (Json.object members).SpellsNode .record (.leaf term) := by
  simp only [ofJson?, onlyMember?_eq_lookup h, Option.bind_eq_bind, Option.bind_eq_some_iff,
    ofParts?_eq_some_iff]
  constructor
  · rintro ⟨_, hfield, _, hoperator, literal, hvalue, rfl, rfl, hliteral⟩
    exact .record hfield hoperator hvalue hliteral
  · intro hspells
    cases hspells with
    | record hfield hoperator hvalue hliteral =>
      exact ⟨_, hfield, _, hoperator, _, hvalue, rfl, rfl, hliteral⟩

theorem ofJson?_array_eq_some_iff {items : List Json} {term : Term} :
    ofJson? (.array items) = some term ↔ (Json.array items).SpellsNode .row (.leaf term) := by
  constructor
  · intro h
    match items with
    | [first, second, literal] =>
      obtain ⟨rfl, rfl, hliteral⟩ := ofParts?_eq_some_iff.1 h
      exact .row hliteral
    | [] | [_] | [_, _] | _ :: _ :: _ :: _ :: _ => cases h
  · intro h
    cases h with
    | row hliteral =>
      rw [ofJson?, ofParts?_eq_some_iff]
      exact ⟨rfl, rfl, hliteral⟩

end Term

/-! ### Nodes -/

namespace TermNode

/-- What spells a term in a sequence is no group, for its first item is a text. -/
theorem ofJsonAll?_eq_none {items : List Json} {term : Term}
    (h : Term.ofJson? (.array items) = some term) : ofJsonAll? items = none := by
  cases Term.ofJson?_array_eq_some_iff.1 h
  rw [ofJsonAll?]
  rfl

mutual

/-- A value is a node exactly if it spells that node in some form. -/
theorem ofJson?_eq_some_iff : {json : Json} → json.IsTidy → {node : TermNode} →
    (ofJson? json = some node ↔ ∃ form, json.SpellsNode form node)
  | .null, _, _ | .bool _, _, _ | .number _, _, _ | .string _, _, _ => by
    constructor
    · intro h
      cases h
    · rintro ⟨form, h⟩
      cases h
  | .object members, htidy, node => by
    have hread : ofJson? (.object members) = (Term.ofJson? (.object members)).map leaf := rfl
    rw [hread, Option.map_eq_some_iff]
    constructor
    · rintro ⟨term, hterm, rfl⟩
      exact ⟨.record, (Term.ofJson?_object_eq_some_iff htidy.1).1 hterm⟩
    · rintro ⟨form, h⟩
      cases h with
      | record hfield hoperator hvalue hliteral =>
        exact ⟨_, (Term.ofJson?_object_eq_some_iff htidy.1).2
          (.record hfield hoperator hvalue hliteral), rfl⟩
  | .array items, htidy, node => by
    have hitems {nodes : List TermNode} :
        ofJsonAll? items = some nodes ↔ Json.SpellsNodes items nodes :=
      ofJsonAll?_eq_some_iff htidy
    rw [ofJson?]
    cases hterm : Term.ofJson? (.array items) with
    | some term =>
      have hrow := Term.ofJson?_array_eq_some_iff.1 hterm
      constructor
      · intro h
        obtain rfl := Option.some.inj h
        exact ⟨.row, hrow⟩
      · rintro ⟨form, h⟩
        obtain rfl := h.form_eq hrow
        obtain ⟨term', rfl⟩ := h.exists_leaf
        have hsame := Term.ofJson?_array_eq_some_iff.2 h
        rw [hterm] at hsame
        rw [Option.some.inj hsame]
    | none =>
      constructor
      · intro h
        obtain ⟨nodes, hnodes, rfl⟩ := Option.map_eq_some_iff.1 h
        exact ⟨.group, .group (hitems.1 hnodes)⟩
      · rintro ⟨form, h⟩
        cases form with
        | record => cases h
        | row =>
          obtain ⟨term, rfl⟩ := h.exists_leaf
          have hsome := Term.ofJson?_array_eq_some_iff.2 h
          rw [hterm] at hsome
          cases hsome
        | group =>
          cases h with
          | group hnodes => exact Option.map_eq_some_iff.2 ⟨_, hitems.2 hnodes, rfl⟩

/-- Values are nodes exactly if they spell these nodes one by one. -/
theorem ofJsonAll?_eq_some_iff : {items : List Json} → Json.AllTidy items →
    {nodes : List TermNode} → (ofJsonAll? items = some nodes ↔ Json.SpellsNodes items nodes)
  | [], _, nodes => by
    constructor
    · intro h
      obtain rfl := Option.some.inj h
      exact .nil
    · intro h
      cases h
      rfl
  | item :: rest, htidy, nodes => by
    have hitem {node : TermNode} : ofJson? item = some node ↔ ∃ form, item.SpellsNode form node :=
      ofJson?_eq_some_iff htidy.1
    have hrest {others : List TermNode} :
        ofJsonAll? rest = some others ↔ Json.SpellsNodes rest others :=
      ofJsonAll?_eq_some_iff htidy.2
    rw [ofJsonAll?]
    constructor
    · intro h
      split at h
      · next node others hnode hothers =>
        obtain rfl := Option.some.inj h
        obtain ⟨form, hspells⟩ := hitem.1 hnode
        exact .cons hspells (hrest.1 hothers)
      · cases h
    · intro h
      cases h with
      | cons hspells hothers => rw [hitem.2 ⟨_, hspells⟩, hrest.2 hothers]

end

/-! ### Groups before terms -/

mutual

/-- The node that a value is, where at every depth a group is tried before a term. -/
def groupFirst? : Json → Option TermNode
  | .array items =>
    ((groupsFirst? items).map group).or ((Term.ofJson? (.array items)).map leaf)
  | value => (Term.ofJson? value).map leaf

/-- The nodes that values are, where a group is tried before a term. -/
def groupsFirst? : List Json → Option (List TermNode)
  | [] => some []
  | value :: rest =>
    (groupFirst? value).bind fun node => (groupsFirst? rest).map (node :: ·)

end

mutual

/-- It does not matter whether groups are tried before terms. -/
theorem groupFirst?_eq_ofJson? : (json : Json) → groupFirst? json = ofJson? json
  | .null | .bool _ | .number _ | .string _ | .object _ => rfl
  | .array items => by
    rw [groupFirst?, ofJson?, groupsFirst?_eq_ofJsonAll? items]
    cases hterm : Term.ofJson? (.array items) with
    | none => cases ofJsonAll? items <;> rfl
    | some term => rw [ofJsonAll?_eq_none hterm]; rfl

theorem groupsFirst?_eq_ofJsonAll? : (items : List Json) → groupsFirst? items = ofJsonAll? items
  | [] => rfl
  | item :: rest => by
    rw [groupsFirst?, ofJsonAll?, groupFirst?_eq_ofJson? item, groupsFirst?_eq_ofJsonAll? rest]
    cases ofJson? item with
    | none => rfl
    | some node => cases ofJsonAll? rest <;> rfl

end

/-- A value is read as a node exactly if the grammar spells that node, be it as an object of a
term's fields, as the sequence of them, or as a sequence of nodes. No value has two of these forms,
so that it would not matter if groups were tried before terms. -/
theorem ofValue_reader_grammar {json : Json} (htidy : json.IsTidy) :
    (∀ node, Wire.ofValue reader json = .ok node ↔ ∃ form, json.SpellsNode form node) ∧
    (∀ form form' node node', json.SpellsNode form node → json.SpellsNode form' node' →
      form = form' ∧ node = node') ∧
    Wire.ofValue (Wire.readAlternative "TermNode" groupFirst?) json = Wire.ofValue reader json := by
  refine ⟨fun node => ?_, fun form form' node node' h h' => ⟨h.form_eq h', ?_⟩, ?_⟩
  · rw [reader, Wire.ofValue_readAlternative_eq_ok_iff, ofJson?_eq_some_iff htidy]
  · -- both nodes are the one that is read
    have hnode := (ofJson?_eq_some_iff htidy).2 ⟨form, h⟩
    have hnode' := (ofJson?_eq_some_iff htidy).2 ⟨form', h'⟩
    rw [hnode] at hnode'
    exact Option.some.inj hnode'
  · rw [reader, Wire.ofValue_readAlternative, Wire.ofValue_readAlternative, groupFirst?_eq_ofJson?]

/-- A group of three: a term in a sequence, an empty group, and a term in an object with one more
key. -/
theorem ofValue_reader_grammar_three :
    let four : Number := .int 4 (by decide)
    let json : Json := .array [
      .array [.string "tag", .string "=", .string "folder"],
      .array [],
      .object [("field", .string "size"), ("note", .null), ("operator", .string "<"),
        ("value", .number four)]]
    let node : TermNode := .group [.leaf ⟨"tag", "=", .text "folder"⟩, .group [],
      .leaf ⟨"size", "<", .number four⟩]
    json.IsTidy ∧ Wire.ofValue reader json = .ok node ∧
      ∀ term, ¬ json.SpellsNode .row (.leaf term) := by
  intro four json node
  have horder : Json.InOrder [("field", .string "size"), ("note", .null),
      ("operator", .string "<"), ("value", .number four)] := by
    rw [Json.InOrder]
    decide +kernel
  have htidy : json.IsTidy := by
    simp [json, Json.IsTidy, Json.AllTidy, Json.MembersTidy, horder]
  obtain ⟨hread, hform, -⟩ := ofValue_reader_grammar htidy
  have hspells : json.SpellsNode .group node :=
    .group (.cons (.row (.text _)) (.cons (.group .nil)
      (.cons (.record rfl rfl rfl (.number _)) .nil)))
  refine ⟨htidy, (hread node).2 ⟨.group, hspells⟩, fun term hrow => ?_⟩
  cases (hform _ _ _ _ hrow hspells).1

end TermNode

end ForestQuery
