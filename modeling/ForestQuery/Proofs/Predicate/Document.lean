import ForestQuery.Descent
import ForestQuery.Proofs.Plan.Assembly
import ForestQuery.Proofs.Predicate.Source

/-!
# Reading a filter from its document

Conditions, plain values and groups share one syntax of objects whose keys are the fields of terms,
and a field may have any name, also that of a group. What keeps them apart are the values: a group
holds an array, a condition with an operator an object, and a term compares only with a number or a
text. So every filter that is sent to a store is read back from its document, and two filters are
written alike only if they are equal.

## Key results

- `Predicate.IsFilter.isPlain`: the conditions of a filter are as terms make them
- `Predicate.same_toDocument`: documents are equal exactly if the predicates are
- `Predicate.ofDocument?_toDocument`: a predicate is read back from its document
- `Predicate.toDocument_unambiguous`: both, for the filters that are sent to stores
-/

namespace ForestQuery

/-! ### Reading -/

/-- The relation with a name in the query language. -/
def Relation.ofOperatorName? (name : String) : Option Relation :=
  [greater, greaterOrEqual, less, lessOrEqual].find? (·.operatorName == name)

/-- The condition that a document says, if it is no group. -/
def Condition.ofDocument? : Json → Option Condition
  | .object [(name, value)] =>
    if name = "$ne" then some (.differs value)
    else (Relation.ofOperatorName? name).map fun relation => .range relation value
  | .object [(options, .string flags), (regex, .string source)] =>
    if options = "$options" ∧ flags = "i" ∧ regex = "$regex" then
      (Pattern.ofSource? source).map .pattern
    else none
  | .object _ => none
  | .array _ => none
  | value => some (.equals value)

namespace Predicate

mutual

/-- The predicate that a document says. -/
def ofDocument? : Json → Option Predicate
  | .object [(key, .array items)] =>
    if key = "$and" then (ofDocuments? items).map .all
    else if key = "$or" then (ofDocuments? items).map .any
    else none
  | .object [(path, value)] => (Condition.ofDocument? value).map (.field path)
  | _ => none

/-- The predicates that documents say. -/
def ofDocuments? : List Json → Option (List Predicate)
  | [] => some []
  | document :: rest =>
    (ofDocument? document).bind fun p => (ofDocuments? rest).map (p :: ·)

end

end Predicate

/-! ### Conditions of terms -/

/-- Whether a value has no parts. -/
def Json.isScalar : Json → Bool
  | array _ => false
  | object _ => false
  | _ => true

/-- A condition as terms make it: a field equals only a value without parts, and a pattern looks for
a text in one of the places. -/
def Condition.IsPlain : Condition → Prop
  | equals value => value.isScalar = true
  | pattern p => ∃ (place : TextMatch) (literal : String), p = place.pattern literal
  | _ => True

/-- A predicate with conditions as terms make them. -/
def Predicate.IsPlain (p : Predicate) : Prop := ∀ c ∈ p.conditions, c.2.IsPlain

theorem TermValue.isScalar_toJson (value : TermValue) : value.toJson.isScalar = true := by
  cases value <;> rfl

/-- What an operator asks is plain. -/
theorem Layout.isPlain_condition (l : Layout) (operator : Operator) (field : String)
    (value : TermValue) : (l.condition operator field value).IsPlain := by
  cases operator with
  | equal => exact value.isScalar_toJson
  | unequal => trivial
  | range relation => trivial
  | text place => exact ⟨place, value.display, rfl⟩

/-- What a term asks is plain. -/
theorem Term.isPlain_of_condition? {term : Term} {l : Layout} {c : String × Condition}
    (h : term.condition? l = some c) : c.2.IsPlain := by
  obtain ⟨operator, -, rfl⟩ := Option.map_eq_some_iff.1 h
  exact l.isPlain_condition operator term.field term.value

/-- What nodes ask is plain. -/
theorem Compilation.isPlain_of_mem_conditionsOf {l : Layout} {nodes : List TermNode}
    {c : String × Condition} (hc : c ∈ Predicate.conditionsOf (ofNodes l nodes).predicates) :
    c.2.IsPlain := by
  rw [predicates_ofNodes, TermNode.conditionsOf_predicates] at hc
  obtain ⟨term, -, hterm⟩ := List.mem_filterMap.1 hc
  exact Term.isPlain_of_condition? hterm

/-! ### Filters -/

/-- The predicates that select records of a store, with whatever layout: the filter of a plan, and
the filter for the descendants of records. -/
inductive Predicate.IsFilter : Predicate → Prop
  /-- The filter of a plan. -/
  | plan {q : Query} {l : Layout} {plan : Plan} (h : (q.assemble l).plan? = some plan) :
    IsFilter plan.filter
  /-- The filter of a descent. -/
  | descent {descent : Descent} {l : Layout} {records : List Record} {filter : Predicate}
    (h : descent.filter? l records = some filter) : IsFilter filter

namespace Predicate

theorem conditionsOf_append (ps qs : List Predicate) :
    conditionsOf (ps ++ qs) = conditionsOf ps ++ conditionsOf qs := by
  induction ps with
  | nil => rfl
  | cons p ps ih => rw [List.cons_append, conditionsOf, conditionsOf, ih, List.append_assoc]

theorem conditionsOf_singleton (p : Predicate) : conditionsOf [p] = p.conditions := by
  rw [conditionsOf, conditionsOf, List.append_nil]

/-- A conjunction has the conditions of what it joins. -/
theorem conditions_conjunction (ps : List Predicate) :
    (conjunction ps).conditions = conditionsOf ps := by
  unfold conjunction
  split
  · next p => rw [conditionsOf_singleton]
  · rw [conditions]

/-- The filter of a descent has the conditions of its predicates. -/
theorem conditions_filterOf {ps : List Predicate} {filter : Predicate}
    (h : Descent.filterOf ps = some filter) : filter.conditions = conditionsOf ps := by
  unfold Descent.filterOf at h
  split at h
  · cases h
  · obtain rfl := Option.some.inj h
    rw [conditions]
  · obtain rfl := Option.some.inj h
    rw [conditions]

/-- Filters are plain. -/
theorem IsFilter.isPlain {p : Predicate} (h : p.IsFilter) : p.IsPlain := by
  intro c hc
  cases h with
  | @plan q l plan hplan =>
    rw [Query.assemble_eq] at hplan
    split at hplan
    · exact nomatch hplan
    · obtain rfl := Option.some.inj hplan
      rw [conditions_conjunction, Query.planPredicates] at hc
      split at hc
      · exact Compilation.isPlain_of_mem_conditionsOf hc
      · rw [conditionsOf_append, conditionsOf_singleton, conditions, List.mem_append] at hc
        obtain hsearch | hskeleton := hc
        · exact Compilation.isPlain_of_mem_conditionsOf hsearch
        · exact Compilation.isPlain_of_mem_conditionsOf hskeleton
  | descent hfilter =>
    rw [conditions_filterOf hfilter] at hc
    exact Compilation.isPlain_of_mem_conditionsOf hc

end Predicate

/-! ### Documents that are equal -/

theorem Json.same_object_of_isScalar {value : Json} (h : value.isScalar = true)
    (members : List (String × Json)) :
    value.same (.object members) = false ∧ (Json.object members).same value = false := by
  cases value with
  | array items => exact nomatch h
  | object members => exact nomatch h
  | null | bool | number | string => exact ⟨rfl, rfl⟩

theorem Json.same_singleton (key key' : String) (a b : Json) :
    (object [(key, a)]).same (object [(key', b)]) = (key == key' && a.same b) := by
  rw [same, sameMembers, sameMembers, Bool.and_true]

theorem Relation.operatorName_beq (r s : Relation) :
    (r.operatorName == s.operatorName) = (r == s) := by
  cases r <;> cases s <;> rfl

/-- Plain conditions are equal exactly if their documents are. -/
theorem Condition.same_toDocument {c d : Condition} (hc : c.IsPlain) (hd : d.IsPlain) :
    c.toDocument.same d.toDocument = c.same d := by
  cases c with
  | equals a =>
    cases d with
    | equals b => rfl
    | differs | range | pattern => exact (Json.same_object_of_isScalar hc _).1
  | differs a =>
    cases d with
    | equals b => exact (Json.same_object_of_isScalar hd _).2
    | differs b => exact Json.same_singleton ..
    | range r b =>
      rw [toDocument, toDocument, Json.same_singleton]
      cases r <;> rfl
    | pattern q => rfl
  | range r a =>
    cases d with
    | equals b => exact (Json.same_object_of_isScalar hd _).2
    | differs b =>
      rw [toDocument, toDocument, Json.same_singleton]
      cases r <;> rfl
    | range s b => rw [toDocument, toDocument, Json.same_singleton, Relation.operatorName_beq, same]
    | pattern q => exact Bool.and_false _
  | pattern p =>
    cases d with
    | equals b => exact (Json.same_object_of_isScalar hd _).2
    | differs b => rfl
    | range r b => exact Bool.and_false _
    | pattern q => simp [toDocument, same, Pattern.same, Json.same, Json.sameMembers]

/-- A plain condition is not written as the members of a group are. -/
theorem Condition.same_array {c : Condition} (hc : c.IsPlain) (items : List Json) :
    c.toDocument.same (.array items) = false ∧ (Json.array items).same c.toDocument = false := by
  cases c with
  | equals value =>
    cases value with
    | array | object => exact nomatch hc
    | null | bool | number | string => exact ⟨rfl, rfl⟩
  | differs | range | pattern => exact ⟨rfl, rfl⟩

namespace Predicate

theorem IsPlain.condition {path : String} {c : Condition} (h : (field path c).IsPlain) :
    c.IsPlain := h _ (List.mem_singleton_self _)

mutual

/-- Plain predicates are equal exactly if their documents are. -/
theorem same_toDocument : {p q : Predicate} → p.IsPlain → q.IsPlain →
    p.toDocument.same q.toDocument = p.same q
  | field path c, field path' d, hp, hq => by
    rw [toDocument, toDocument, Json.same_singleton, same,
      Condition.same_toDocument hp.condition hq.condition]
  | field path c, all qs, hp, _ | field path c, any qs, hp, _ => by
    rw [toDocument, toDocument, Json.same_singleton,
      (Condition.same_array hp.condition _).1, Bool.and_false]
    rfl
  | all ps, field path d, _, hq | any ps, field path d, _, hq => by
    rw [toDocument, toDocument, Json.same_singleton,
      (Condition.same_array hq.condition _).2, Bool.and_false]
    rfl
  | all ps, all qs, hp, hq => by
    rw [toDocument, toDocument, Json.same_singleton, beq_self_eq_true, Bool.true_and, Json.same,
      same, sameItems_toDocuments hp hq]
  | any ps, any qs, hp, hq => by
    rw [toDocument, toDocument, Json.same_singleton, beq_self_eq_true, Bool.true_and, Json.same,
      same, sameItems_toDocuments hp hq]
  | all ps, any qs, _, _ => by rw [toDocument, toDocument, Json.same_singleton]; rfl
  | any ps, all qs, _, _ => by rw [toDocument, toDocument, Json.same_singleton]; rfl

/-- Plain predicates are equal one by one exactly if their documents are. -/
theorem sameItems_toDocuments : {ps qs : List Predicate} →
    (∀ c ∈ conditionsOf ps, c.2.IsPlain) → (∀ c ∈ conditionsOf qs, c.2.IsPlain) →
    Json.sameItems (toDocuments ps) (toDocuments qs) = sameAll ps qs
  | [], [], _, _ => rfl
  | [], _ :: _, _, _ | _ :: _, [], _, _ => rfl
  | p :: ps, q :: qs, hps, hqs => by
    rw [conditionsOf, List.forall_mem_append] at hps hqs
    rw [toDocuments, toDocuments, Json.sameItems, sameAll, same_toDocument hps.1 hqs.1,
      sameItems_toDocuments hps.2 hqs.2]

end

-- a condition that is not plain may be written as a group is
example : (field "$and" (.equals (.array []))).toDocument = (all []).toDocument := rfl

end Predicate

/-! ### Documents that are read back -/

theorem Relation.ofOperatorName?_operatorName (r : Relation) :
    ofOperatorName? r.operatorName = some r := by
  cases r <;> rfl

/-- A plain condition is read back from its document. -/
theorem Condition.ofDocument?_toDocument {c : Condition} (hc : c.IsPlain) :
    ofDocument? c.toDocument = some c := by
  cases c with
  | equals value =>
    cases value with
    | array | object => exact nomatch hc
    | null | bool | number | string => rfl
  | differs value => rfl
  | range r bound =>
    have hne : r.operatorName ≠ "$ne" := by cases r <;> decide
    rw [toDocument, ofDocument?, if_neg hne, Relation.ofOperatorName?_operatorName]
    rfl
  | pattern p =>
    obtain ⟨place, literal, rfl⟩ := hc
    rw [toDocument, ofDocument?, if_pos ⟨rfl, rfl, rfl⟩, Pattern.ofSource?_textMatch]
    rfl

namespace Predicate

/-- An object whose one value is no array says a condition. -/
theorem ofDocument?_singleton {path : String} {value : Json} (h : ∀ items, value ≠ .array items) :
    ofDocument? (.object [(path, value)]) = (Condition.ofDocument? value).map (.field path) := by
  rw [ofDocument?]
  exact h

mutual

/-- A plain predicate is read back from its document. -/
theorem ofDocument?_toDocument : {p : Predicate} → p.IsPlain → ofDocument? p.toDocument = some p
  | field path c, hp => by
    have hne (items : List Json) : c.toDocument ≠ .array items := by
      intro h
      have hsame := (Condition.same_array hp.condition items).1
      rw [h, Json.same_self] at hsame
      exact nomatch hsame
    rw [toDocument, ofDocument?_singleton hne, Condition.ofDocument?_toDocument hp.condition]
    rfl
  | all ps, hp => by
    rw [toDocument, ofDocument?, if_pos rfl, ofDocuments?_toDocuments hp]
    rfl
  | any ps, hp => by
    rw [toDocument, ofDocument?, if_neg (by decide), if_pos rfl, ofDocuments?_toDocuments hp]
    rfl

/-- Plain predicates are read back from their documents. -/
theorem ofDocuments?_toDocuments : {ps : List Predicate} →
    (∀ c ∈ conditionsOf ps, c.2.IsPlain) → ofDocuments? (toDocuments ps) = some ps
  | [], _ => by rw [toDocuments, ofDocuments?]
  | p :: ps, hps => by
    rw [conditionsOf, List.forall_mem_append] at hps
    rw [toDocuments, ofDocuments?, ofDocument?_toDocument hps.1, ofDocuments?_toDocuments hps.2]
    rfl

end

/-- A filter is known from its document. Two filters that can be sent to a store, from any
queries, descents and layouts, have equal documents exactly if they are equal, and each is read back
from its document. -/
theorem toDocument_unambiguous {p q : Predicate} (hp : p.IsFilter) (hq : q.IsFilter) :
    p.toDocument.same q.toDocument = p.same q ∧ ofDocument? p.toDocument = some p :=
  ⟨same_toDocument hp.isPlain hq.isPlain, ofDocument?_toDocument hp.isPlain⟩

/-- Fields may be called as groups and operators are. -/
theorem toDocument_unambiguous_reserved_names :
    let p : Predicate := .all [.field "$and" (.equals (.string "$or")),
      .any [.all [.field "$or" (.pattern (TextMatch.word.pattern "a.b"))],
        .field "$ne" (.range .greater .null)]]
    let q : Predicate := .all [.field "$and" (.differs (.string "$or"))]
    p.IsFilter ∧ q.IsFilter ∧ p.toDocument.same q.toDocument = p.same q ∧
      p.toDocument.same q.toDocument = false ∧ ofDocument? p.toDocument = some p := by
  intro p q
  have hp : p.IsFilter := @IsFilter.plan
    { terms := {
        search := [.leaf ⟨"$and", "=", .text "$or"⟩],
        skeleton := [.group [.leaf ⟨"$or", "~=", .text "a.b"⟩], .leaf ⟨"$ne", ">", .text "x"⟩] } }
    {} _ rfl
  have hq : q.IsFilter := @IsFilter.descent
    (.constant [.leaf ⟨"$and", "!=", .text "$or"⟩]) {} [] _ rfl
  obtain ⟨hsame, hread⟩ := toDocument_unambiguous hp hq
  exact ⟨hp, hq, hsame, hsame.trans rfl, hread⟩

end Predicate

end ForestQuery
