import ForestQuery.Json.Path
import ForestQuery.Predicate.Basic

/-!
# Which documents a predicate matches

A field is found by its dotted path. Numbers compare by their places in the binary format whatever
their kind, texts by code points, and nothing else compares. A field that is a sequence equals a
value that is not one if one of its items does, and a pattern matches a sequence if it matches one
of its texts. A missing field equals only null, and stands in no relation to any bound. Which
patterns can be matched is up to `compiles`.
-/

namespace ForestQuery

/-- Equality of a stored value with the value of a condition: numbers by their places. -/
def Json.equalsValue : Json → Json → Bool
  | .number a, .number b => a.toBinary64.compare? b.toBinary64 == some .eq
  | a, b => a.same b

/-- The order of a stored value and a bound; only two numbers or two texts have one. -/
def Json.compare? : Json → Json → Option Ordering
  | .number a, .number b => a.toBinary64.compare? b.toBinary64
  | .string a, .string b => some (compareOfLessAndEq a b)
  | _, _ => none

namespace Condition

/-- Whether a field equals a value. -/
def equalsField : Option Json → Json → Bool
  | none, .null => true
  | none, _ => false
  | some (.array items), .array expected => (Json.array items).equalsValue (.array expected)
  | some (.array items), expected => items.any (·.equalsValue expected)
  | some value, expected => value.equalsValue expected

/-- Whether a pattern matches a value, as a text. -/
def matchesText (compiles : String → Bool) (p : Pattern) : Json → Bool
  | .string s => p.isMatch compiles s
  | _ => false

/-- Whether the condition holds of a field. -/
def holds (compiles : String → Bool) (actual : Option Json) : Condition → Bool
  | equals value => equalsField actual value
  | differs value => !equalsField actual value
  | range relation bound => (actual.bind (·.compare? bound)).any relation.admits
  | pattern p =>
    match actual with
    | some (.array items) => items.any (matchesText compiles p)
    | some value => matchesText compiles p value
    | none => false

end Condition

namespace Predicate

mutual

/-- Whether a document satisfies the predicate. -/
def isMatch (compiles : String → Bool) (document : Json) : Predicate → Bool
  | field path condition => condition.holds compiles (document.at? path)
  | all children => allMatch compiles document children
  | any children => anyMatch compiles document children

/-- Whether a document satisfies every predicate. -/
def allMatch (compiles : String → Bool) (document : Json) : List Predicate → Bool
  | [] => true
  | p :: rest => p.isMatch compiles document && allMatch compiles document rest

/-- Whether a document satisfies some predicate. -/
def anyMatch (compiles : String → Bool) (document : Json) : List Predicate → Bool
  | [] => false
  | p :: rest => p.isMatch compiles document || anyMatch compiles document rest

end

variable (compiles : String → Bool) (document : Json)

theorem allMatch_eq_all (ps : List Predicate) :
    allMatch compiles document ps = ps.all (isMatch compiles document) := by
  induction ps with
  | nil => rfl
  | cons p rest ih => rw [allMatch, ih, List.all_cons]

theorem anyMatch_eq_any (ps : List Predicate) :
    anyMatch compiles document ps = ps.any (isMatch compiles document) := by
  induction ps with
  | nil => rfl
  | cons p rest ih => rw [anyMatch, ih, List.any_cons]

end Predicate

end ForestQuery
