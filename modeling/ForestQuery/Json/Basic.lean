import ForestQuery.Number

/-!
# Documents

A document is a JSON value. The members of an object are kept in the order of their keys, by code
point, and each key occurs once: `Json.put` keeps that order, and `Json.tidy` brings members that
were read in another order, or more than once, into it.

Two documents are equal as values (`Json.same`) if they have the same shape and their numbers are
equal as values.
-/

namespace ForestQuery

/-- A JSON value. -/
inductive Json
  /-- The null value. -/
  | null
  /-- A truth value. -/
  | bool (value : Bool)
  /-- A number. -/
  | number (value : Number)
  /-- A text. -/
  | string (value : String)
  /-- A sequence of values. -/
  | array (items : List Json)
  /-- Values under keys. -/
  | object (members : List (String × Json))

namespace Json

/-- A count; none that is kept in memory lies beyond 64 bits. -/
def ofNat (n : Nat) : Json :=
  match Number.ofInteger? n with
  | some value => .number value
  | none => .null

/-- The value, or null for none. -/
def ofOption : Option Json → Json
  | some value => value
  | none => .null

/-- Members with a value set under a key: in the key's place if it is there, else before the first
later key. -/
def put (key : String) (value : Json) : List (String × Json) → List (String × Json)
  | [] => [(key, value)]
  | (k, v) :: rest =>
    if key = k then (key, value) :: rest
    else if key < k then (key, value) :: (k, v) :: rest
    else (k, v) :: put key value rest

/-- The object with these members; of several under one key the last stays. -/
def ofMembers (members : List (String × Json)) : Json :=
  .object (members.foldl (fun done member => put member.1 member.2 done) [])

/-- The value under a key of an object; other values have no members. -/
def member? (key : String) : Json → Option Json
  | object members => members.lookup key
  | _ => none

mutual

/-- The value with the members of every object in order and without repetitions. -/
def tidy : Json → Json
  | array items => array (tidyItems items)
  | object members => ofMembers (tidyMembers members)
  | scalar => scalar

/-- Every item brought in order. -/
def tidyItems : List Json → List Json
  | [] => []
  | item :: rest => item.tidy :: tidyItems rest

/-- The value of every member brought in order. -/
def tidyMembers : List (String × Json) → List (String × Json)
  | [] => []
  | (key, value) :: rest => (key, value.tidy) :: tidyMembers rest

end

mutual

/-- Equality of values. -/
def same : Json → Json → Bool
  | null, null => true
  | bool a, bool b => a == b
  | number a, number b => a.same b
  | string a, string b => a == b
  | array a, array b => sameItems a b
  | object a, object b => sameMembers a b
  | _, _ => false

/-- Item by item equality of values. -/
def sameItems : List Json → List Json → Bool
  | [], [] => true
  | a :: as, b :: bs => a.same b && sameItems as bs
  | _, _ => false

/-- Member by member equality of keys and values. -/
def sameMembers : List (String × Json) → List (String × Json) → Bool
  | [], [] => true
  | (k, a) :: as, (l, b) :: bs => k == l && a.same b && sameMembers as bs
  | _, _ => false

end

mutual

/-- Every value equals itself. -/
theorem same_self : (value : Json) → value.same value
  | null => rfl
  | bool b => beq_self_eq_true b
  | number n => n.same_self
  | string s => beq_self_eq_true s
  | array items => sameItems_self items
  | object members => sameMembers_self members

/-- Every list of items equals itself. -/
theorem sameItems_self : (items : List Json) → sameItems items items
  | [] => rfl
  | item :: rest => by rw [sameItems, same_self item, sameItems_self rest, Bool.true_and]

/-- Every list of members equals itself. -/
theorem sameMembers_self : (members : List (String × Json)) → sameMembers members members
  | [] => rfl
  | (key, value) :: rest => by
    rw [sameMembers, same_self value, sameMembers_self rest, beq_self_eq_true, Bool.true_and,
      Bool.true_and]

end

/-- A member that was put under a key is found there. -/
theorem lookup_put_self (key : String) (value : Json) (members : List (String × Json)) :
    (put key value members).lookup key = some value := by
  fun_induction put key value members with
  | case1 => exact List.lookup_cons_self
  | case2 v rest => exact List.lookup_cons_self
  | case3 k v rest h hlt => exact List.lookup_cons_self
  | case4 k v rest h hlt ih => rw [List.lookup_cons, beq_eq_false_iff_ne.2 h, ih]

/-- Putting a member leaves what is found under the other keys. -/
theorem lookup_put_of_ne {key other : String} (hne : other ≠ key) (value : Json)
    (members : List (String × Json)) :
    (put key value members).lookup other = members.lookup other := by
  fun_induction put key value members with
  | case1 => rw [List.lookup_cons, beq_eq_false_iff_ne.2 hne]
  | case2 v rest => simp only [List.lookup_cons, beq_eq_false_iff_ne.2 hne]
  | case3 k v rest h hlt => rw [List.lookup_cons, beq_eq_false_iff_ne.2 hne]
  | case4 k v rest h hlt ih => simp only [List.lookup_cons, ih]

end Json

end ForestQuery
