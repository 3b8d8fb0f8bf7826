import ForestQuery.Json.Path

/-!
# Where a dotted path leads

A path names the keys between its dots, and it leads down from object to object by these keys. What
is found at a path is what it leads to, so nothing is found below a value that is no object, and
nothing where a key is missing.

## Key results

- `Path.names_iff`: the keys of a path are those that give the path when joined by dots
- `Json.descend?_eq_some_iff`: going down finds what keys lead to
- `Json.at?_eq_some_iff`: what is found at a path is what the path leads to
-/

namespace ForestQuery

namespace Path

/-- A path names keys if it is these keys joined by dots, and no key has a dot itself. -/
structure Names (path : String) (keys : List String) : Prop where
  /-- There is a key. -/
  ne_nil : keys ≠ []
  /-- The keys have no dots. -/
  dotless : ∀ key ∈ keys, '.' ∉ key.toList
  /-- The path is the keys with dots between them. -/
  joined : ".".intercalate keys = path

theorem splitDots_eq_splitOn (cs : List Char) : splitDots cs = cs.splitOn '.' := by
  induction cs with
  | nil => rfl
  | cons c rest ih =>
    obtain ⟨part, parts, hsplit⟩ := List.exists_cons_of_ne_nil (splitDots_ne_nil rest)
    rw [splitDots, List.splitOn_cons_eq_if_modifyHead, ← ih, hsplit]
    simp

theorem not_mem_of_mem_splitDots {cs : List Char} : ∀ part ∈ splitDots cs, '.' ∉ part := by
  induction cs with
  | nil => simp [splitDots]
  | cons c rest ih =>
    obtain ⟨part, parts, hsplit⟩ := List.exists_cons_of_ne_nil (splitDots_ne_nil rest)
    rw [hsplit, List.forall_mem_cons] at ih
    rw [splitDots, hsplit]
    dsimp only
    split
    · rw [List.forall_mem_cons, List.forall_mem_cons]
      exact ⟨List.not_mem_nil, ih⟩
    · next hc =>
      rw [List.forall_mem_cons, List.mem_cons, not_or]
      exact ⟨⟨Ne.symm hc, ih.1⟩, ih.2⟩

/-- The keys of a path are those that it names. -/
theorem names_iff {path : String} {ks : List String} : Names path ks ↔ keys path = ks := by
  constructor
  · intro hnames
    have hparts : ∀ part ∈ ks.map String.toList, '.' ∉ part := by
      rw [List.forall_mem_map]
      exact hnames.dotless
    have hne : ks.map String.toList ≠ [] := by simpa using hnames.ne_nil
    -- splitting undoes joining where no key has a dot
    rw [keys, ← hnames.joined, String.toList_intercalate, splitDots_eq_splitOn]
    rw [show ".".toList = ['.'] from rfl, List.splitOn_intercalate '.' hparts hne, List.map_map]
    simp [Function.comp_def]
  · intro hkeys
    subst hkeys
    refine ⟨?_, ?_, ?_⟩
    · simpa [keys] using splitDots_ne_nil path.toList
    · rw [keys, List.forall_mem_map]
      intro part hpart
      rw [String.toList_ofList]
      exact not_mem_of_mem_splitDots part hpart
    · rw [← String.toList_inj, String.toList_intercalate, keys, List.map_map]
      simp [Function.comp_def, splitDots_eq_splitOn, List.intercalate_splitOn]

end Path

namespace Json

/-- Keys lead from a value to another one: each is the key of a member of an object, and the next
one goes on from the value of that member. -/
inductive LeadsTo : Json → List String → Json → Prop
  /-- No keys lead to the value itself. -/
  | here (value : Json) : LeadsTo value [] value
  /-- A key leads to the value of the member under it, and the others lead on from there. -/
  | member {members : List (String × Json)} {key : String} {keys : List String}
    {value found : Json} (hmember : members.lookup key = some value)
    (hrest : LeadsTo value keys found) : LeadsTo (.object members) (key :: keys) found

/-- Going down finds what the keys lead to. -/
theorem descend?_eq_some_iff {document found : Json} {keys : List String} :
    document.descend? keys = some found ↔ document.LeadsTo keys found := by
  constructor
  · intro hdescend
    induction keys generalizing document with
    | nil =>
      obtain rfl := Option.some.inj hdescend
      exact .here document
    | cons key keys ih =>
      obtain ⟨value, hmember, hrest⟩ := Option.bind_eq_some_iff.1 hdescend
      cases document with
      | object members => exact .member hmember (ih hrest)
      | null | bool | number | string | array => cases hmember
  · intro hleads
    induction hleads with
    | here value => rfl
    | member hmember hrest ih =>
      rw [descend?, member?, hmember, Option.bind_some, ih]

/-- What is found at a path is what the keys lead to that it names. -/
theorem at?_eq_some_iff {document found : Json} {path : String} :
    document.at? path = some found ↔
      ∃ keys, Path.Names path keys ∧ document.LeadsTo keys found := by
  simp only [at?, descend?_eq_some_iff, Path.names_iff]
  constructor
  · intro hleads
    exact ⟨_, rfl, hleads⟩
  · intro hleads
    obtain ⟨keys, rfl, hleads⟩ := hleads
    exact hleads

end Json

end ForestQuery
