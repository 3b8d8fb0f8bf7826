import ForestQuery.Json.Token

/-!
# Drafts

A draft is what a JSON text says as far as it can be read: a value in which one place may be broken,
everything to the right of that place being absent. Readers go through a draft from the left and
report the first thing that is wrong for them, so a reader that wants a text where a sequence opens
says so even if the sequence is never closed.

`Draft.ofText` makes the draft of a text, `Draft.ofJson` that of a value, and `Draft.read` turns a
draft back into a value: `read_ofJson` says that nothing is lost on the way.
-/

namespace ForestQuery.Json

/-- A value as far as it can be read. -/
inductive Draft
  /-- The null value. -/
  | null
  /-- A truth value. -/
  | bool (value : Bool)
  /-- A number, with its value if there is one. -/
  | number (value : Option Number)
  /-- A string, with its text if there is one. -/
  | string (value : Option String)
  /-- A sequence, closed or broken off after its items. -/
  | array (items : List Draft) (ending : Option Break)
  /-- Values under keys, closed or broken off after its members. -/
  | object (members : List (Option String × Draft)) (ending : Option Break)
  /-- A value that breaks off. -/
  | broken (cause : Break)

namespace Draft

/-! ### From tokens -/

/-- A sequence or an object under construction, with what it holds so far, the newest first. -/
inductive Container
  /-- A sequence. -/
  | array (items : List Draft)
  /-- An object, and the last key read. -/
  | object (members : List (Option String × Draft)) (key : Option String)

/-- What the next token may be. -/
inductive Expected
  /-- A value. -/
  | value
  /-- The first item of a sequence, or its end. -/
  | firstItem
  /-- A comma, or the end of the innermost container. -/
  | separator
  /-- The first key of an object, or its end. -/
  | firstKey
  /-- A key. -/
  | key
  /-- A colon. -/
  | colon

/-- A draft in the making: the open containers, the innermost first, and what may follow. -/
structure Builder where
  /-- The open containers. -/
  containers : List Container
  /-- What the next token may be. -/
  expected : Expected

/-- The state after a token: more is needed, or the whole draft. -/
inductive Progress
  /-- The value is not complete. -/
  | more (builder : Builder)
  /-- The value is complete, or broken off. -/
  | done (draft : Draft)

/-- A container around its last value, broken off with it. -/
def Container.around (value : Draft) (cause : Break) : Container → Draft
  | array items => .array (items.reverse ++ [value]) (some cause)
  | object members key => .object (members.reverse ++ [(key, value)]) (some cause)

/-- A container broken off after what it holds. -/
def Container.cut (cause : Break) : Container → Draft
  | array items => .array items.reverse (some cause)
  | object members _ => .object members.reverse (some cause)

/-- A container with one more value. -/
def Container.add (value : Draft) : Container → Container
  | array items => .array (value :: items)
  | object members key => .object ((key, value) :: members) key

/-- The whole draft when the value under way breaks off. -/
def breakValue (containers : List Container) (value : Draft) (cause : Break) : Draft :=
  containers.foldl (fun inner container => container.around inner cause) value

/-- The whole draft when a value was due and the text breaks off. -/
def breakHere (containers : List Container) (cause : Break) : Draft :=
  breakValue containers (.broken cause) cause

/-- The whole draft when the innermost container breaks off between its values. -/
def breakContainer (containers : List Container) (cause : Break) : Draft :=
  match containers with
  | [] => .broken cause
  | inner :: outer => breakValue outer (inner.cut cause) cause

/-- The whole draft when the text breaks off where something was expected. -/
def Builder.breakOff (b : Builder) (cause : Break) : Draft :=
  match b.expected with
  | .value | .colon => breakHere b.containers cause
  | .firstItem | .separator | .firstKey | .key => breakContainer b.containers cause

/-- The state after a complete value. -/
def complete (containers : List Container) (value : Draft) : Progress :=
  match containers with
  | [] => .done value
  | inner :: outer => .more ⟨inner.add value :: outer, .separator⟩

/-- The state after a token that starts a value. -/
def startValue (containers : List Container) : Token → Progress
  | .null => complete containers .null
  | .bool value => complete containers (.bool value)
  | .number value => complete containers (.number value)
  | .string value => complete containers (.string value)
  | .openArray => .more ⟨.array [] :: containers, .firstItem⟩
  | .openObject => .more ⟨.object [] none :: containers, .firstKey⟩
  | .brokenString cause | .brokenWord cause => .done (breakHere containers cause)
  | _ => .done (breakHere containers (.both .malformed))

/-- The state after a token where a key was due. -/
def startMember (containers : List Container) : Token → Progress
  | .string key =>
    match containers with
    | .object members _ :: outer => .more ⟨.object members key :: outer, .colon⟩
    -- a key is due in objects only
    | _ => .done (breakContainer containers (.both .malformed))
  | .brokenString cause => .done (breakContainer containers cause)
  | _ => .done (breakContainer containers (.both .malformed))

/-- The state after one more token. -/
def Builder.step (b : Builder) (token : Token) : Progress :=
  match b.expected, token, b.containers with
  | .value, _, containers => startValue containers token
  -- an empty sequence may close at once, but not after a comma
  | .firstItem, .closeArray, .array items :: outer =>
    complete outer (.array items.reverse none)
  | .firstItem, _, containers => startValue containers token
  | .separator, .comma, .array items :: outer => .more ⟨.array items :: outer, .value⟩
  | .separator, .comma, .object members key :: outer =>
    .more ⟨.object members key :: outer, .key⟩
  | .separator, .closeArray, .array items :: outer =>
    complete outer (.array items.reverse none)
  | .separator, .closeObject, .object members _ :: outer =>
    complete outer (.object members.reverse none)
  | .firstKey, .closeObject, .object members _ :: outer =>
    complete outer (.object members.reverse none)
  | .firstKey, _, containers | .key, _, containers => startMember containers token
  | .colon, .colon, containers => .more ⟨containers, .value⟩
  | _, _, _ => .done (b.breakOff (.both .malformed))

/-- The draft that tokens make from a state on, and the tokens after it. -/
def Builder.run (b : Builder) : List Token → Draft × List Token
  | [] => (b.breakOff (.both .endOfText), [])
  | token :: rest =>
    match b.step token with
    | .more next => next.run rest
    | .done draft => (draft, rest)

/-- The draft of a text, and whether anything but white space follows it. -/
def ofText (text : String) : Draft × Bool :=
  let result := (Builder.mk [] .value).run (tokens text.toList)
  (result.1, !result.2.isEmpty)

/-! ### From values and back -/

mutual

/-- The draft of a value. -/
def ofJson : Json → Draft
  | .null => .null
  | .bool value => .bool value
  | .number value => .number (some value)
  | .string value => .string (some value)
  | .array items => .array (ofItems items) none
  | .object members => .object (ofMembers members) none

/-- The drafts of items. -/
def ofItems : List Json → List Draft
  | [] => []
  | item :: rest => ofJson item :: ofItems rest

/-- The drafts of members. -/
def ofMembers : List (String × Json) → List (Option String × Draft)
  | [] => []
  | (key, value) :: rest => (some key, ofJson value) :: ofMembers rest

end

/-- How many more containers may be opened one inside the other; none sets no bound. -/
abbrev Room := Option Nat

/-- The room inside a container that is opened. -/
def enter : Room → Except Fault Room
  | none => .ok none
  | some 0 => .error .malformed
  | some (n + 1) => .ok (some n)

/-- A container's end for a reader of its values. -/
def readEnding : Option Break → Except Fault Unit
  | none => .ok ()
  | some cause => .error cause.read

mutual

/-- The value of a draft, its members as written, or the first fault. -/
def read (room : Room) : Draft → Except Fault Json
  | .null => .ok .null
  | .bool value => .ok (.bool value)
  | .number (some value) => .ok (.number value)
  | .number none => .error .malformed
  | .string (some value) => .ok (.string value)
  | .string none => .error .malformed
  | .array items ending => do
    let room ← enter room
    let items ← readItems room items
    readEnding ending
    return .array items
  | .object members ending => do
    let room ← enter room
    let members ← readMembers room members
    readEnding ending
    return .object members
  | .broken cause => .error cause.read

/-- The values of items. -/
def readItems (room : Room) : List Draft → Except Fault (List Json)
  | [] => .ok []
  | item :: rest => do
    let value ← read room item
    let values ← readItems room rest
    return value :: values

/-- The members as written. -/
def readMembers (room : Room) :
    List (Option String × Draft) → Except Fault (List (String × Json))
  | [] => .ok []
  | (none, _) :: _ => .error .malformed
  | (some key, value) :: rest => do
    let value ← read room value
    let members ← readMembers room rest
    return (key, value) :: members

end

mutual

/-- Goes past a draft without a look at its numbers and texts; none, or the first fault. -/
def skip : Draft → Except Fault Unit
  | .array items ending => do
    skipItems items
    match ending with
    | none => return ()
    | some cause => .error cause.skipped
  | .object members ending => do
    skipMembers members
    match ending with
    | none => return ()
    | some cause => .error cause.skipped
  | .broken cause => .error cause.skipped
  | _ => .ok ()

/-- Goes past items. -/
def skipItems : List Draft → Except Fault Unit
  | [] => .ok ()
  | item :: rest => do
    skip item
    skipItems rest

/-- Goes past members. -/
def skipMembers : List (Option String × Draft) → Except Fault Unit
  | [] => .ok ()
  | (_, value) :: rest => do
    skip value
    skipMembers rest

end

mutual

/-- Reading the draft of a value gives the value back. -/
theorem read_ofJson : (value : Json) → read none (ofJson value) = .ok value
  | .null | .bool _ | .number _ | .string _ => rfl
  | .array items => by
    simp [ofJson, read, enter, readEnding, readItems_ofItems items, bind, Except.bind, pure,
      Except.pure]
  | .object members => by
    simp [ofJson, read, enter, readEnding, readMembers_ofMembers members, bind, Except.bind, pure,
      Except.pure]

/-- Reading the drafts of items gives the items back. -/
theorem readItems_ofItems : (items : List Json) → readItems none (ofItems items) = .ok items
  | [] => rfl
  | item :: rest => by
    rw [ofItems, readItems, read_ofJson item, readItems_ofItems rest]
    rfl

/-- Reading the drafts of members gives the members back. -/
theorem readMembers_ofMembers : (members : List (String × Json)) →
    readMembers none (ofMembers members) = .ok members
  | [] => rfl
  | (key, value) :: rest => by
    rw [ofMembers, readMembers, read_ofJson value, readMembers_ofMembers rest]
    rfl

end

end Draft

/-- The document that a text holds; none unless the text is well formed. -/
def ofText? (text : String) : Option Json :=
  match Draft.ofText text with
  | (draft, false) => (Draft.read none draft).toOption.map tidy
  | (_, true) => none

end ForestQuery.Json
