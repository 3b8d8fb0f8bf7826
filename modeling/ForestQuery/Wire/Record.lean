import ForestQuery.Json.Draft
import ForestQuery.Wire.Error

/-!
# Reading records

A record is read from an object under the keys of its fields, in any order and among other keys, or
from a sequence that holds its fields in the order of their declaration. Either way it is read from
the left, and the first thing that is wrong is reported.

A reader takes a draft and the room for containers inside it. Texts allow 127 containers inside one
another; a value in memory sets no bound.
-/

namespace ForestQuery.Wire

open Json (Draft)
open Json.Draft (Room)

/-- Reads a value of a type from a draft. -/
abbrev Reader (α : Type) := Room → Draft → Except Error α

/-- A fault of the text as a reason to refuse it. -/
def ofFault {α : Type} (result : Except Json.Fault α) : Except Error α :=
  result.mapError .text

/-- A mismatch as a reason to refuse a value. -/
def refuse {α : Type} (mismatch : Mismatch) : Except Error α := .error (.shape mismatch)

/-! ### Single values -/

/-- What stands in a draft, for a reader that wanted something else. A container is recognised by
how it opens. -/
def found : Draft → Except Json.Fault Found
  | .null => .ok .null
  | .bool value => .ok (.bool value)
  | .number (some value) => .ok (.number value)
  | .number none => .error .malformed
  | .string (some value) => .ok (.string value)
  | .string none => .error .malformed
  | .array _ _ => .ok .sequence
  | .object _ _ => .ok .map
  | .broken cause => .error cause.read

/-- Refuses a draft for its kind. -/
def wrongKind {α : Type} (draft : Draft) (wanted : Wanted) : Except Error α :=
  match found draft with
  | .ok found => refuse (.kind found wanted)
  | .error fault => .error (.text fault)

/-- Reads a text. -/
def readString : Reader String
  | _, .string (some value) => .ok value
  | _, draft => wrongKind draft .string

/-- Reads a truth value. -/
def readBool : Reader Bool
  | _, .bool value => .ok value
  | _, draft => wrongKind draft .boolean

/-- Reads a count that may be absent. -/
def readCount : Reader (Option UInt64)
  | _, .null => .ok none
  | _, .number (some (.int value fits)) =>
    match (Number.int value fits).toUInt64? with
    | some count => .ok (some count)
    | none => refuse (.negative value)
  | _, draft => wrongKind draft .unsigned

/-- Reads items one after the other. -/
def readEach {α : Type} (item : Reader α) (room : Room) : List Draft → Except Error (List α)
  | [] => .ok []
  | draft :: rest => do
    let value ← item room draft
    let values ← readEach item room rest
    return value :: values

/-- Reads a sequence. -/
def readList {α : Type} (item : Reader α) : Reader (List α)
  | room, .array items ending => do
    let room ← ofFault (Json.Draft.enter room)
    let values ← readEach item room items
    ofFault (Json.Draft.readEnding ending)
    return values
  | _, draft => wrongKind draft .sequence

/-- Reads a value of a type with alternatives: the whole value first, and then the alternative that
it is. -/
def readAlternative {α : Type} (type : String) (alternative? : Json → Option α) : Reader α :=
  fun room draft => do
    let value ← ofFault (draft.read room)
    match alternative? value with
    | some result => return result
    | none => refuse (.noAlternative type)

/-! ### Records -/

/-- A field of a record type. -/
structure Field (α : Type) where
  /-- The key of the field. -/
  key : String
  /-- Whether a record without the field is refused. -/
  required : Bool
  /-- Reads the field and sets it in a record. -/
  read : Room → Draft → α → Except Error α

/-- The field of a record whose value is read by a reader and set by a function. -/
def Field.of {α β : Type} (key : String) (required : Bool) (reader : Reader β)
    (set : β → α → α) : Field α :=
  ⟨key, required, fun room draft record => do return set (← reader room draft) record⟩

/-- A record type as it is read. -/
structure RecordType (α : Type) where
  /-- The name of the type. -/
  name : String
  /-- The fields in the order of declaration. -/
  fields : List (Field α)
  /-- The record before any field is set. -/
  blank : α

namespace RecordType

variable {α : Type}

/-- Sets the fields that members name, and tells which. Other members are skipped. -/
def readMembers (fields : List (Field α)) (room : Room) :
    List (Option String × Draft) → List String → α → Except Error (List String × α)
  | [], seen, record => .ok (seen, record)
  | (none, _) :: _, _, _ => .error (.text .malformed)
  | (some key, value) :: rest, seen, record =>
    match fields.find? (·.key == key) with
    | none => do
      ofFault value.skip
      readMembers fields room rest seen record
    | some field =>
      -- a repeated key is reported whatever stands under it
      if seen.contains key then refuse (.repeated key)
      else do
        let record ← field.read room value record
        readMembers fields room rest (key :: seen) record

/-- The surplus items of a sequence: a reader of text stops at the comma before them, and a value
is refused for its length. -/
def surplus (room : Room) (length : Nat) : Except Error α :=
  match room with
  | some _ => .error (.text .malformed)
  | none => refuse (.long length)

/-- Sets the fields in their order from the items of a sequence. Fields for which no item is left
keep their defaults, unless they are required. -/
def readItems (type : RecordType α) (room : Room) (ending : Option Json.Break) (length : Nat) :
    List (Field α) → List Draft → α → Except Error α
  | [], [], record => do
    ofFault (Json.Draft.readEnding ending)
    return record
  | [], _ :: _, _ => surplus room length
  | field :: fields, [], record => do
    ofFault (Json.Draft.readEnding ending)
    if field.required then refuse (.short length type.name type.fields.length)
    else readItems type room ending length fields [] record
  | field :: fields, item :: items, record => do
    let record ← field.read room item record
    readItems type room ending length fields items record

/-- Reads a record from an object or from a sequence. -/
def read (type : RecordType α) : Reader α
  | room, .object members ending => do
    let room ← ofFault (Json.Draft.enter room)
    let (seen, record) ← readMembers type.fields room members [] type.blank
    ofFault (Json.Draft.readEnding ending)
    -- of the fields that are missing the first in the declaration is reported
    match type.fields.find? fun field => field.required && !seen.contains field.key with
    | some field => refuse (.missing field.key)
    | none => return record
  | room, .array items ending => do
    let room ← ofFault (Json.Draft.enter room)
    readItems type room ending items.length type.fields items type.blank
  | _, draft => wrongKind draft (.record type.name)

end RecordType

/-! ### Whole texts and values -/

/-- The containers that a text may open one inside the other. -/
def textRoom : Room := some 127

/-- Reads a whole text. What follows the value is looked at last. -/
def ofText {α : Type} (reader : Reader α) (text : String) : Except Error α := do
  let (draft, more) := Draft.ofText text
  let value ← reader textRoom draft
  if more then .error (.text .malformed) else return value

/-- Reads a value. -/
def ofValue {α : Type} (reader : Reader α) (value : Json) : Except Error α :=
  reader none (Draft.ofJson value)

end ForestQuery.Wire
