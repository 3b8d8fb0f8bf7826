import ForestQuery.Json.Token
import ForestQuery.Text.Quoted

/-!
# Why a text or a value was refused

A text is refused because it is not a JSON text, or ends too early, or because what it says has the
wrong shape; a value only for its shape. `Mismatch.message` words the mismatches of shape.
-/

namespace ForestQuery.Wire

/-- What stands where something else was wanted. -/
inductive Found
  /-- The null value. -/
  | null
  /-- A truth value. -/
  | bool (value : Bool)
  /-- A number. -/
  | number (value : Number)
  /-- A text. -/
  | string (value : String)
  /-- A sequence. -/
  | sequence
  /-- An object. -/
  | map

/-- What a reader wanted. -/
inductive Wanted
  /-- A text. -/
  | string
  /-- A truth value. -/
  | boolean
  /-- A whole number that is not negative. -/
  | unsigned
  /-- A sequence. -/
  | sequence
  /-- A record of a type. -/
  | record (type : String)

/-- How a well-formed value differs from the shape that was wanted. -/
inductive Mismatch
  /-- A value of another kind. -/
  | kind (found : Found) (wanted : Wanted)
  /-- A negative whole number where only others are allowed. -/
  | negative (value : Int)
  /-- A key without which the record cannot be. -/
  | missing (key : String)
  /-- A key of the record that stands there twice. -/
  | repeated (key : String)
  /-- A sequence that ends before a field without which the record cannot be. -/
  | short (length : Nat) (type : String) (fields : Nat)
  /-- A sequence with more items than the record has fields. -/
  | long (length : Nat)
  /-- A value that is none of the alternatives of a type. -/
  | noAlternative (type : String)

/-- Why a text or a value was refused. -/
inductive Error
  /-- The text is not a JSON text, or not all of it. -/
  | text (fault : Json.Fault)
  /-- The shape is wrong. -/
  | shape (mismatch : Mismatch)

/-- The words for what was found. -/
def Found.describe : Found → String
  | null => "null"
  | bool true => "boolean `true`"
  | bool false => "boolean `false`"
  | number (.int n _) => "integer `" ++ Decimal.intText n ++ "`"
  | number (.float x) => "floating point `" ++ Number.finiteText x ++ "`"
  | string s => "string " ++ Text.quoted s
  | sequence => "sequence"
  | map => "map"

/-- The words for what was wanted. -/
def Wanted.describe : Wanted → String
  | string => "a string"
  | boolean => "a boolean"
  | unsigned => "u64"
  | sequence => "a sequence"
  | record type => "struct " ++ type

/-- The words for a mismatch. -/
def Mismatch.message : Mismatch → String
  | kind found wanted =>
    "invalid type: " ++ found.describe ++ ", expected " ++ wanted.describe
  | negative n =>
    "invalid value: " ++ "integer `" ++ Decimal.intText n ++ "`, expected " ++
      Wanted.unsigned.describe
  | missing key => "missing field `" ++ key ++ "`"
  | repeated key => "duplicate field `" ++ key ++ "`"
  | short length type fields =>
    "invalid length " ++ Decimal.natText length ++ ", expected " ++
      (Wanted.record type).describe ++ " with " ++ Decimal.natText fields ++ " elements"
  | long length =>
    "invalid length " ++ Decimal.natText length ++ ", expected fewer elements in array"
  | noAlternative type => "data did not match any variant of untagged enum " ++ type

end ForestQuery.Wire
