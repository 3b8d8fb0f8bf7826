import ForestQuery.Json.Path
import ForestQuery.Wire.Record

/-!
# Layout of stored records

Every stored record carries its place in the hierarchy in a sub-object, the skeleton. A layout names
the key of the skeleton and the keys inside it. The dotted paths of the bounds are the boundary
fields, which range operators treat in their own way.
-/

namespace ForestQuery

/-- Where stored records keep their skeletons. -/
structure Layout where
  /-- The key of the skeleton. -/
  skeletonKey : String := "_digger"
  /-- The key of the record's own id. -/
  idKey : String := "diggerid"
  /-- The key of the parent's id. -/
  parentKey : String := "diggerparentid"
  /-- The key of the left bound. -/
  leftKey : String := "left"
  /-- The key of the right bound. -/
  rightKey : String := "right"
  /-- What is set before the paths by which descendants are looked for. -/
  treePrefix : String := ""
deriving DecidableEq

namespace Layout

/-- The path of the left bound. -/
def leftField (l : Layout) : String := Path.join l.skeletonKey l.leftKey

/-- The path of the right bound. -/
def rightField (l : Layout) : String := Path.join l.skeletonKey l.rightKey

/-- The path of the id. -/
def idField (l : Layout) : String := Path.join l.skeletonKey l.idKey

/-- The path of the parent's id. -/
def parentField (l : Layout) : String := Path.join l.skeletonKey l.parentKey

/-- The written form of a layout. -/
def toJson (l : Layout) : Json :=
  .object [("id_key", .string l.idKey), ("left_key", .string l.leftKey),
    ("parent_key", .string l.parentKey), ("right_key", .string l.rightKey),
    ("skeleton_key", .string l.skeletonKey), ("tree_prefix", .string l.treePrefix)]

/-- A layout as a record. -/
def recordType : Wire.RecordType Layout where
  name := "SelectConfig"
  fields := [
    .of "skeleton_key" false Wire.readString fun skeletonKey l => { l with skeletonKey },
    .of "id_key" false Wire.readString fun idKey l => { l with idKey },
    .of "parent_key" false Wire.readString fun parentKey l => { l with parentKey },
    .of "left_key" false Wire.readString fun leftKey l => { l with leftKey },
    .of "right_key" false Wire.readString fun rightKey l => { l with rightKey },
    .of "tree_prefix" false Wire.readString fun treePrefix l => { l with treePrefix }]
  blank := {}

/-- Why a layout file gives no layout. -/
inductive FileError
  /-- There is no such file. -/
  | notFound
  /-- Its bytes are not a text. -/
  | notText
  /-- Its text was refused. -/
  | refused (reason : Wire.Error)

/-- Reads a layout from a text. -/
def ofText (text : String) : Except Wire.Error Layout := Wire.ofText recordType.read text

/-- Reads a layout from a file with these bytes; none if there is no file. -/
def ofFile : Option ByteArray → Except FileError Layout
  | none => .error .notFound
  | some bytes =>
    match String.fromUTF8? bytes with
    | none => .error .notText
    | some text => (ofText text).mapError .refused

end Layout

end ForestQuery
