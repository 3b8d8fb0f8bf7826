import ForestQuery.Store.Basic

/-!
# Why a select fails

A select fails if a store fails it, at one of three stages, or if a record that should be expanded
has no skeleton. An error of the store stays with the error of the select.
-/

namespace ForestQuery

/-- Why a select failed. -/
inductive SelectError
  /-- No collection was handed out. -/
  | acquisition (cause : StoreError)
  /-- The find for the results failed. -/
  | primaryQuery (cause : StoreError)
  /-- The find for their descendants failed. -/
  | descendantQuery (cause : StoreError)
  /-- A result that should be expanded has no usable skeleton. -/
  | malformedRecord (reason : String)
deriving DecidableEq

namespace SelectError

/-- The code of an error. -/
def code : SelectError → String
  | acquisition _ => "SELECT_ACQUISITION_FAILED"
  | primaryQuery _ => "SELECT_PRIMARY_QUERY_FAILED"
  | descendantQuery _ => "SELECT_DESCENDANT_QUERY_FAILED"
  | malformedRecord _ => "SELECT_MALFORMED_RECORD"

/-- The stage at which a select failed. -/
def stage : SelectError → String
  | acquisition _ => "acquire"
  | primaryQuery _ => "primary"
  | descendantQuery _ => "descendants"
  | malformedRecord _ => "link"

/-- The error of the store, if there is one. -/
def storeError? : SelectError → Option StoreError
  | acquisition cause | primaryQuery cause | descendantQuery cause => some cause
  | malformedRecord _ => none

/-- The words for an error, those of the store if it failed. -/
def message : SelectError → String
  | acquisition cause | primaryQuery cause | descendantQuery cause => cause.display
  | malformedRecord reason => reason

/-- The error for a log line. -/
def display (e : SelectError) : String := "[ERROR] " ++ e.code ++ ": " ++ e.message

/-- The error of a result without a skeleton under the key of a layout. -/
def noSkeleton (l : Layout) : SelectError :=
  malformedRecord ("result without a usable " ++ l.skeletonKey ++ " skeleton")

/-- The error with all that is known of it. -/
def toJson (e : SelectError) : Json :=
  .object [("display", .string e.display), ("display_code", .string e.code),
    ("error", .string e.code), ("message", .string e.message),
    ("source", .ofOption (e.storeError?.map fun cause => .string cause.display)),
    ("stage", .string e.stage), ("store", .ofOption (e.storeError?.map (·.toJson)))]

end SelectError

end ForestQuery
