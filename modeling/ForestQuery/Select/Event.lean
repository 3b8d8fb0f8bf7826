import ForestQuery.Select.Error

/-!
# Events of a select

What a select logs, step by step. Every event has a name and carries the counts that it reports.
-/

namespace ForestQuery

/-- The names of events. -/
inductive EventName
  /-- A select begins. -/
  | selectStart
  /-- No search term means anything, so nothing is looked for. -/
  | selectShortCircuit
  /-- Terms without a meaning were dropped. -/
  | termsDropped
  /-- The find for the results has returned. -/
  | primaryQueryComplete
  /-- The find for the descendants has returned. -/
  | descendantQueryComplete
  /-- The descendants were linked. -/
  | treeMerged
  /-- Descendants were fetched that stand nowhere in the result. -/
  | descendantsOrphaned
  /-- A select has succeeded. -/
  | selectComplete
  /-- A select has failed. -/
  | selectFailed
deriving DecidableEq

namespace EventName

/-- All names. -/
def all : List EventName :=
  [selectStart, selectShortCircuit, termsDropped, primaryQueryComplete, descendantQueryComplete,
    treeMerged, descendantsOrphaned, selectComplete, selectFailed]

/-- The name as it is logged. -/
def text : EventName → String
  | selectStart => "SELECT_START"
  | selectShortCircuit => "SELECT_SHORT_CIRCUIT"
  | termsDropped => "TERMS_DROPPED"
  | primaryQueryComplete => "PRIMARY_QUERY_COMPLETE"
  | descendantQueryComplete => "DESCENDANT_QUERY_COMPLETE"
  | treeMerged => "TREE_MERGED"
  | descendantsOrphaned => "DESCENDANTS_ORPHANED"
  | selectComplete => "SELECT_COMPLETE"
  | selectFailed => "SELECT_FAILED"

/-- The words of the log line. -/
def message : EventName → String
  | selectStart => "select start"
  | selectShortCircuit => "no usable search terms"
  | termsDropped => "unregistered operators dropped"
  | primaryQueryComplete => "primary query complete"
  | descendantQueryComplete => "descendant query complete"
  | treeMerged => "descendants linked"
  | descendantsOrphaned => "descendants not reachable from a primary result"
  | selectComplete => "select complete"
  | selectFailed => "select failed"

/-- Whether the event reports a failure. -/
def isFailure : EventName → Bool
  | selectFailed => true
  | _ => false

/-- Whether the event reports what the caller may have got wrong. -/
def isWarning : EventName → Bool
  | termsDropped | descendantsOrphaned => true
  | _ => false

/-- The level of the log line. -/
def level (name : EventName) : String := if name.isFailure then "WARN" else "DEBUG"

end EventName

/-- An event with what it reports. -/
inductive Event
  /-- A select begins, with so many search and skeleton terms at the top. -/
  | selectStart (searchTerms skeletonTerms : Nat)
  /-- No search term means anything. -/
  | selectShortCircuit
  /-- So many terms were dropped. -/
  | termsDropped (dropped : Nat)
  /-- The find for the results has returned so many. -/
  | primaryQueryComplete (results : Nat)
  /-- The find for the descendants has returned so many. -/
  | descendantQueryComplete (descendants : Nat)
  /-- So many descendants were linked under so many roots. -/
  | treeMerged (roots attached : Nat)
  /-- So many descendants stand nowhere. -/
  | descendantsOrphaned (orphaned : Nat)
  /-- A select has succeeded with so many roots. -/
  | selectComplete (roots : Nat)
  /-- A select has failed. -/
  | selectFailed (error : SelectError)
deriving DecidableEq

namespace Event

/-- The name of an event. -/
def name : Event → EventName
  | selectStart _ _ => .selectStart
  | selectShortCircuit => .selectShortCircuit
  | termsDropped _ => .termsDropped
  | primaryQueryComplete _ => .primaryQueryComplete
  | descendantQueryComplete _ => .descendantQueryComplete
  | treeMerged _ _ => .treeMerged
  | descendantsOrphaned _ => .descendantsOrphaned
  | selectComplete _ => .selectComplete
  | selectFailed _ => .selectFailed

/-- What an event reports, under the keys of the log line. -/
def fields : Event → List (String × Json)
  | selectStart searchTerms skeletonTerms =>
    [("search_terms", .ofNat searchTerms), ("skeleton_terms", .ofNat skeletonTerms)]
  | selectShortCircuit => []
  | termsDropped dropped => [("dropped", .ofNat dropped)]
  | primaryQueryComplete results => [("results", .ofNat results)]
  | descendantQueryComplete descendants => [("descendants", .ofNat descendants)]
  | treeMerged roots attached => [("attached", .ofNat attached), ("roots", .ofNat roots)]
  | descendantsOrphaned orphaned => [("orphaned", .ofNat orphaned)]
  | selectComplete roots => [("roots", .ofNat roots)]
  | selectFailed error =>
    [("code", .string error.code), ("error", .string error.display), ("stage", .string error.stage)]

/-- The log line of an event. -/
def toJson (e : Event) : Json :=
  .ofMembers ([("event", .string e.name.text), ("level", .string e.name.level),
    ("message", .string e.name.message)] ++ e.fields)

end Event

end ForestQuery
