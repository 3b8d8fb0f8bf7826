import ForestQuery.Json.Basic

/-!
# Counters of selects

Eight counters tell what selects have done. They only count up, in 64-bit words, and start again
from zero after the greatest word.
-/

namespace ForestQuery

/-- What is counted. -/
inductive Counter
  /-- Selects that reached the store. -/
  | selectsExecuted
  /-- Selects that had nothing to look for. -/
  | selectsShortCircuited
  /-- Selects that failed. -/
  | selectsFailed
  /-- Terms without a meaning. -/
  | termsDropped
  /-- Finds for results. -/
  | primaryQueries
  /-- Finds for descendants. -/
  | descendantQueries
  /-- Descendants that stand somewhere in a result. -/
  | descendantsAttached
  /-- Descendants that were fetched and stand nowhere. -/
  | descendantsOrphaned
deriving DecidableEq

namespace Counter

/-- All counters, in the order of their names. -/
def all : List Counter :=
  [descendantQueries, descendantsAttached, descendantsOrphaned, primaryQueries, selectsExecuted,
    selectsFailed, selectsShortCircuited, termsDropped]

/-- The name of a counter. -/
def name : Counter → String
  | selectsExecuted => "selects_executed"
  | selectsShortCircuited => "selects_short_circuited"
  | selectsFailed => "selects_failed"
  | termsDropped => "terms_dropped"
  | primaryQueries => "primary_queries"
  | descendantQueries => "descendant_queries"
  | descendantsAttached => "descendants_attached"
  | descendantsOrphaned => "descendants_orphaned"

/-- The counter with a name. -/
def ofName? (name : String) : Option Counter := all.find? (·.name == name)

end Counter

/-- The states of all counters. -/
structure Counters where
  /-- Selects that reached the store. -/
  selectsExecuted : UInt64 := 0
  /-- Selects that had nothing to look for. -/
  selectsShortCircuited : UInt64 := 0
  /-- Selects that failed. -/
  selectsFailed : UInt64 := 0
  /-- Terms without a meaning. -/
  termsDropped : UInt64 := 0
  /-- Finds for results. -/
  primaryQueries : UInt64 := 0
  /-- Finds for descendants. -/
  descendantQueries : UInt64 := 0
  /-- Descendants that stand somewhere in a result. -/
  descendantsAttached : UInt64 := 0
  /-- Descendants that were fetched and stand nowhere. -/
  descendantsOrphaned : UInt64 := 0
deriving DecidableEq

namespace Counters

/-- The state of one counter. -/
def get (c : Counters) : Counter → UInt64
  | .selectsExecuted => c.selectsExecuted
  | .selectsShortCircuited => c.selectsShortCircuited
  | .selectsFailed => c.selectsFailed
  | .termsDropped => c.termsDropped
  | .primaryQueries => c.primaryQueries
  | .descendantQueries => c.descendantQueries
  | .descendantsAttached => c.descendantsAttached
  | .descendantsOrphaned => c.descendantsOrphaned

/-- The counters after one has counted further. -/
def add (c : Counters) (counter : Counter) (n : UInt64) : Counters :=
  match counter with
  | .selectsExecuted => { c with selectsExecuted := c.selectsExecuted + n }
  | .selectsShortCircuited => { c with selectsShortCircuited := c.selectsShortCircuited + n }
  | .selectsFailed => { c with selectsFailed := c.selectsFailed + n }
  | .termsDropped => { c with termsDropped := c.termsDropped + n }
  | .primaryQueries => { c with primaryQueries := c.primaryQueries + n }
  | .descendantQueries => { c with descendantQueries := c.descendantQueries + n }
  | .descendantsAttached => { c with descendantsAttached := c.descendantsAttached + n }
  | .descendantsOrphaned => { c with descendantsOrphaned := c.descendantsOrphaned + n }

/-- Counting moves one counter and leaves the others. -/
theorem get_add (c : Counters) (counter other : Counter) (n : UInt64) :
    (c.add counter n).get other = if other = counter then c.get other + n else c.get other := by
  cases counter <;> cases other <;> rfl

/-- All counters under their names. -/
def toJson (c : Counters) : Json :=
  .object (Counter.all.map fun counter => (counter.name, .number (.ofUInt64 (c.get counter))))

end Counters

end ForestQuery
