import ForestQuery.Predicate.Matching
import ForestQuery.Store.Basic

/-!
# Stores in memory

A collection in memory answers a find with the documents that match its filter, in the order of
their insertion, up to its limit, and each cut to its projection. It numbers its finds from zero and
can be told to fail one of them. Filters match as `compiles` lets their patterns. A script answers
finds with prepared replies instead.
-/

namespace ForestQuery

/-- Documents in memory. -/
structure Collection where
  /-- The documents in the order of their insertion. -/
  documents : List Json := []
  /-- The number of finds so far. -/
  finds : Nat := 0
  /-- The number of the find that fails. -/
  failing : Option Nat := none

namespace Collection

/-- The collection with one more document. -/
def insert (c : Collection) (document : Json) : Collection :=
  { c with documents := c.documents ++ [document] }

/-- The collection with another find to fail. -/
def failFind (c : Collection) (number : Nat) : Collection := { c with failing := some number }

/-- The documents up to a limit. -/
def takeLimit (limit : Option UInt64) (documents : List Json) : List Json :=
  match limit with
  | some n => documents.take n.toNat
  | none => documents

/-- What a find selects of documents. -/
def select (compiles : String → Bool) (find : Find) (documents : List Json) : List Json :=
  (takeLimit find.limit (documents.filter (find.filter.isMatch compiles ·))).map
    find.projection.apply

/-- Answers a find, and counts it. -/
def find (compiles : String → Bool) (request : Find) (c : Collection) :
    Except StoreError (List Json) × Collection :=
  -- a find that fails is counted too
  let next := { c with finds := c.finds + 1 }
  if c.failing = some c.finds then
    (.error (.query ("find #" ++ Decimal.natText c.finds ++ " failed")), next)
  else
    (.ok (select compiles request c.documents), next)

/-- The store that hands out a collection for every request. -/
def store (compiles : String → Bool) : Store Collection where
  acquire _ c := (.ok (), c)
  find := find compiles

end Collection

/-- The replies to the finds to come; after the last of them every find returns nothing. -/
abbrev Script := List (Except StoreError (List Json))

/-- The store that answers finds by a script. -/
def Script.store : Store Script where
  acquire _ s := (.ok (), s)
  find _
    | [] => (.ok [], [])
    | reply :: rest => (reply, rest)

end ForestQuery
