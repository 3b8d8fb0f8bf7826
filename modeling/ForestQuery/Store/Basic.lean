import ForestQuery.Plan

/-!
# Document stores

A store is a service outside of this library: it hands out a collection for a request, and answers
finds on it. Either may fail. What a store does may depend on all that it was asked before, so a
store is a pair of functions on a state of its own.
-/

namespace ForestQuery

/-- Why a store did not do what it was asked. -/
inductive StoreError
  /-- The store could not be reached. -/
  | unavailable (reason : String)
  /-- A query failed. -/
  | query (reason : String)
  /-- A document could not be decoded. -/
  | decode (reason : String)
  /-- The store failed inside. -/
  | internal (reason : String)
deriving DecidableEq

namespace StoreError

/-- The short code of an error. -/
def code : StoreError → String
  | unavailable _ => "STORE_UNAVAILABLE"
  | query _ => "STORE_QUERY"
  | decode _ => "STORE_DECODE"
  | internal _ => "STORE_INTERNAL"

/-- The words for an error. -/
def display : StoreError → String
  | unavailable reason => "Store unavailable: " ++ reason
  | query reason => "Query failed: " ++ reason
  | decode reason => "Malformed document: " ++ reason
  | internal reason => "Internal error: " ++ reason

/-- The error with its code and its words. -/
def toJson (e : StoreError) : Json :=
  .object [("error", .string e.code), ("message", .string e.display)]

end StoreError

/-- What a collection is acquired for. -/
structure Request where
  /-- The collection, if the caller names one. -/
  collection : Option String := none
  /-- Whatever else helps to choose the collection, in the order of its keys. -/
  metadata : List (String × Json) := []

/-- The request with one more piece of metadata; of two under one key the later stays. -/
def Request.withMetadata (r : Request) (key : String) (value : Json) : Request :=
  { r with metadata := Json.put key value r.metadata }

/-- A store with states of a type. -/
structure Store (σ : Type) where
  /-- Hands out the collection for a request. -/
  acquire : Request → σ → Except StoreError Unit × σ
  /-- Answers a find. -/
  find : Find → σ → Except StoreError (List Json) × σ

/-- The store that refuses every request with an error, and is like another store in all else. -/
def Store.refusing {σ : Type} (store : Store σ) (error : StoreError) : Store σ where
  acquire _ s := (.error error, s)
  find := store.find

end ForestQuery
