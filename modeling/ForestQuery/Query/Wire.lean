import ForestQuery.Query.Basic
import ForestQuery.Term.Wire

/-!
# Queries on the wire

A query, its terms and its modifiers are records. Only the terms of a query are required; all else
has a default. The written form has every field.
-/

namespace ForestQuery

namespace Modifier

/-- The written form of modifiers. -/
def toJson (m : Modifier) : Json :=
  .object [("first", .bool m.first), ("laststep", .bool m.laststep),
    ("limit", .ofOption (m.limit.map fun n => .number (.ofUInt64 n))), ("tree", .bool m.tree)]

/-- Modifiers as a record. -/
def recordType : Wire.RecordType Modifier where
  name := "Modifier"
  fields := [
    .of "limit" false Wire.readCount fun limit m => { m with limit },
    .of "first" false Wire.readBool fun first m => { m with first },
    .of "laststep" false Wire.readBool fun laststep m => { m with laststep },
    .of "tree" false Wire.readBool fun tree m => { m with tree }]
  blank := {}

/-- Reads modifiers. -/
def reader : Wire.Reader Modifier := recordType.read

end Modifier

namespace QueryTerms

/-- The written form of terms. -/
def toJson (terms : QueryTerms) : Json :=
  .object [("search", .array (TermNode.toJsonAll terms.search)),
    ("skeleton", .array (TermNode.toJsonAll terms.skeleton))]

/-- The terms of a query as a record. -/
def recordType : Wire.RecordType QueryTerms where
  name := "SelectorTerms"
  fields := [
    .of "search" false (Wire.readList TermNode.reader) fun search terms => { terms with search },
    .of "skeleton" false (Wire.readList TermNode.reader) fun skeleton terms =>
      { terms with skeleton }]
  blank := {}

/-- Reads the terms of a query. -/
def reader : Wire.Reader QueryTerms := recordType.read

end QueryTerms

namespace Query

/-- The written form of a query. -/
def toJson (q : Query) : Json :=
  .object [("modifier", q.modifier.toJson), ("query", q.terms.toJson)]

/-- A query as a record. -/
def recordType : Wire.RecordType Query where
  name := "SelectQuery"
  fields := [
    .of "query" true QueryTerms.reader fun terms q => { q with terms },
    .of "modifier" false Modifier.reader fun modifier q => { q with modifier }]
  blank := {}

/-- Reads a query. -/
def reader : Wire.Reader Query := recordType.read

end Query

end ForestQuery
