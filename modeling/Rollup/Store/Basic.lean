import Rollup.Request.Body
import Rollup.Store.Aggregate
import Rollup.Store.Matching

/-!
# The store

A store holds documents under indices and answers requests over them. Its clock
stands still at a given instant.
-/

namespace Rollup

open Calendar (Instant)
open Store (Document AggregateResult)

structure Store where
  indices : List String := []
  docs : List Document := []
  now : Instant := { seconds := 0, nanos := 0 }
deriving Repr

namespace Store

/-!
# Adding documents
-/

def statedId? (source : Json) : Option String :=
  match source.field? "_id" with
  | some (.str text) => some text
  | some value => value.toNat?.map toString
  | none => none

/-- Adds documents to an index, which exists from then on. Those that state no identity are
numbered. -/
def insert (store : Store) (index : String) (docType : Option String) (sources : List Json) :
    Store :=
  let added := sources.zipIdx.map (fun (source, position) =>
    ({ index := index
       docType := docType
       id := (statedId? source).getD (toString (store.docs.length + position + 1))
       source := source } : Document))
  { store with
    indices := if store.indices.contains index then store.indices else store.indices ++ [index]
    docs := store.docs ++ added }

/-!
# Addressing
-/

def patternParts (pattern : String) : List String :=
  ((pattern.splitOn ",").map Text.trim).filter (fun part => part != "")

def resolveParts (indices : List String) (matched : List String) :
    List String -> Except BackendError (List String)
  | [] => .ok matched
  | part :: rest =>
      let grown :=
        indices.filter (fun name => matched.contains name || Text.matchesWildcard part name)
      if grown.length = matched.length && !part.toList.contains '*' then
        .error (.indexNotFound part)
      else
        resolveParts indices grown rest

def resolveIndices (store : Store) (pattern : String) : Except BackendError (List String) :=
  match resolveParts store.indices [] (patternParts pattern) with
  | .ok [] => .error (.indexNotFound pattern)
  | result => result

/-- Types restrict only where both request and document have one. -/
def typeMatches : Option String -> Option String -> Bool
  | some wanted, some actual => wanted == actual
  | _, _ => true

def select (store : Store) (indices : List String) (request : Request.Search) : List Document :=
  store.docs.filter (fun doc =>
    indices.contains doc.index
      && typeMatches request.docType doc.docType
      && (match request.body.query with
          | some filter => matchesFilter doc filter
          | none => true))

/-!
# Answering
-/

/-- What a store answers: how many documents it found, those it lists, and aggregations. -/
structure Response where
  total : Nat
  listed : List Json
  aggregations : Option (List (String × AggregateResult))
deriving Repr

def Response.json (response : Response) : Json :=
  let aggregations :=
    match response.aggregations with
    | some results => [("aggregations", Json.ofFields (AggregateResult.entriesJson results))]
    | none => []
  Json.ofFields
    ([ ("took", .int 0)
     , ("timed_out", .bool false)
     , ("hits", MetricResult.hitsJson response.total response.listed) ] ++ aggregations)

def defaultHitSize : Nat := 10

def search (store : Store) (request : Request.Search) : Except BackendError Response := do
  let indices <- store.resolveIndices request.index
  let docs := store.select indices request
  let aggregations <- request.body.aggs.mapM (evaluateAll store.now docs)
  let sorted :=
    match request.body.sort with
    | some sort => sortDocuments sort docs
    | none => docs
  let listed := sorted.take (request.body.size.getD defaultHitSize)
  return {
    total := docs.length
    listed := listed.map (fun doc => doc.hit (request.body.source.getD []) [])
    aggregations := aggregations }

end Store
end Rollup
