import Rollup.Request.AggregationJson
import Rollup.Request.Filter

/-!
# Search requests

A request addresses an index, and documents of a type where one is given. Its body
says which documents to take, which aggregations to compute over them, and which of
them to list.
-/

namespace Rollup
namespace Request

open Json (ofPresent record? required? optional? list?)

structure Body where
  query : Option Filter := none
  size : Option Nat := none
  source : Option (List String) := none
  sort : Option (List SortEntry) := none
  aggs : Option (List (String × Aggregation)) := none
deriving Repr

structure Search where
  index : String
  docType : Option String
  body : Body
deriving Repr

namespace Body

def json (body : Body) : Json :=
  ofPresent
    [ ("query", body.query.map Filter.json)
    , ("size", body.size.map .ofNat)
    , ("_source", body.source.map stringsJson)
    , ("sort", body.sort.map sortListJson)
    , ("aggs", body.aggs.map (fun aggs => Json.ofFields (Aggregation.jsonEntries aggs))) ]

def ofJson? (value : Json) : Option Body := do
  let fields <- record? true ["query", "size", "_source", "sort", "aggs"] value
  return {
    query := <- optional? Filter.ofJson? "query" fields
    size := <- optional? Json.size? "size" fields
    source := <- optional? strings? "_source" fields
    sort := <- optional? (list? SortEntry.ofSortJson?) "sort" fields
    aggs := <- subs? Aggregation.ofJson? fields }

end Body

namespace Search

def path (request : Search) : String :=
  match request.docType with
  | some docType => s!"/{request.index}/{docType}/_search"
  | none => s!"/{request.index}/_search"

def isAggregation (request : Search) : Bool :=
  request.body.aggs.isSome

def ofJson? (value : Json) : Option Search := do
  let fields <- record? false ["index", "doc_type", "body"] value
  return {
    index := <- required? Json.toString? "index" fields
    docType := <- optional? Json.toString? "doc_type" fields
    body := <- required? Body.ofJson? "body" fields }

end Search
end Request
end Rollup
