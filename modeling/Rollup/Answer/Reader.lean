import Rollup.Answer.Value
import Rollup.Error
import Rollup.Request.Body

/-!
# Reading responses

A response is read along the request: every aggregation that was asked for is looked
up by its name and read by its kind. What else the response holds is ignored.
-/

namespace Rollup
namespace Answer

open Request (Aggregation Kinds Search)

def orMalformed {alpha : Type} (value : Option alpha) (cause : Malformed) :
    Except Malformed alpha :=
  match value with
  | some found => .ok found
  | none => .error cause

def sourceOf (hit : Json) : Json :=
  (hit.field? "_source").getD .null

def floatAt (key : String) (raw : Json) : Option Float :=
  (raw.field? key).bind Json.toFloat?

def readStats (name : String) (raw : Json) : Except Malformed Value := do
  let count <- orMalformed ((raw.field? "count").bind Json.toNat?) (.noStatsCount name)
  return .stats {
    count := count
    min := floatAt "min" raw
    max := floatAt "max" raw
    avg := floatAt "avg" raw
    sum := (floatAt "sum" raw).getD 0 }

def readPercentiles (name : String) (raw : Json) : Except Malformed Value := do
  let values <- orMalformed ((raw.field? "values").bind Json.toFields?) (.noPercentiles name)
  return .percentiles (values.map (fun (key, value) => (key, value.toFloat?)))

def readTopHits (name : String) (raw : Json) : Except Malformed Value := do
  let inner := (raw.field? "hits").bind (Json.field? "hits")
  let hits <- orMalformed (inner.bind Json.toList?) (.noTopHits name)
  return .hits (hits.map sourceOf)

def readNumber (name : String) (raw : Json) : Except Malformed Value :=
  match raw.field? "value" with
  | some .null => .ok .missing
  | some value =>
      match value.toFloat? with
      | some x => .ok (.number x)
      | none => .error (.notNumber name)
  | none => .error (.noValue name)

def readMetric (name : String) (kinds : Kinds) (raw : Json) : Except Malformed Value :=
  if kinds.stats.isSome then
    readStats name raw
  else if kinds.percentiles.isSome then
    readPercentiles name raw
  else if kinds.topHits.isSome then
    readTopHits name raw
  else
    readNumber name raw

def readHead (name : String) (raw : Json) : Except Malformed BucketHead := do
  let key <- orMalformed (raw.field? "key") (.noKey name)
  let docCount <- orMalformed ((raw.field? "doc_count").bind Json.toNat?) (.noDocCount name)
  return {
    key := key
    keyText := (raw.field? "key_as_string").bind Json.toString?
    docCount := docCount
    low := raw.field? "from"
    high := raw.field? "to" }

def bucketList (name : String) (raw : Json) : Except Malformed (List Json) :=
  orMalformed ((raw.field? "buckets").bind Json.toList?) (.noBuckets name)

mutual

def readValue (name : String) (raw : Json) : Aggregation -> Except Malformed Value
  | .node kinds none =>
      if kinds.bucketing?.isSome then do
        let buckets <- bucketList name raw
        let rows <- buckets.mapM (fun bucket => do
          let head <- readHead name bucket
          return (head, []))
        return .buckets rows
      else
        readMetric name kinds raw
  | .node kinds (some subs) =>
      if kinds.bucketing?.isSome then do
        let buckets <- bucketList name raw
        let rows <- buckets.mapM (fun bucket => do
          let head <- readHead name bucket
          let row <- readRow bucket subs
          return (head, row))
        return .buckets rows
      else
        readMetric name kinds raw

def readRow (raw : Json) : List (String × Aggregation) -> Except Malformed Row
  | [] => .ok []
  | (name, sub) :: rest =>
      if sub.kinds.selector.isSome then
        readRow raw rest
      else do
        let entry <- orMalformed (raw.field? name) (.missing name)
        let value <- readValue name entry sub
        let values <- readRow raw rest
        return (name, value) :: values

end

def totalOf? : Option Json -> Option Nat
  | some (.obj fields) => (fields.lookup "value").bind Json.toNat?
  | some value => value.toNat?
  | none => none

def readHits (response : Json) : Except Malformed Hits := do
  let hits <- orMalformed (response.field? "hits") .noHits
  let total <- orMalformed (totalOf? (hits.field? "total")) .badTotal
  let listed <- orMalformed ((hits.field? "hits").bind Json.toList?) .hitsNotList
  return { total := total, sources := listed.map sourceOf }

def readWhole (request : Search) (response : Json) : Except Malformed Answer :=
  match request.body.aggs with
  | some aggs => do
      let raw <- orMalformed (response.field? "aggregations") .noAggregations
      let row <- readRow raw aggs
      return .aggregations row
  | none => do
      let found <- readHits response
      return .hits found

def read (request : Search) (response : Json) : Except Error Answer :=
  match readWhole request response with
  | .ok answer => .ok answer
  | .error cause => .error (.backend (.malformed cause))

end Answer
end Rollup
