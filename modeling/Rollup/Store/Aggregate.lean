import Rollup.Script.Evaluation
import Rollup.Store.Bucket

/-!
# Aggregation

Aggregations are evaluated over documents from the outside in: buckets are formed,
the aggregations inside are evaluated over the documents of each bucket, and the
buckets are then sorted, cut to size and selected.
-/

namespace Rollup
namespace Store

open Calendar (Instant)
open Request (Aggregation Bucketing Selector SortEntry)
open Sql (Direction)

inductive AggregateResult where
  | metric (result : MetricResult)
  | buckets (groups : List (Bucket × List (String × AggregateResult)))
deriving Repr

abbrev Group := Bucket × List (String × AggregateResult)

namespace AggregateResult

def value? : AggregateResult -> Option Float
  | .metric result => result.value?
  | .buckets _ => none

end AggregateResult

def groupValue? (group : Group) (name : String) : Option Float :=
  (group.2.lookup name).bind AggregateResult.value?

/-!
# Sorting
-/

def compareValueOptions : Option Float -> Option Float -> Ordering :=
  compareLower

def compareByKey (key : String) (a b : Group) : Ordering :=
  if key = "_count" then
    compare a.1.docs.length b.1.docs.length
  else if key = "_key" || key = "_term" then
    compareValues a.1.key b.1.key
  else
    compareValueOptions (groupValue? a key) (groupValue? b key)

def compareGroups (keys : List (String × Direction)) (a b : Group) : Ordering :=
  (firstDecided (keys.map (fun (key, direction) => orient direction (compareByKey key a b)))).then
    (compareValues a.1.key b.1.key)

def isOrderPath (subs : List (String × Aggregation)) (key : String) : Bool :=
  key = "_count" || key = "_key" || key = "_term" || subs.any (fun sub => sub.1 == key)

def sortGroups (subs : List (String × Aggregation)) (order : List SortEntry)
    (groups : List Group) : Except BackendError (List Group) :=
  let keys := order.flatten
  match keys.find? (fun (key, _) => !isOrderPath subs key) with
  | some (key, _) => .error (.rejected (.orderPath key))
  | none => .ok (groups.mergeSort (fun a b => compareGroups keys a b != .gt))

def defaultTermOrder : List SortEntry :=
  [[("_count", .desc)]]

def defaultTermSize : Nat := 10

def orderGroups (bucketing : Bucketing) (subs : List (String × Aggregation))
    (groups : List Group) : Except BackendError (List Group) :=
  match bucketing.order?, bucketing with
  | some order, _ => sortGroups subs order groups
  | none, .terms _ => sortGroups subs defaultTermOrder groups
  | none, _ => .ok groups

def cutGroups (bucketing : Bucketing) (groups : List Group) : List Group :=
  match bucketing with
  | .terms spec => groups.take (spec.size.getD defaultTermSize)
  | _ => groups

/-!
# Selecting
-/

def pathValue? (group : Group) (path : String) : Option Float :=
  if path = "_count" then some (Float.ofNat group.1.docs.length) else groupValue? group path

def selects (name : String) (selector : Selector) (group : Group) : Except BackendError Bool :=
  let parameters := selector.paths.map (fun (parameter, path) => (parameter, pathValue? group path))
  match Script.evaluate selector.script parameters with
  | .ok kept => .ok kept
  | .error fault => .error (.unsupported (.selector name fault))

def selectGroups : List (String × Aggregation) -> List Group -> Except BackendError (List Group)
  | [], groups => .ok groups
  | (name, sub) :: rest, groups =>
      match sub.kinds.selector with
      | none => selectGroups rest groups
      | some selector => do
          let kept <- groups.filterM (selects name selector)
          selectGroups rest kept

/-!
# Evaluation
-/

mutual

def evaluate (now : Instant) (name : String) (docs : List Document) :
    Aggregation -> Except BackendError AggregateResult
  | .node kinds none =>
      match kinds.bucketing?, kinds.metric? with
      | some bucketing, _ => do
          let buckets <- formBuckets now bucketing docs
          let groups := buckets.map (fun bucket => (bucket, []))
          let ordered <- orderGroups bucketing [] groups
          return .buckets (cutGroups bucketing ordered)
      | none, some metric => do return .metric (<- evaluateMetric metric docs)
      | none, none => .error (.rejected (.untyped name))
  | .node kinds (some subs) =>
      match kinds.bucketing?, kinds.metric? with
      | some bucketing, _ => do
          let buckets <- formBuckets now bucketing docs
          let groups <- buckets.mapM (fun bucket => do
            let results <- evaluateAll now bucket.docs subs
            return (bucket, results))
          let ordered <- orderGroups bucketing subs groups
          let selected <- selectGroups subs (cutGroups bucketing ordered)
          return .buckets selected
      | none, some metric => do return .metric (<- evaluateMetric metric docs)
      | none, none => .error (.rejected (.untyped name))

def evaluateAll (now : Instant) (docs : List Document) :
    List (String × Aggregation) -> Except BackendError (List (String × AggregateResult))
  | [] => .ok []
  | (name, sub) :: rest =>
      if sub.kinds.selector.isSome then
        evaluateAll now docs rest
      else do
        let result <- evaluate now name docs sub
        let results <- evaluateAll now docs rest
        return (name, result) :: results

end

/-!
# Results as JSON

A bucket is one object with its key, its count and the results inside. A result hides
a part of the bucket that has the same name.
-/

mutual

def AggregateResult.json : AggregateResult -> Json
  | .metric result => result.json
  | .buckets groups => .obj [("buckets", .arr (AggregateResult.groupsJson groups))]

def AggregateResult.groupsJson : List (Bucket × List (String × AggregateResult)) -> List Json
  | [] => []
  | (bucket, results) :: rest =>
      Json.ofFields
        ([("key", bucket.key)] ++ bucket.extra ++ [("doc_count", .ofNat bucket.docs.length)]
          ++ AggregateResult.entriesJson results)
        :: AggregateResult.groupsJson rest

def AggregateResult.entriesJson : List (String × AggregateResult) -> List (String × Json)
  | [] => []
  | (name, result) :: rest =>
      (name, AggregateResult.json result) :: AggregateResult.entriesJson rest

end

end Store
end Rollup
