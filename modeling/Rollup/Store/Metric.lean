import Rollup.Error
import Rollup.Request.Aggregation
import Rollup.Store.Order

/-!
# Metrics

What a metric of a request computes from documents. Numbers are taken from the values
of a field in the order of the documents. A result that is no finite number counts
as missing.
-/

namespace Rollup
namespace Store

open Request (Metric Percentiles TopHits)

/-- The number, unless it is an infinity or a NaN. -/
def finite? (x : Float) : Option Float :=
  if x.isFinite then some x else none

structure Stats where
  count : Nat
  min : Option Float
  max : Option Float
  avg : Option Float
  sum : Option Float
deriving DecidableEq, Repr

inductive MetricResult where
  | count (value : Nat)
  | number (value : Option Float)
  | stats (value : Stats)
  | percentiles (values : List (String × Option Float))
  | hits (total : Nat) (listed : List Json)
deriving Repr

namespace MetricResult

def value? : MetricResult -> Option Float
  | .count value => some (Float.ofNat value)
  | .number value => value
  | _ => none

def hitsJson (total : Nat) (listed : List Json) : Json :=
  Json.ofFields
    [ ("total", Json.ofFields [("value", .ofNat total), ("relation", .str "eq")])
    , ("max_score", .null)
    , ("hits", .arr listed) ]

def json : MetricResult -> Json
  | .count value => .obj [("value", .ofNat value)]
  | .number value => .obj [("value", Json.ofFloat? value)]
  | .stats value =>
      Json.ofFields
        [ ("count", .ofNat value.count)
        , ("min", Json.ofFloat? value.min)
        , ("max", Json.ofFloat? value.max)
        , ("avg", Json.ofFloat? value.avg)
        , ("sum", Json.ofFloat? value.sum) ]
  | .percentiles values =>
      .obj [("values", Json.ofFields (values.map (fun (name, x) => (name, Json.ofFloat? x))))]
  | .hits total listed => .obj [("hits", hitsJson total listed)]

end MetricResult

/-!
# Numbers of a field
-/

def allValues (docs : List Document) (field : String) : List Json :=
  docs.flatMap (fun doc => doc.values field)

def numbers (docs : List Document) (field : String) : List Float :=
  (allValues docs field).filterMap asNumber?

def sum (xs : List Float) : Float :=
  xs.foldl (fun total x => total + x) (-0.0)

/-- The better of two numbers; a NaN gives way, and of equal numbers the first is kept. -/
def pick (better : Float -> Float -> Bool) (best x : Float) : Float :=
  if best.isNaN then x else if better x best then x else best

def best? (better : Float -> Float -> Bool) : List Float -> Option Float
  | [] => none
  | x :: xs => some (xs.foldl (pick better) x)

def minimum? (xs : List Float) : Option Float :=
  best? (fun a b => a < b) xs

def maximum? (xs : List Float) : Option Float :=
  best? (fun a b => a > b) xs

def mean? (xs : List Float) : Option Float :=
  if xs.isEmpty then none else some (sum xs / Float.ofNat xs.length)

def statsOf (xs : List Float) : Stats :=
  { count := xs.length
    min := (minimum? xs).bind finite?
    max := (maximum? xs).bind finite?
    avg := (mean? xs).bind finite?
    sum := finite? (sum xs) }

def keyText (value : Json) : String :=
  value.text

def distinctCount (docs : List Document) (field : String) : Nat :=
  ((allValues docs field).map keyText).eraseDups.length

/-!
# Percentiles

A percentile lies between the two numbers next to its rank, in proportion to the
distance.
-/

/-- Puts a number into numbers that descend, before the first that is not greater. -/
def insertDescending (x : Float) : List Float -> List Float
  | [] => [x]
  | y :: ys => if x < y then y :: insertDescending x ys else x :: y :: ys

def sortNumbers (xs : List Float) : List Float :=
  (xs.foldl (fun sorted x => insertDescending x sorted) []).reverse

/-- The percentile of sorted numbers. Beyond the last number there is none, and evaluation stops. -/
def percentile (sorted : Array Float) (percent : Float) : Except BackendError (Option Float) :=
  if sorted.isEmpty then
    .ok none
  else
    let place := percent / 100 * Float.ofNat (sorted.size - 1)
    let low := Number.toIndex Number.Dyadic.floor place
    let high := Number.toIndex Number.Dyadic.ceil place
    match sorted[low]?, sorted[high]? with
    | some a, some b => .ok (some (a + (b - a) * (place - Float.ofNat low)))
    | _, _ => .error .aborted

def percentiles (docs : List Document) (spec : Percentiles) :
    Except BackendError MetricResult := do
  let sorted := (sortNumbers (numbers docs spec.field)).toArray
  let entries <- spec.percents.mapM (fun percent => do
    let value <- percentile sorted percent
    return (Number.keyLayout.write percent, value.bind finite?))
  return .percentiles (fieldMap entries)

/-!
# Evaluation
-/

def topHits (docs : List Document) (spec : TopHits) : MetricResult :=
  let source := spec.source.getD {}
  let sorted :=
    match spec.sort with
    | some sort => sortDocuments sort docs
    | none => docs
  let listed := (sorted.drop (spec.skip.getD 0)).take spec.size
  .hits docs.length (listed.map (fun doc => doc.hit source.includes source.excludes))

def evaluateMetric (metric : Metric) (docs : List Document) : Except BackendError MetricResult :=
  match metric with
  | .valueCount field => .ok (.count (allValues docs field).length)
  | .cardinality field => .ok (.count (distinctCount docs field))
  | .sum field => .ok (.number (finite? (sum (numbers docs field))))
  | .min field => .ok (.number ((minimum? (numbers docs field)).bind finite?))
  | .max field => .ok (.number ((maximum? (numbers docs field)).bind finite?))
  | .avg field => .ok (.number ((mean? (numbers docs field)).bind finite?))
  | .stats field => .ok (.stats (statsOf (numbers docs field)))
  | .percentiles spec => percentiles docs spec
  | .topHits spec => .ok (topHits docs spec)

end Store
end Rollup
