import Rollup.Json.Decode
import Rollup.Sql.Statement

/-!
# Aggregations of a request

An aggregation computes a metric of documents or divides them into buckets, in which
further aggregations are computed. A node of a request names its kind by a key; the
format allows several kinds in one node, and none.
-/

namespace Rollup
namespace Request

open Sql (Direction)

abbrev SortEntry := List (String × Direction)

structure Percentiles where
  field : String
  percents : List Float
deriving DecidableEq, Repr

/-- Patterns of the fields that a document is shown with. -/
structure SourceFilter where
  includes : List String := []
  excludes : List String := []
deriving DecidableEq, Repr

/-- Documents of a bucket: `size` of them after the first `skip`. -/
structure TopHits where
  size : Nat
  skip : Option Nat := none
  sort : Option (List SortEntry) := none
  source : Option SourceFilter := none
deriving DecidableEq, Repr

structure Terms where
  field : String
  size : Option Nat := none
  order : Option (List SortEntry) := none
deriving DecidableEq, Repr

/-- Half-open range of numbers, unbounded where a bound is missing. -/
structure NumberRange where
  low : Option Float := none
  high : Option Float := none
deriving DecidableEq, Repr

structure Ranges where
  field : String
  ranges : List NumberRange
deriving DecidableEq, Repr

/-- Half-open range of dates, whose bounds are date math. -/
structure DateRange where
  low : Option String := none
  high : Option String := none
deriving DecidableEq, Repr

structure DateRanges where
  field : String
  format : Option String := none
  ranges : List DateRange
deriving DecidableEq, Repr

structure DateHistogram where
  field : String
  calendarInterval : Option String := none
  fixedInterval : Option String := none
  format : Option String := none
  timeZone : Option String := none
  minDocCount : Option Nat := none
  order : Option (List SortEntry) := none
deriving DecidableEq, Repr

structure Histogram where
  field : String
  interval : Float
  minDocCount : Option Nat := none
  order : Option (List SortEntry) := none
deriving DecidableEq, Repr

/-- Keeps the buckets for which the script holds; parameters are paths to metrics. -/
structure Selector where
  paths : List (String × String)
  script : String
deriving DecidableEq, Repr

/-- The kinds a node names. Metrics of a single field hold that field. -/
structure Kinds where
  valueCount : Option String := none
  cardinality : Option String := none
  sum : Option String := none
  min : Option String := none
  max : Option String := none
  avg : Option String := none
  stats : Option String := none
  percentiles : Option Percentiles := none
  topHits : Option TopHits := none
  terms : Option Terms := none
  range : Option Ranges := none
  dateRange : Option DateRanges := none
  dateHistogram : Option DateHistogram := none
  histogram : Option Histogram := none
  selector : Option Selector := none
deriving DecidableEq, Repr

inductive Aggregation where
  | node (kinds : Kinds) (subs : Option (List (String × Aggregation)))
deriving Repr

namespace Aggregation

def kinds : Aggregation -> Kinds
  | .node kinds _ => kinds

def subs : Aggregation -> List (String × Aggregation)
  | .node _ (some subs) => subs
  | .node _ none => []

end Aggregation

/-!
# The kind that counts

Of several kinds in a node one is evaluated. Buckets come before metrics.
-/

inductive Bucketing where
  | terms (spec : Terms)
  | range (spec : Ranges)
  | dateRange (spec : DateRanges)
  | dateHistogram (spec : DateHistogram)
  | histogram (spec : Histogram)
deriving DecidableEq, Repr

inductive Metric where
  | valueCount (field : String)
  | cardinality (field : String)
  | sum (field : String)
  | min (field : String)
  | max (field : String)
  | avg (field : String)
  | stats (field : String)
  | percentiles (spec : Percentiles)
  | topHits (spec : TopHits)
deriving DecidableEq, Repr

namespace Kinds

def bucketing? (kinds : Kinds) : Option Bucketing :=
  (kinds.terms.map .terms) <|> (kinds.range.map .range) <|> (kinds.dateRange.map .dateRange)
    <|> (kinds.dateHistogram.map .dateHistogram) <|> (kinds.histogram.map .histogram)

def metric? (kinds : Kinds) : Option Metric :=
  (kinds.valueCount.map .valueCount) <|> (kinds.cardinality.map .cardinality)
    <|> (kinds.sum.map .sum) <|> (kinds.min.map .min) <|> (kinds.max.map .max)
    <|> (kinds.avg.map .avg) <|> (kinds.stats.map .stats)
    <|> (kinds.percentiles.map .percentiles) <|> (kinds.topHits.map .topHits)

def ofMetric : Metric -> Kinds
  | .valueCount field => { valueCount := some field }
  | .cardinality field => { cardinality := some field }
  | .sum field => { sum := some field }
  | .min field => { min := some field }
  | .max field => { max := some field }
  | .avg field => { avg := some field }
  | .stats field => { stats := some field }
  | .percentiles spec => { percentiles := some spec }
  | .topHits spec => { topHits := some spec }

def ofBucketing : Bucketing -> Kinds
  | .terms spec => { terms := some spec }
  | .range spec => { range := some spec }
  | .dateRange spec => { dateRange := some spec }
  | .dateHistogram spec => { dateHistogram := some spec }
  | .histogram spec => { histogram := some spec }

end Kinds

namespace Bucketing

def order? : Bucketing -> Option (List SortEntry)
  | .terms spec => spec.order
  | .dateHistogram spec => spec.order
  | .histogram spec => spec.order
  | .range _ => none
  | .dateRange _ => none

end Bucketing

end Request
end Rollup
