import Rollup.Request.Aggregation
import Rollup.Sql.Tree

/-!
# Aggregations as JSON

Fields that are absent are left out, and may be `null` when read. The aggregations
inside a bucket stand under `aggs`; `aggregations` is read as well.
-/

namespace Rollup
namespace Request

open Json (ofFields ofPresent ofFloat record? required? optional? listOrEmpty? map? list?)

/-!
# Writing
-/

def SortEntry.orderJson (entry : SortEntry) : Json :=
  ofFields (entry.map (fun (key, direction) => (key, direction.tree)))

def SortEntry.sortJson (entry : SortEntry) : Json :=
  ofFields (entry.map (fun (key, direction) => (key, .obj [("order", direction.tree)])))

def orderListJson (order : List SortEntry) : Json :=
  .arr (order.map SortEntry.orderJson)

def sortListJson (sort : List SortEntry) : Json :=
  .arr (sort.map SortEntry.sortJson)

def stringsJson (items : List String) : Json :=
  .arr (items.map Json.str)

def fieldJson (field : String) : Json :=
  .obj [("field", .str field)]

def Percentiles.json (spec : Percentiles) : Json :=
  ofFields [("field", .str spec.field), ("percents", .arr (spec.percents.map ofFloat))]

def SourceFilter.json (source : SourceFilter) : Json :=
  let unlessEmpty := fun items : List String =>
    if items.isEmpty then none else some (stringsJson items)
  ofPresent [("includes", unlessEmpty source.includes), ("excludes", unlessEmpty source.excludes)]

def TopHits.json (spec : TopHits) : Json :=
  ofPresent
    [ ("size", some (.ofNat spec.size))
    , ("from", spec.skip.map .ofNat)
    , ("sort", spec.sort.map sortListJson)
    , ("_source", spec.source.map SourceFilter.json) ]

def Terms.json (spec : Terms) : Json :=
  ofPresent
    [ ("field", some (.str spec.field))
    , ("size", spec.size.map .ofNat)
    , ("order", spec.order.map orderListJson) ]

def NumberRange.json (range : NumberRange) : Json :=
  ofPresent [("from", range.low.map ofFloat), ("to", range.high.map ofFloat)]

def Ranges.json (spec : Ranges) : Json :=
  ofFields [("field", .str spec.field), ("ranges", .arr (spec.ranges.map NumberRange.json))]

def DateRange.json (range : DateRange) : Json :=
  ofPresent [("from", range.low.map .str), ("to", range.high.map .str)]

def DateRanges.json (spec : DateRanges) : Json :=
  ofPresent
    [ ("field", some (.str spec.field))
    , ("format", spec.format.map .str)
    , ("ranges", some (.arr (spec.ranges.map DateRange.json))) ]

def DateHistogram.json (spec : DateHistogram) : Json :=
  ofPresent
    [ ("field", some (.str spec.field))
    , ("calendar_interval", spec.calendarInterval.map .str)
    , ("fixed_interval", spec.fixedInterval.map .str)
    , ("format", spec.format.map .str)
    , ("time_zone", spec.timeZone.map .str)
    , ("min_doc_count", spec.minDocCount.map .ofNat)
    , ("order", spec.order.map orderListJson) ]

def Histogram.json (spec : Histogram) : Json :=
  ofPresent
    [ ("field", some (.str spec.field))
    , ("interval", some (ofFloat spec.interval))
    , ("min_doc_count", spec.minDocCount.map .ofNat)
    , ("order", spec.order.map orderListJson) ]

def Selector.json (spec : Selector) : Json :=
  ofFields
    [ ("buckets_path", ofFields (spec.paths.map (fun (name, path) => (name, .str path))))
    , ("script", .str spec.script) ]

def Kinds.entries (kinds : Kinds) : List (String × Option Json) :=
  [ ("value_count", kinds.valueCount.map fieldJson)
  , ("cardinality", kinds.cardinality.map fieldJson)
  , ("sum", kinds.sum.map fieldJson)
  , ("min", kinds.min.map fieldJson)
  , ("max", kinds.max.map fieldJson)
  , ("avg", kinds.avg.map fieldJson)
  , ("stats", kinds.stats.map fieldJson)
  , ("percentiles", kinds.percentiles.map Percentiles.json)
  , ("top_hits", kinds.topHits.map TopHits.json)
  , ("terms", kinds.terms.map Terms.json)
  , ("range", kinds.range.map Ranges.json)
  , ("date_range", kinds.dateRange.map DateRanges.json)
  , ("date_histogram", kinds.dateHistogram.map DateHistogram.json)
  , ("histogram", kinds.histogram.map Histogram.json)
  , ("bucket_selector", kinds.selector.map Selector.json) ]

mutual

def Aggregation.json : Aggregation -> Json
  | .node kinds none => ofPresent (kinds.entries ++ [("aggs", none)])
  | .node kinds (some subs) =>
      ofPresent (kinds.entries ++ [("aggs", some (ofFields (Aggregation.jsonEntries subs)))])

def Aggregation.jsonEntries : List (String × Aggregation) -> List (String × Json)
  | [] => []
  | (name, sub) :: rest => (name, Aggregation.json sub) :: Aggregation.jsonEntries rest

end

/-!
# Reading
-/

def directionOf? : Json -> Option Sql.Direction :=
  Sql.Direction.ofTree?

def SortEntry.ofOrderJson? : Json -> Option SortEntry :=
  map? directionOf?

def SortEntry.ofSortJson? : Json -> Option SortEntry :=
  map? (fun value => (record? true ["order"] value).bind (required? directionOf? "order"))

def fieldOf? (value : Json) : Option String :=
  (record? true ["field"] value).bind (required? Json.toString? "field")

def strings? : Json -> Option (List String) :=
  list? Json.toString?

def Percentiles.ofJson? (value : Json) : Option Percentiles := do
  let fields <- record? true ["field", "percents"] value
  return {
    field := <- required? Json.toString? "field" fields
    percents := <- required? (list? Json.toFloat?) "percents" fields }

def SourceFilter.ofJson? (value : Json) : Option SourceFilter := do
  let fields <- record? true ["includes", "excludes"] value
  return {
    includes := <- listOrEmpty? Json.toString? "includes" fields
    excludes := <- listOrEmpty? Json.toString? "excludes" fields }

def TopHits.ofJson? (value : Json) : Option TopHits := do
  let fields <- record? true ["size", "from", "sort", "_source"] value
  return {
    size := <- required? Json.size? "size" fields
    skip := <- optional? Json.size? "from" fields
    sort := <- optional? (list? SortEntry.ofSortJson?) "sort" fields
    source := <- optional? SourceFilter.ofJson? "_source" fields }

def Terms.ofJson? (value : Json) : Option Terms := do
  let fields <- record? true ["field", "size", "order"] value
  return {
    field := <- required? Json.toString? "field" fields
    size := <- optional? Json.size? "size" fields
    order := <- optional? (list? SortEntry.ofOrderJson?) "order" fields }

def NumberRange.ofJson? (value : Json) : Option NumberRange := do
  let fields <- record? true ["from", "to"] value
  return {
    low := <- optional? Json.toFloat? "from" fields
    high := <- optional? Json.toFloat? "to" fields }

def Ranges.ofJson? (value : Json) : Option Ranges := do
  let fields <- record? true ["field", "ranges"] value
  return {
    field := <- required? Json.toString? "field" fields
    ranges := <- required? (list? NumberRange.ofJson?) "ranges" fields }

def DateRange.ofJson? (value : Json) : Option DateRange := do
  let fields <- record? true ["from", "to"] value
  return {
    low := <- optional? Json.toString? "from" fields
    high := <- optional? Json.toString? "to" fields }

def DateRanges.ofJson? (value : Json) : Option DateRanges := do
  let fields <- record? true ["field", "format", "ranges"] value
  return {
    field := <- required? Json.toString? "field" fields
    format := <- optional? Json.toString? "format" fields
    ranges := <- required? (list? DateRange.ofJson?) "ranges" fields }

def DateHistogram.ofJson? (value : Json) : Option DateHistogram := do
  let fields <-
    record? true
      [ "field", "calendar_interval", "fixed_interval", "format", "time_zone", "min_doc_count"
      , "order" ]
      value
  return {
    field := <- required? Json.toString? "field" fields
    calendarInterval := <- optional? Json.toString? "calendar_interval" fields
    fixedInterval := <- optional? Json.toString? "fixed_interval" fields
    format := <- optional? Json.toString? "format" fields
    timeZone := <- optional? Json.toString? "time_zone" fields
    minDocCount := <- optional? Json.size? "min_doc_count" fields
    order := <- optional? (list? SortEntry.ofOrderJson?) "order" fields }

def Histogram.ofJson? (value : Json) : Option Histogram := do
  let fields <- record? true ["field", "interval", "min_doc_count", "order"] value
  return {
    field := <- required? Json.toString? "field" fields
    interval := <- required? Json.toFloat? "interval" fields
    minDocCount := <- optional? Json.size? "min_doc_count" fields
    order := <- optional? (list? SortEntry.ofOrderJson?) "order" fields }

def Selector.ofJson? (value : Json) : Option Selector := do
  let fields <- record? true ["buckets_path", "script"] value
  return {
    paths := <- required? (map? Json.toString?) "buckets_path" fields
    script := <- required? Json.toString? "script" fields }

def Kinds.ofFields? (fields : List (String × Json)) : Option Kinds := do
  return {
    valueCount := <- optional? fieldOf? "value_count" fields
    cardinality := <- optional? fieldOf? "cardinality" fields
    sum := <- optional? fieldOf? "sum" fields
    min := <- optional? fieldOf? "min" fields
    max := <- optional? fieldOf? "max" fields
    avg := <- optional? fieldOf? "avg" fields
    stats := <- optional? fieldOf? "stats" fields
    percentiles := <- optional? Percentiles.ofJson? "percentiles" fields
    topHits := <- optional? TopHits.ofJson? "top_hits" fields
    terms := <- optional? Terms.ofJson? "terms" fields
    range := <- optional? Ranges.ofJson? "range" fields
    dateRange := <- optional? DateRanges.ofJson? "date_range" fields
    dateHistogram := <- optional? DateHistogram.ofJson? "date_histogram" fields
    histogram := <- optional? Histogram.ofJson? "histogram" fields
    selector := <- optional? Selector.ofJson? "bucket_selector" fields }

def nodeFields : List String :=
  [ "value_count", "cardinality", "sum", "min", "max", "avg", "stats", "percentiles", "top_hits"
  , "terms", "range", "date_range", "date_histogram", "histogram", "bucket_selector", "aggs" ]

/-- The aggregations under either of their two names, which may not both be there. -/
def subs? {alpha : Type} (item? : Json -> Option alpha) (fields : List (String × Json)) :
    Option (Option (List (String × alpha))) :=
  match fields.lookup "aggs", fields.lookup "aggregations" with
  | some _, some _ => none
  | none, some value => Json.nullable? (map? item?) value
  | some value, none => Json.nullable? (map? item?) value
  | none, none => some none

/-- Reads a node nested up to `depth` levels. -/
def Aggregation.ofJsonWithin? : Nat -> Json -> Option Aggregation
  | 0, _ => none
  | depth + 1, value => do
      let fields <- record? true nodeFields value
      let kinds <- Kinds.ofFields? fields
      let subs <- subs? (Aggregation.ofJsonWithin? depth) fields
      return .node kinds subs

def Aggregation.ofJson? (value : Json) : Option Aggregation :=
  Aggregation.ofJsonWithin? value.depth value

end Request
end Rollup
