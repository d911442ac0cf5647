import Rollup.Calendar.Interval
import Rollup.Error
import Rollup.Request.Aggregation

/-!
# Bucket levels

Every term of GROUP BY is one level of buckets, the first term the outermost. A plain
field gives a bucket for each of its values. The bucket functions are checked here,
so that a request never holds a malformed bucket.
-/

namespace Rollup
namespace Plan

open Sql (BucketCall GroupTerm Literal)
open Request (Bucketing)

/-- A level of buckets and the column that shows its keys. -/
structure Level where
  name : String
  bucketing : Bucketing
deriving DecidableEq, Repr

namespace Level

def isTerms (level : Level) : Bool :=
  match level.bucketing with
  | .terms _ => true
  | _ => false

def isOrderable (level : Level) : Bool :=
  match level.bucketing with
  | .range _ => false
  | .dateRange _ => false
  | _ => true

end Level

def failGrouping {alpha : Type} (fault : GroupingFault) : Except Error alpha :=
  .error (.grouping fault)

def docCount (function : String) (value : Literal) : Except Error Nat :=
  match Number.readUInt64? value.render with
  | some count => .ok count
  | none => failGrouping (.countNotNumber function value.render)

/-!
# Numeric ranges

`range(field, b1, ..., bn)` has the buckets from each boundary to the next.
-/

def boundaryValues (previous : Option Float) : List Literal -> Except Error (List Float)
  | [] => .ok []
  | literal :: rest =>
      match literal.toFloat? with
      | none => failGrouping (.boundaryNotNumber literal.render)
      | some value =>
          match previous with
          | some last =>
              if value <= last then
                failGrouping (.boundariesNotIncreasing literal.render last)
              else do
                let values <- boundaryValues (some value) rest
                return value :: values
          | none => do
              let values <- boundaryValues (some value) rest
              return value :: values

def rangesBetween : List Float -> List Request.NumberRange
  | low :: high :: rest => { low := some low, high := some high } :: rangesBetween (high :: rest)
  | _ => []

def rangeBuckets (call : BucketCall) (field : String) : Except Error Bucketing :=
  match call.parameters with
  | (key, _) :: _ => failGrouping (.unknownParameter key "range")
  | [] =>
      if call.boundaries.length < 2 then
        failGrouping (.tooFewBoundaries field call.boundaries.length)
      else do
        let values <- boundaryValues none call.boundaries
        return .range { field := field, ranges := rangesBetween values }

/-!
# Date ranges

`date_range(field, from1, to1, ...)` takes its bounds in pairs.
-/

def datePairs : List Literal -> List Request.DateRange
  | low :: high :: rest =>
      { low := some low.render, high := some high.render } :: datePairs rest
  | _ => []

def dateRangeFormat (format : Option String) :
    List (String × Literal) -> Except Error (Option String)
  | [] => .ok format
  | (key, value) :: rest =>
      if Text.lower key = "format" then
        dateRangeFormat (some value.render) rest
      else
        failGrouping (.unknownParameter key "date_range")

def dateRangeBuckets (call : BucketCall) (field : String) : Except Error Bucketing := do
  let format <- dateRangeFormat none call.parameters
  let count := call.boundaries.length
  if count < 2 || count % 2 != 0 then
    failGrouping (.unevenBoundaries field count)
  else
    return .dateRange { field := field, format := format, ranges := datePairs call.boundaries }

/-!
# Date histograms
-/

structure DateSteps where
  interval : String := "1d"
  format : Option String := none
  timeZone : Option String := none
  minDocCount : Option Nat := none

def dateSteps (steps : DateSteps) : List (String × Literal) -> Except Error DateSteps
  | [] => .ok steps
  | (key, value) :: rest =>
      match Text.lower key with
      | "interval" => dateSteps { steps with interval := value.render } rest
      | "format" => dateSteps { steps with format := some value.render } rest
      | "time_zone" => dateSteps { steps with timeZone := some value.render } rest
      | "min_doc_count" => do
          let count <- docCount "date_histogram" value
          dateSteps { steps with minDocCount := some count } rest
      | _ => failGrouping (.unknownParameter key "date_histogram")

def dateHistogramOf (field : String) (steps : DateSteps) (interval : Calendar.Interval) :
    Request.DateHistogram :=
  let base : Request.DateHistogram :=
    { field := field
      format := steps.format
      timeZone := steps.timeZone
      minDocCount := steps.minDocCount }
  match interval with
  | .calendar _ => { base with calendarInterval := some interval.text }
  | .fixed _ _ => { base with fixedInterval := some interval.text }

def dateHistogramBuckets (call : BucketCall) (field : String) : Except Error Bucketing :=
  if call.boundaries != [] then
    failGrouping (.positionalArguments field)
  else do
    let steps <- dateSteps {} call.parameters
    match Calendar.Interval.parse steps.interval with
    | .error fault => failGrouping (.interval fault)
    | .ok interval => return .dateHistogram (dateHistogramOf field steps interval)

/-!
# Histograms
-/

structure NumberSteps where
  interval : Option Literal := none
  minDocCount : Option Nat := none

def numberSteps (steps : NumberSteps) : List (String × Literal) -> Except Error NumberSteps
  | [] => .ok steps
  | (key, value) :: rest =>
      match Text.lower key with
      | "interval" => numberSteps { steps with interval := some value } rest
      | "min_doc_count" => do
          let count <- docCount "histogram" value
          numberSteps { steps with minDocCount := some count } rest
      | _ => failGrouping (.unknownParameter key "histogram")

def positiveInterval (literal : Literal) : Except Error Float :=
  let value? :=
    match literal with
    | .text raw => Number.readFloat? raw
    | other => other.toFloat?
  match value? with
  | some value =>
      if value > 0 then .ok value else failGrouping (.intervalNotPositive literal.render)
  | none => failGrouping (.intervalNotPositive literal.render)

def intervalLiteral (field : String) (named : Option Literal) (boundaries : List Literal) :
    Except Error Literal :=
  match named, boundaries with
  | none, [literal] => .ok literal
  | some literal, [] => .ok literal
  | none, [] => failGrouping (.missingInterval field)
  | _, _ => failGrouping (.secondInterval field)

def histogramBuckets (call : BucketCall) (field : String) : Except Error Bucketing := do
  let steps <- numberSteps {} call.parameters
  let literal <- intervalLiteral field steps.interval call.boundaries
  let interval <- positiveInterval literal
  return .histogram { field := field, interval := interval, minDocCount := steps.minDocCount }

/-!
# Levels of a query
-/

def namedLevel (function : String) (buckets : BucketCall -> String -> Except Error Bucketing)
    (call : BucketCall) : Except Error Level :=
  match call.field with
  | none => failGrouping (.missingField function)
  | some field => do
      let bucketing <- buckets call field
      return { name := s!"{function}({field})", bucketing := bucketing }

def callLevel (call : BucketCall) : Except Error Level :=
  match Text.lower call.function with
  | "range" => namedLevel "range" rangeBuckets call
  | "date_range" => namedLevel "date_range" dateRangeBuckets call
  | "date_histogram" => namedLevel "date_histogram" dateHistogramBuckets call
  | "histogram" => namedLevel "histogram" histogramBuckets call
  | _ => .error (.unknownFunction call.function)

def termLevel (size : Nat) : GroupTerm -> Except Error Level
  | .plain field => .ok { name := field, bucketing := .terms { field := field, size := some size } }
  | .call bucket => callLevel bucket

def levelsAfter (size : Nat) (seen : List String) : List GroupTerm -> Except Error (List Level)
  | [] => .ok []
  | term :: rest => do
      let level <- termLevel size term
      if seen.contains level.name then
        throw (.duplicateName level.name)
      else
        let levels <- levelsAfter size (level.name :: seen) rest
        return level :: levels

def levels (size : Nat) (terms : List GroupTerm) : Except Error (List Level) :=
  levelsAfter size [] terms

end Plan
end Rollup
