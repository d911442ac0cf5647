import Rollup.Calendar.Writing
import Rollup.Store.Metric

/-!
# Buckets

A bucketing divides documents into buckets. A document with several values can be in
several buckets, but is in each of them once. Buckets keep the order of the stored
documents.
-/

namespace Rollup
namespace Store

open Calendar (Instant Interval)
open Request (Bucketing DateHistogram DateRange DateRanges Histogram NumberRange Ranges Terms)

/-- Documents that belong together, their key and what else describes it. -/
structure Bucket where
  key : Json
  extra : List (String × Json) := []
  docs : List Document
deriving Repr

/-!
# Terms
-/

def distinctValues (seen : List String) : List Json -> List (String × Json)
  | [] => []
  | value :: rest =>
      let key := keyText value
      if seen.contains key then
        distinctValues seen rest
      else
        (key, value) :: distinctValues (key :: seen) rest

def termBucket (value : Json) (docs : List Document) : Bucket :=
  match value with
  | .bool true => { key := .int 1, extra := [("key_as_string", .str "true")], docs := docs }
  | .bool false => { key := .int 0, extra := [("key_as_string", .str "false")], docs := docs }
  | other => { key := other, docs := docs }

def termBuckets (spec : Terms) (docs : List Document) : List Bucket :=
  let keyed := docs.map (fun doc => ((doc.values spec.field).map keyText, doc))
  (distinctValues [] (allValues docs spec.field)).map (fun (key, value) =>
    termBucket value
      ((keyed.filter (fun entry => entry.1.contains key)).map (fun entry => entry.2)))

/-!
# Ranges

Ranges are taken in ascending order. A missing lower bound comes first and a missing
upper bound last.
-/

def compareLower : Option Float -> Option Float -> Ordering
  | some a, some b => compareFloats a b
  | some _, none => .gt
  | none, some _ => .lt
  | none, none => .eq

def compareUpper : Option Float -> Option Float -> Ordering
  | some a, some b => compareFloats a b
  | some _, none => .lt
  | none, some _ => .gt
  | none, none => .eq

def compareRanges (a b : Option Float × Option Float) : Ordering :=
  (compareLower a.1 b.1).then (compareUpper a.2 b.2)

def boundText : Option Float -> String
  | some x => Number.keyLayout.write x
  | none => "*"

def inRange (range : NumberRange) (x : Float) : Bool :=
  (match range.low with
    | some low => x >= low
    | none => true) &&
  (match range.high with
    | some high => x < high
    | none => true)

def entryOf (name : String) (value : Option Json) : List (String × Json) :=
  (value.map (fun json => (name, json))).toList

def rangeBucket (field : String) (docs : List Document) (range : NumberRange) : Bucket :=
  { key := .str (boundText range.low ++ "-" ++ boundText range.high)
    extra :=
      entryOf "from" (range.low.map Json.ofFloat) ++ entryOf "to" (range.high.map Json.ofFloat)
    docs :=
      docs.filter (fun doc =>
        ((doc.values field).filterMap asNumber?).any (inRange range)) }

def rangeBuckets (spec : Ranges) (docs : List Document) : List Bucket :=
  let sorted :=
    spec.ranges.mergeSort (fun a b => compareRanges (a.low, a.high) (b.low, b.high) != .gt)
  sorted.map (rangeBucket spec.field docs)

/-!
# Date ranges
-/

def asInstant? (pattern : Option String) : Json -> Option Instant
  | .int n =>
      Instant.ofMillis?
        (if Number.fitsInt64 n then n else Number.truncateInt64 (Float.ofInt n))
  | .float x => Instant.ofMillis? (Number.truncateInt64 x)
  | .str text => Calendar.readDate text pattern
  | _ => none

def dateFailure : Calendar.DateFault -> BackendError
  | .immeasurable _ => .aborted
  | fault => .rejected (.date fault)

def resolveBound (now : Instant) (pattern : Option String) :
    Option String -> Except BackendError (Option Instant)
  | none => .ok none
  | some expression =>
      match Calendar.resolveDate expression now pattern with
      | .ok instant => .ok (some instant)
      | .error fault => .error (dateFailure fault)

def renderInstant (pattern : Option String) (instant : Instant) : Except BackendError String :=
  match instant.format pattern with
  | .ok text => .ok text
  | .error letter => .error (.rejected (.patternLetter letter))

def renderBound (pattern : Option String) : Option Instant -> Except BackendError (Option String)
  | none => .ok none
  | some instant => do
      let text <- renderInstant pattern instant
      return some text

def millisFloat (instant : Instant) : Float :=
  Float.ofInt instant.millis

def inDateRange (low high : Option Instant) (instant : Instant) : Bool :=
  (match low with
    | some bound => instant.isFrom bound
    | none => true) &&
  (match high with
    | some bound => instant.isBefore bound
    | none => true)

def dateEntries (name : String) (bound : Option Instant) (text : Option String) :
    List (String × Json) :=
  match bound, text with
  | some instant, some shown =>
      [(name, Json.ofFloat (millisFloat instant)), (name ++ "_as_string", .str shown)]
  | _, _ => []

def dateRangeBucket (spec : DateRanges) (docs : List Document)
    (range : Option Instant × Option Instant) : Except BackendError Bucket := do
  let (low, high) := range
  let lowText <- renderBound spec.format low
  let highText <- renderBound spec.format high
  return {
    key := .str (lowText.getD "*" ++ "-" ++ highText.getD "*")
    extra := dateEntries "from" low lowText ++ dateEntries "to" high highText
    docs :=
      docs.filter (fun doc =>
        ((doc.values spec.field).filterMap (asInstant? spec.format)).any (inDateRange low high)) }

def dateRangeBuckets (now : Instant) (spec : DateRanges) (docs : List Document) :
    Except BackendError (List Bucket) := do
  let resolved <- spec.ranges.mapM (fun range => do
    let low <- resolveBound now spec.format range.low
    let high <- resolveBound now spec.format range.high
    return (low, high))
  let bounds := fun range : Option Instant × Option Instant =>
    (range.1.map millisFloat, range.2.map millisFloat)
  let sorted := resolved.mergeSort (fun a b => compareRanges (bounds a) (bounds b) != .gt)
  sorted.mapM (dateRangeBucket spec docs)

/-!
# Histograms

Histograms group documents by integer keys. Unless a least number of documents is
asked for, the keys between the first and the last that is occupied are filled up by
steps.
-/

def sortedDistinct (keys : List Int) : List Int :=
  (keys.mergeSort (fun a b => a <= b)).foldr
    (fun key rest => if rest.head? = some key then rest else key :: rest) []

def groupKeyed (keyed : List (List Int × Document)) : List (Int × List Document) :=
  (sortedDistinct (keyed.flatMap (fun entry => entry.1))).map (fun key =>
    (key, (keyed.filter (fun entry => entry.1.contains key)).map (fun entry => entry.2)))

def groupByKey (keysOf : Document -> List Int) (docs : List Document) :
    List (Int × List Document) :=
  groupKeyed (docs.map (fun doc => (keysOf doc, doc)))

/-- The keys from `key` up to `last`, which is left out, by at most `room` steps. -/
def stepKeys (next : Int -> Except BackendError Int) (last : Int) (room : Nat) (key : Int)
    (passed : List Int) : Except BackendError (List Int) :=
  if key < last then
    match room with
    | 0 => .error (.rejected .tooManyBuckets)
    | room + 1 =>
        match next key with
        | .error e => .error e
        | .ok following => stepKeys next last room following (key :: passed)
  else
    .ok passed.reverse
termination_by room

/-- Adds empty groups for the steps between the first key and the last. -/
def fillGaps (next : Int -> Except BackendError Int) (groups : List (Int × List Document)) :
    Except BackendError (List (Int × List Document)) :=
  match groups.head?, groups.getLast? with
  | some (first, _), some (last, _) => do
      let steps <- stepKeys next last maxBuckets first []
      let keys := sortedDistinct (groups.map (fun group => group.1) ++ steps)
      return keys.map (fun key => (key, (groups.lookup key).getD []))
  | _, _ => .ok groups

def histogramGroups (next : Int -> Except BackendError Int) (minDocCount : Option Nat)
    (groups : List (Int × List Document)) : Except BackendError (List (Int × List Document)) :=
  let least := minDocCount.getD 0
  if least = 0 then
    fillGaps next groups
  else
    .ok (groups.filter (fun group => least <= group.2.length))

/-!
# Date histograms

Keys are the milliseconds at which the local day, month and so on begins.
-/

def dateInterval (spec : DateHistogram) : Except BackendError Interval :=
  match spec.calendarInterval <|> spec.fixedInterval with
  | none => .error (.rejected .missingInterval)
  | some raw =>
      match Interval.parse raw with
      | .ok interval => .ok interval
      | .error fault => .error (.rejected (.interval fault))

def dateOffset : Option String -> Except BackendError Int
  | none => .ok 0
  | some zone =>
      match Calendar.parseOffset zone with
      | .ok offset => .ok offset
      | .error (.unsplittable _) => .error .aborted
      | .error (.immeasurable _) => .error .aborted
      | .error fault => .error (.unsupported (.zone fault))

/-- A sum or difference of milliseconds. The evaluation breaks off if it does not fit 64 bits. -/
def measured (millis : Int) : Except BackendError Int :=
  if Number.fitsInt64 millis then .ok millis else .error .aborted

def dateStart? (interval : Interval) (shifted : Instant) : Option Int :=
  match interval with
  | .calendar unit => (shifted.floor? unit).map Instant.millis
  | .fixed count unit =>
      let step : Int := count * unit.millis
      some (shifted.millis / step * step)

def dateKey (interval : Interval) (offset : Int) (instant : Instant) :
    Except BackendError (Option Int) := do
  let shifted <- measured (instant.millis + offset)
  match (Instant.ofMillis? shifted).bind (dateStart? interval) with
  | none => .ok none
  | some start => do
      let key <- measured (start - offset)
      return some key

def nextDateKey (interval : Interval) (offset : Int) (key : Int) : Except BackendError Int :=
  match interval with
  | .calendar unit => do
      let shifted <- measured (key + offset)
      match (Instant.ofMillis? shifted).bind (fun start => start.advance? unit) with
      | none => .error (.rejected .keyOverflow)
      | some following => measured (following.millis - offset)
  | .fixed count unit =>
      let following : Int := key + count * unit.millis
      if Number.fitsInt64 following then .ok following else .error (.rejected .keyOverflow)

def dateBucket (spec : DateHistogram) (offset : Int) (group : Int × List Document) :
    Except BackendError Bucket := do
  let shifted <- measured (group.1 + offset)
  match Instant.ofMillis? shifted with
  | none => .error (.rejected (.dateKey group.1))
  | some start => do
      let label <- renderInstant spec.format start
      return { key := .int group.1, extra := [("key_as_string", .str label)], docs := group.2 }

def keyedByDate (spec : DateHistogram) (interval : Interval) (offset : Int) (doc : Document) :
    Except BackendError (List Int × Document) := do
  let keys <- ((doc.values spec.field).filterMap (asInstant? spec.format)).mapM
    (dateKey interval offset)
  return (keys.filterMap id, doc)

def dateHistogramBuckets (spec : DateHistogram) (docs : List Document) :
    Except BackendError (List Bucket) := do
  let interval <- dateInterval spec
  let offset <- dateOffset spec.timeZone
  let keyed <- docs.mapM (keyedByDate spec interval offset)
  let groups <- histogramGroups (nextDateKey interval offset) spec.minDocCount (groupKeyed keyed)
  groups.mapM (dateBucket spec offset)

/-!
# Number histograms

Keys count intervals from zero.
-/

def nextSlot (slot : Int) : Except BackendError Int :=
  if Number.fitsInt64 (slot + 1) then .ok (slot + 1) else .error (.rejected .keyOverflow)

def slotOf (interval x : Float) : Int :=
  Number.floorInt64 (x / interval)

def histogramBuckets (spec : Histogram) (docs : List Document) :
    Except BackendError (List Bucket) :=
  if !(spec.interval > 0) then
    .error (.rejected (.histogramInterval spec.interval))
  else do
    let slotsOf := fun doc : Document =>
      ((doc.values spec.field).filterMap asNumber?).map (slotOf spec.interval)
    let groups <- histogramGroups nextSlot spec.minDocCount (groupByKey slotsOf docs)
    return groups.map (fun group =>
      { key := Json.ofFloat (Float.ofInt group.1 * spec.interval), docs := group.2 })

def formBuckets (now : Instant) (bucketing : Bucketing) (docs : List Document) :
    Except BackendError (List Bucket) :=
  match bucketing with
  | .terms spec => .ok (termBuckets spec docs)
  | .range spec => .ok (rangeBuckets spec docs)
  | .dateRange spec => dateRangeBuckets now spec docs
  | .dateHistogram spec => dateHistogramBuckets spec docs
  | .histogram spec => histogramBuckets spec docs

end Store
end Rollup
