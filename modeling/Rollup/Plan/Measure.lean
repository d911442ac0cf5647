import Rollup.Error
import Rollup.Request.Aggregation

/-!
# Measures

Every aggregate call of the select list is a measure: the number of documents, or a
metric of a field.
-/

namespace Rollup
namespace Plan

open Sql (AggregateCall Argument Direction Literal)
open Request (Metric)

inductive MeasureKind where
  | docCount
  | metric (spec : Metric)
deriving DecidableEq, Repr

structure Measure where
  name : String
  kind : MeasureKind
deriving DecidableEq, Repr

def MeasureKind.isSingleValue : MeasureKind -> Bool
  | .metric (.stats _) => false
  | .metric (.percentiles _) => false
  | .metric (.topHits _) => false
  | _ => true

/-- The metric to compute. Every document has an index, so that counting it counts documents. -/
def MeasureKind.toMetric : MeasureKind -> Metric
  | .docCount => .valueCount "_index"
  | .metric spec => spec

/-!
# Functions
-/

inductive Function where
  | count
  | sum
  | min
  | max
  | avg
  | stats
  | percentiles
  | topHits
deriving DecidableEq, Repr

def Function.name : Function -> String
  | .count => "COUNT"
  | .sum => "SUM"
  | .min => "MIN"
  | .max => "MAX"
  | .avg => "AVG"
  | .stats => "STATS"
  | .percentiles => "PERCENTILES"
  | .topHits => "TOPHITS"

def Function.ofName? (name : String) : Option Function :=
  match Text.lower name with
  | "count" => some .count
  | "sum" => some .sum
  | "min" => some .min
  | "max" => some .max
  | "avg" => some .avg
  | "stats" => some .stats
  | "percentiles" => some .percentiles
  | "tophits" => some .topHits
  | "top_hits" => some .topHits
  | _ => none

/-!
# Arguments
-/

def failArgument {alpha : Type} (function : Function) (fault : ArgumentFault) :
    Except Error alpha :=
  .error (.invalidArgument function.name fault)

def noExtraArguments (function : Function) (call : AggregateCall) : Except Error PUnit :=
  if call.parameters != [] || call.positional != [] then
    failArgument function .extraArguments
  else
    .ok ()

def requiredField (function : Function) (call : AggregateCall) : Except Error String :=
  match call.argument with
  | some (.field name) => .ok name
  | _ => failArgument function .missingField

def singleField (function : Function) (call : AggregateCall) : Except Error String := do
  noExtraArguments function call
  requiredField function call

def countKind (call : AggregateCall) : Except Error MeasureKind := do
  noExtraArguments .count call
  match call.argument with
  | some .star => return .docCount
  | some (.field field) =>
      return .metric (if call.distinct then .cardinality field else .valueCount field)
  | none => failArgument .count .missingArgument

/-!
# Percentiles
-/

def defaultPercents : List Float :=
  [1, 5, 25, 50, 75, 95, 99]

def percentOf (literal : Literal) : Except Error Float :=
  match literal.toFloat? with
  | some value =>
      if 0 <= value && value <= 100 then
        .ok value
      else
        failArgument .percentiles (.notPercent literal.render)
  | none => failArgument .percentiles (.notPercent literal.render)

def percentilesKind (call : AggregateCall) : Except Error MeasureKind := do
  let field <- requiredField .percentiles call
  if call.parameters != [] then
    failArgument .percentiles .namedPercents
  else if call.positional = [] then
    return .metric (.percentiles { field := field, percents := defaultPercents })
  else
    let percents <- call.positional.mapM percentOf
    return .metric (.percentiles { field := field, percents := percents })

/-!
# Top hits

`TOPHITS(size=n, from=k, include='a,b', exclude='c', field='asc', ...)`. Every other
key is a field to sort by.
-/

structure HitChoice where
  size : Nat := 3
  skip : Option Nat := none
  includes : List String := []
  excludes : List String := []
  sort : List (String × Direction) := []

def hitCount (key : String) (value : Literal) : Except Error Nat :=
  match Number.readUInt64? value.render with
  | some count => .ok count
  | none => failArgument .topHits (.notCount key value.render)

def commaList (text : String) : List String :=
  ((text.splitOn ",").map Text.trim).filter (fun part => part != "")

def directionOf? : Literal -> Option Direction
  | .text word => Direction.ofKeyword? word
  | _ => none

def hitChoice (choice : HitChoice) : List (String × Literal) -> Except Error HitChoice
  | [] => .ok choice
  | (key, value) :: rest =>
      match Text.lower key with
      | "size" => do
          let count <- hitCount "size" value
          hitChoice { choice with size := count } rest
      | "from" => do
          let count <- hitCount "from" value
          hitChoice { choice with skip := some count } rest
      | "include" => hitChoice { choice with includes := commaList value.render } rest
      | "exclude" => hitChoice { choice with excludes := commaList value.render } rest
      | _ =>
          match directionOf? value with
          | some direction =>
              hitChoice { choice with sort := choice.sort ++ [(key, direction)] } rest
          | none => failArgument .topHits (.sortDirection key value.render)

/-- The metric of the arguments. Sort keys and field patterns are left out when there are none. -/
def HitChoice.topHits (choice : HitChoice) : Request.TopHits :=
  { size := choice.size
    skip := choice.skip
    sort := if choice.sort = [] then none else some (choice.sort.map (fun entry => [entry]))
    source :=
      if choice.includes = [] && choice.excludes = [] then
        none
      else
        some { includes := choice.includes, excludes := choice.excludes } }

def topHitsKind (call : AggregateCall) : Except Error MeasureKind :=
  if call.argument.isSome || call.positional != [] then
    failArgument .topHits .unnamedArguments
  else do
    let choice <- hitChoice {} call.parameters
    return .metric (.topHits choice.topHits)

/-!
# Measures of a query
-/

def kindOf (function : Function) (call : AggregateCall) : Except Error MeasureKind :=
  match function with
  | .count => countKind call
  | .sum => do return .metric (.sum (<- singleField .sum call))
  | .min => do return .metric (.min (<- singleField .min call))
  | .max => do return .metric (.max (<- singleField .max call))
  | .avg => do return .metric (.avg (<- singleField .avg call))
  | .stats => do return .metric (.stats (<- singleField .stats call))
  | .percentiles => percentilesKind call
  | .topHits => topHitsKind call

def measure (call : AggregateCall) : Except Error Measure :=
  match Function.ofName? call.function with
  | none => .error (.unknownFunction call.function)
  | some function =>
      if call.distinct && function != .count then
        failArgument function .distinctOutsideCount
      else if call.argument = some .star && function != .count then
        failArgument function .starOutsideCount
      else do
        let kind <- kindOf function call
        return { name := call.displayName, kind := kind }

def measures (calls : List AggregateCall) : Except Error (List Measure) :=
  calls.mapM measure

end Plan
end Rollup
