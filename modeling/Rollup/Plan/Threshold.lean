import Rollup.Plan.Measure
import Rollup.Script.Token

/-!
# HAVING as a selector

A condition on measures becomes a script over parameters. Each measure that is
compared is one parameter, numbered in the order of first use.
-/

namespace Rollup
namespace Plan

open Sql (AggregateCall ColumnRef Comparison Formula Having Literal Threshold)

def selectorName : String := "having"

def referencedCall? (target : ColumnRef) (calls : List AggregateCall) : Option AggregateCall :=
  match target with
  | .name text => calls.find? (fun call => call.displayName == text)
  | .aggregate restated => calls.find? (fun call => call.canonicalName == restated.canonicalName)

def referencedMeasure? (target : ColumnRef) (calls : List AggregateCall)
    (measures : List Measure) : Option Measure :=
  match referencedCall? target calls with
  | some call => measures.find? (fun measure => measure.name == call.displayName)
  | none => none

/-- A comparison of the number at a path with a number as written. -/
structure Test where
  path : String
  op : Comparison
  number : String
deriving DecidableEq, Repr

def measurePath (measure : Measure) : Except Error String :=
  match measure.kind with
  | .docCount => .ok "_count"
  | kind =>
      if kind.isSingleValue then
        .ok measure.name
      else
        .error (.unsupported (.havingMultiValue measure.name))

def thresholdNumber (value : Literal) : Except Error String :=
  match value, value.toFloat? with
  | .number raw, some _ => .ok raw
  | other, _ => .error (.invalidArgument "HAVING" (.notNumber other.render))

def thresholdTest (calls : List AggregateCall) (measures : List Measure) (threshold : Threshold) :
    Except Error Test :=
  match referencedMeasure? threshold.target calls measures with
  | none => .error (.unresolvedReference threshold.target.lookupName)
  | some measure => do
      let path <- measurePath measure
      let number <- thresholdNumber threshold.value
      return { path := path, op := threshold.op, number := number }

/-!
# Scripts
-/

def parameterName (index : Nat) : String :=
  s!"p{index}"

def testScript (paths : List String) (test : Test) : String :=
  s!"params.{parameterName (paths.idxOf test.path)} {Script.comparisonSymbol test.op} {test.number}"

def enclose (outermost : Bool) (text : String) : String :=
  if outermost then text else s!"({text})"

mutual

def formulaScript (paths : List String) (outermost : Bool) : Formula Test -> String
  | .all parts => enclose outermost (String.intercalate " && " (formulaScripts paths parts))
  | .any parts => enclose outermost (String.intercalate " || " (formulaScripts paths parts))
  | .negation part => s!"!({formulaScript paths true part})"
  | .leaf test => testScript paths test

def formulaScripts (paths : List String) : List (Formula Test) -> List String
  | [] => []
  | part :: rest => formulaScript paths false part :: formulaScripts paths rest

end

def numbered (start : Nat) : List String -> List (String × String)
  | [] => []
  | path :: rest => (parameterName start, path) :: numbered (start + 1) rest

def selectorOf (condition : Formula Test) : Request.Selector :=
  let paths := (condition.leaves.map Test.path).eraseDups
  { paths := fieldMap (numbered 0 paths), script := formulaScript paths true condition }

def selector (calls : List AggregateCall) (measures : List Measure) (having : Having) :
    Except Error Request.Selector := do
  let condition <- having.traverse (thresholdTest calls measures)
  return selectorOf condition

end Plan
end Rollup
