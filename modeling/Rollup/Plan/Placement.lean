import Rollup.Plan.Level
import Rollup.Plan.Threshold

/-!
# ORDER BY and LIMIT

In a grouped query an ORDER BY item sorts one level of buckets: the innermost if it
names a measure, and the level of a plain field if it names that. LIMIT is the size
of the innermost level. In a plain query the items are the sort keys of documents.
-/

namespace Rollup
namespace Plan

open Sql (ColumnRef Direction OrderItem SelectItem Statement)
open Request (Bucketing SortEntry)

inductive OrderTarget where
  | measure (measure : Measure)
  | key (position : Nat)

def aliasedField? (items : List SelectItem) (name : String) : Option String :=
  items.findSome? (fun item =>
    match item with
    | .field field (some label) => if label = name then some field else none
    | _ => none)

def orderField (items : List SelectItem) (name : String) : String :=
  (aliasedField? items name).getD name

def resolveOrder (statement : Statement) (levels : List Level) (measures : List Measure)
    (target : ColumnRef) : Except Error OrderTarget :=
  match referencedMeasure? target statement.calls measures, target with
  | some measure, _ => .ok (.measure measure)
  | none, .name text =>
      let field := orderField statement.select text
      match levels.findIdx? (fun level => level.isTerms && level.name == field) with
      | some position => .ok (.key position)
      | none => .error (.unresolvedOrderTarget target.lookupName)
  | none, .aggregate _ => .error (.unresolvedOrderTarget target.lookupName)

def orderPlace (levels : List Level) : OrderTarget -> Except Error (Nat × String)
  | .measure measure =>
      if measure.kind.isSingleValue then
        .ok (levels.length - 1, measure.name)
      else
        .error (.unsupported (.orderMultiValue measure.name))
  | .key position => .ok (position, "_key")

def appendOrder (order : Option (List SortEntry)) (key : String) (direction : Direction) :
    Option (List SortEntry) :=
  some (order.getD [] ++ [[(key, direction)]])

def Level.addOrder (level : Level) (key : String) (direction : Direction) : Except Error Level :=
  match level.bucketing with
  | .terms spec =>
      .ok { level with
        bucketing := .terms { spec with order := appendOrder spec.order key direction } }
  | .dateHistogram spec =>
      .ok { level with
        bucketing := .dateHistogram { spec with order := appendOrder spec.order key direction } }
  | .histogram spec =>
      .ok { level with
        bucketing := .histogram { spec with order := appendOrder spec.order key direction } }
  | _ => .error (.unsupported (.orderOfRanges level.name))

def modifyAt (update : Level -> Except Error Level) : Nat -> List Level -> Except Error (List Level)
  | _, [] => .ok []
  | 0, level :: rest => do
      let updated <- update level
      return updated :: rest
  | position + 1, level :: rest => do
      let others <- modifyAt update position rest
      return level :: others

/-- Puts the items on their levels in turn. Without levels they only have to name something. -/
def placeOrder (statement : Statement) (measures : List Measure) :
    List Level -> List OrderItem -> Except Error (List Level)
  | levels, [] => .ok levels
  | levels, item :: rest => do
      let target <- resolveOrder statement levels measures item.target
      if levels.isEmpty then
        placeOrder statement measures levels rest
      else
        let (position, key) <- orderPlace levels target
        let placed <- modifyAt (fun level => level.addOrder key item.direction) position levels
        placeOrder statement measures placed rest

def placeLimit (limit : Option Nat) : List Level -> Except Error (List Level)
  | [] => .ok []
  | [level] =>
      match limit, level.bucketing with
      | none, _ => .ok [level]
      | some count, .terms spec =>
          if count = 0 then
            .error (.invalidArgument "LIMIT" (.emptyBucket level.name))
          else
            .ok [{ level with bucketing := .terms { spec with size := some count } }]
      | some _, _ => .error (.unsupported (.limitOfFunction level.name))
  | level :: rest => do
      let others <- placeLimit limit rest
      return level :: others

def hitSort (statement : Statement) : Except Error (List SortEntry) :=
  statement.order.mapM (fun item =>
    match item.target with
    | .name text => .ok [(orderField statement.select text, item.direction)]
    | .aggregate call => .error (.unresolvedOrderTarget call.canonicalName))

end Plan
end Rollup
