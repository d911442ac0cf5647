import Rollup.Plan.Placement
import Rollup.Plan.Selection
import Rollup.Request.Body
import Rollup.Sql.Parser

/-!
# Plans

The plan of a statement is the request to run and the columns that its result is
shown in.
-/

namespace Rollup
namespace Plan

open Sql (SelectItem Statement)
open Request (Aggregation Filter Kinds)

structure Options where
  bucketSize : Nat := 10000
  searchSize : Nat := 200
deriving DecidableEq, Repr

/-- A result column and the field or aggregation that it shows. -/
structure Column where
  name : String
  field : String
deriving DecidableEq, Repr

def Column.same (name : String) : Column :=
  { name := name, field := name }

end Plan

structure Plan where
  request : Request.Search
  columns : List Plan.Column
deriving Repr

namespace Plan

open Sql (SelectItem Statement)
open Request (Aggregation Filter Kinds)

/-- The first name that is already among those before it. -/
def repeatedName? (seen : List String) : List String -> Option String
  | [] => none
  | name :: rest => if seen.contains name then some name else repeatedName? (name :: seen) rest

/-- Columns need different names; `*` has none. -/
def checkNames (items : List SelectItem) : Except Error PUnit :=
  match repeatedName? [] ((items.filter (fun item => !item.isStar)).map SelectItem.displayName) with
  | some name => .error (.duplicateName name)
  | none => .ok ()

/-!
# Grouped queries
-/

def measureNode (measure : Measure) : String × Aggregation :=
  (measure.name, .node (Kinds.ofMetric measure.kind.toMetric) none)

def selectorNode (selector : Request.Selector) : String × Aggregation :=
  (selectorName, .node { selector := some selector } none)

def nest (leaves : List (String × Aggregation)) : List Level -> List (String × Aggregation)
  | [] => fieldMap leaves
  | level :: rest =>
      let subs :=
        match nest leaves rest with
        | [] => none
        | inner => some inner
      [(level.name, .node (Kinds.ofBucketing level.bucketing) subs)]

def havingNodes (statement : Statement) (levels : List Level) (measures : List Measure) :
    Except Error (List (String × Aggregation)) :=
  match statement.having with
  | none => .ok []
  | some having =>
      if levels.isEmpty then
        .error (.unsupported .havingWithoutGroups)
      else do
        let selector <- selector statement.calls measures having
        if measures.any (fun measure => measure.name == selectorName) then
          throw (.duplicateName selectorName)
        else
          return [selectorNode selector]

def checkClash (levels : List Level) (leaves : List (String × Aggregation)) :
    Except Error PUnit :=
  match levels.find? (fun level => leaves.any (fun leaf => leaf.1 == level.name)) with
  | some level => .error (.duplicateName level.name)
  | none => .ok ()

def aggregationPlan (options : Options) (statement : Statement) (query : Option Filter) :
    Except Error Plan := do
  let groups <- levels options.bucketSize statement.groups
  let measures <- measures statement.calls
  let ordered <- placeOrder statement measures groups statement.order
  let placed <- placeLimit statement.limit ordered
  let selectors <- havingNodes statement placed measures
  let leaves := measures.map measureNode ++ selectors
  checkClash placed leaves
  return {
    request :=
      { index := statement.source.index
        docType := statement.source.docType
        body := { query := query, size := some 0, aggs := some (nest leaves placed) } }
    columns :=
      placed.map (fun level => Column.same level.name)
        ++ measures.map (fun measure => Column.same measure.name) }

/-!
# Plain queries
-/

def fieldColumns (items : List SelectItem) : List Column :=
  if items.any SelectItem.isStar then
    []
  else
    items.filterMap (fun item =>
      match item with
      | .field name _ => some { name := item.displayName, field := name }
      | _ => none)

def searchPlan (options : Options) (statement : Statement) (query : Option Filter) :
    Except Error Plan :=
  if statement.having.isSome then
    .error (.unsupported .havingWithoutGroups)
  else do
    let columns := fieldColumns statement.select
    let source :=
      if statement.select.any SelectItem.isStar then none else some (columns.map Column.field)
    let sort <- hitSort statement
    return {
      request :=
        { index := statement.source.index
          docType := statement.source.docType
          body :=
            { query := query
              size := some (statement.limit.getD options.searchSize)
              source := source
              sort := if sort = [] then none else some sort } }
      columns := columns }

/-!
# Plans of statements and texts
-/

def ofStatement (options : Options) (statement : Statement) : Except Error Plan := do
  checkNames statement.select
  let query := statement.filter.map conditionFilter
  if statement.isAggregation then
    aggregationPlan options statement query
  else
    searchPlan options statement query

def ofText (options : Options) (text : String) : Except Error Plan :=
  match Sql.parse text with
  | .error error => .error (.syntactic error)
  | .ok statement => ofStatement options statement

end Plan
end Rollup
