import Rollup.Sql.Statement
import Rollup.Json.Decode

/-!
# Statements as JSON

The tree of a statement can be stored and read back as JSON. Records are objects
with all their fields; alternatives carry their name as the only key.
-/

namespace Rollup
namespace Sql

open Json (ofFields ofString? required? optional? record? list? choice? isBare)

/-!
# Writing
-/

def tagged (name : String) (content : Json) : Json :=
  .obj [(name, content)]

def Literal.tree : Literal -> Json
  | .number raw => tagged "Number" (.str raw)
  | .text value => tagged "String" (.str value)
  | .bool value => tagged "Bool" (.bool value)

def Direction.tree (direction : Direction) : Json :=
  .str direction.keyword

def Comparison.tree : Comparison -> Json
  | .eq => .str "Eq"
  | .notEq => .str "NotEq"
  | .lt => .str "Lt"
  | .lte => .str "Lte"
  | .gt => .str "Gt"
  | .gte => .str "Gte"

def Argument.tree : Argument -> Json
  | .star => .str "Star"
  | .field name => tagged "Field" (.str name)

def parametersTree (parameters : List (String × Literal)) : Json :=
  .arr (parameters.map (fun (key, value) => .arr [.str key, value.tree]))

def AggregateCall.tree (call : AggregateCall) : Json :=
  ofFields
    [ ("function", .str call.function)
    , ("argument", (call.argument.map Argument.tree).getD .null)
    , ("distinct", .bool call.distinct)
    , ("parameters", parametersTree call.parameters)
    , ("positional", .arr (call.positional.map Literal.tree))
    , ("alias", ofString? call.label) ]

def BucketCall.tree (call : BucketCall) : Json :=
  ofFields
    [ ("function", .str call.function)
    , ("field", ofString? call.field)
    , ("parameters", parametersTree call.parameters)
    , ("boundaries", .arr (call.boundaries.map Literal.tree)) ]

def Source.tree (source : Source) : Json :=
  ofFields [("index", .str source.index), ("doc_type", ofString? source.docType)]

def SelectItem.tree : SelectItem -> Json
  | .star => .str "Star"
  | .field name label =>
      tagged "Field" (ofFields [("name", .str name), ("alias", ofString? label)])
  | .aggregate call => tagged "Aggregate" call.tree

def GroupTerm.tree : GroupTerm -> Json
  | .plain field => tagged "PlainField" (.str field)
  | .call bucket => tagged "BucketFunction" bucket.tree

def ColumnRef.tree : ColumnRef -> Json
  | .name text => tagged "Name" (.str text)
  | .aggregate call => tagged "Aggregate" call.tree

def OrderItem.tree (item : OrderItem) : Json :=
  ofFields [("target", item.target.tree), ("direction", item.direction.tree)]

def Predicate.tree : Predicate -> Json
  | .compare field op value =>
      tagged "Compare" (ofFields [("field", .str field), ("op", op.tree), ("value", value.tree)])
  | .like field pattern negated =>
      tagged "Like"
        (ofFields [("field", .str field), ("pattern", .str pattern), ("negated", .bool negated)])
  | .member field values negated =>
      tagged "In"
        (ofFields
          [ ("field", .str field)
          , ("values", .arr (values.map Literal.tree))
          , ("negated", .bool negated) ])
  | .between field low high negated =>
      tagged "Between"
        (ofFields
          [ ("field", .str field)
          , ("low", low.tree)
          , ("high", high.tree)
          , ("negated", .bool negated) ])
  | .isNull field negated =>
      tagged "IsNull" (ofFields [("field", .str field), ("negated", .bool negated)])

def Threshold.tree (test : Threshold) : Json :=
  tagged "Compare"
    (ofFields
      [("target", test.target.tree), ("op", test.op.tree), ("value", test.value.tree)])

mutual

def Formula.tree {alpha : Type} (leafTree : alpha -> Json) : Formula alpha -> Json
  | .all parts => tagged "And" (.arr (Formula.trees leafTree parts))
  | .any parts => tagged "Or" (.arr (Formula.trees leafTree parts))
  | .negation part => tagged "Not" (Formula.tree leafTree part)
  | .leaf value => leafTree value

def Formula.trees {alpha : Type} (leafTree : alpha -> Json) : List (Formula alpha) -> List Json
  | [] => []
  | part :: rest => Formula.tree leafTree part :: Formula.trees leafTree rest

end

def Statement.tree (statement : Statement) : Json :=
  ofFields
    [ ("source", statement.source.tree)
    , ("select", .arr (statement.select.map SelectItem.tree))
    , ("filter", (statement.filter.map (Formula.tree Predicate.tree)).getD .null)
    , ("group_by", .arr (statement.groups.map GroupTerm.tree))
    , ("having", (statement.having.map (Formula.tree Threshold.tree)).getD .null)
    , ("order_by", .arr (statement.order.map OrderItem.tree))
    , ("limit", (statement.limit.map Json.ofNat).getD .null) ]

/-!
# Reading
-/

def Literal.ofTree? (tree : Json) : Option Literal := do
  let (name, content) ← choice? tree
  let content ← content
  match name with
  | "Number" => content.toString?.map .number
  | "String" => content.toString?.map .text
  | "Bool" => content.bool?.map .bool
  | _ => none

def Direction.ofTree? (tree : Json) : Option Direction := do
  let (name, content) ← choice? tree
  if !isBare content then none
  else
    match name with
    | "asc" => some .asc
    | "desc" => some .desc
    | _ => none

def Comparison.ofTree? (tree : Json) : Option Comparison := do
  let (name, content) ← choice? tree
  if !isBare content then none
  else
    match name with
    | "Eq" => some .eq
    | "NotEq" => some .notEq
    | "Lt" => some .lt
    | "Lte" => some .lte
    | "Gt" => some .gt
    | "Gte" => some .gte
    | _ => none

def Argument.ofTree? (tree : Json) : Option Argument := do
  let (name, content) ← choice? tree
  match name with
  | "Star" => if isBare content then some .star else none
  | "Field" => (content.bind Json.toString?).map .field
  | _ => none

def parametersOfTree? : Json -> Option (List (String × Literal)) :=
  list? (Json.pair? Json.toString? Literal.ofTree?)

def AggregateCall.ofTree? (tree : Json) : Option AggregateCall := do
  let fields ←
    record? false ["function", "argument", "distinct", "parameters", "positional", "alias"] tree
  some
    { function := ← required? Json.toString? "function" fields
      argument := ← optional? Argument.ofTree? "argument" fields
      distinct := ← required? Json.bool? "distinct" fields
      parameters := ← required? parametersOfTree? "parameters" fields
      positional := ← required? (list? Literal.ofTree?) "positional" fields
      label := ← optional? Json.toString? "alias" fields }

def BucketCall.ofTree? (tree : Json) : Option BucketCall := do
  let fields ← record? false ["function", "field", "parameters", "boundaries"] tree
  some
    { function := ← required? Json.toString? "function" fields
      field := ← optional? Json.toString? "field" fields
      parameters := ← required? parametersOfTree? "parameters" fields
      boundaries := ← required? (list? Literal.ofTree?) "boundaries" fields }

def Source.ofTree? (tree : Json) : Option Source := do
  let fields ← record? false ["index", "doc_type"] tree
  some
    { index := ← required? Json.toString? "index" fields
      docType := ← optional? Json.toString? "doc_type" fields }

def SelectItem.ofTree? (tree : Json) : Option SelectItem := do
  let (name, content) ← choice? tree
  match name with
  | "Star" => if isBare content then some .star else none
  | "Field" =>
      let fields ← content.bind (record? false ["name", "alias"])
      some
        (.field (← required? Json.toString? "name" fields)
          (← optional? Json.toString? "alias" fields))
  | "Aggregate" => (content.bind AggregateCall.ofTree?).map .aggregate
  | _ => none

def GroupTerm.ofTree? (tree : Json) : Option GroupTerm := do
  let (name, content) ← choice? tree
  match name with
  | "PlainField" => (content.bind Json.toString?).map .plain
  | "BucketFunction" => (content.bind BucketCall.ofTree?).map .call
  | _ => none

def ColumnRef.ofTree? (tree : Json) : Option ColumnRef := do
  let (kind, content) ← choice? tree
  match kind with
  | "Name" => (content.bind Json.toString?).map .name
  | "Aggregate" => (content.bind AggregateCall.ofTree?).map .aggregate
  | _ => none

def OrderItem.ofTree? (tree : Json) : Option OrderItem := do
  let fields ← record? false ["target", "direction"] tree
  some
    { target := ← required? ColumnRef.ofTree? "target" fields
      direction := ← required? Direction.ofTree? "direction" fields }

def Predicate.ofTree? (name : String) (content : Json) : Option Predicate :=
  match name with
  | "Compare" => do
      let fields ← record? false ["field", "op", "value"] content
      some
        (.compare (← required? Json.toString? "field" fields)
          (← required? Comparison.ofTree? "op" fields)
          (← required? Literal.ofTree? "value" fields))
  | "Like" => do
      let fields ← record? false ["field", "pattern", "negated"] content
      some
        (.like (← required? Json.toString? "field" fields)
          (← required? Json.toString? "pattern" fields)
          (← required? Json.bool? "negated" fields))
  | "In" => do
      let fields ← record? false ["field", "values", "negated"] content
      some
        (.member (← required? Json.toString? "field" fields)
          (← required? (list? Literal.ofTree?) "values" fields)
          (← required? Json.bool? "negated" fields))
  | "Between" => do
      let fields ← record? false ["field", "low", "high", "negated"] content
      some
        (.between (← required? Json.toString? "field" fields)
          (← required? Literal.ofTree? "low" fields)
          (← required? Literal.ofTree? "high" fields)
          (← required? Json.bool? "negated" fields))
  | "IsNull" => do
      let fields ← record? false ["field", "negated"] content
      some
        (.isNull (← required? Json.toString? "field" fields)
          (← required? Json.bool? "negated" fields))
  | _ => none

def Threshold.ofTree? (name : String) (content : Json) : Option Threshold :=
  match name with
  | "Compare" => do
      let fields ← record? false ["target", "op", "value"] content
      some
        { target := ← required? ColumnRef.ofTree? "target" fields
          op := ← required? Comparison.ofTree? "op" fields
          value := ← required? Literal.ofTree? "value" fields }
  | _ => none

/-- A formula of at most `levels` levels, whose leaves `leaf?` reads. -/
def Formula.ofTreeWithin? {alpha : Type} (leaf? : String -> Json -> Option alpha) :
    Nat -> Json -> Option (Formula alpha)
  | 0, _ => none
  | levels + 1, tree => do
      let (name, content) ← choice? tree
      let content ← content
      match name with
      | "And" => (list? (Formula.ofTreeWithin? leaf? levels) content).map .all
      | "Or" => (list? (Formula.ofTreeWithin? leaf? levels) content).map .any
      | "Not" => (Formula.ofTreeWithin? leaf? levels content).map .negation
      | _ => (leaf? name content).map .leaf

def Formula.ofTree? {alpha : Type} (leaf? : String -> Json -> Option alpha) (tree : Json) :
    Option (Formula alpha) :=
  Formula.ofTreeWithin? leaf? (tree.depth + 1) tree

def Statement.ofTree? (tree : Json) : Option Statement := do
  let fields ←
    record? false ["source", "select", "filter", "group_by", "having", "order_by", "limit"] tree
  some
    { source := ← required? Source.ofTree? "source" fields
      select := ← required? (list? SelectItem.ofTree?) "select" fields
      filter := ← optional? (Formula.ofTree? Predicate.ofTree?) "filter" fields
      groups := ← required? (list? GroupTerm.ofTree?) "group_by" fields
      having := ← optional? (Formula.ofTree? Threshold.ofTree?) "having" fields
      order := ← required? (list? OrderItem.ofTree?) "order_by" fields
      limit := ← optional? Json.size? "limit" fields }

end Sql
end Rollup
