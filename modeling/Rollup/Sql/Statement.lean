import Rollup.Sql.Formula
import Rollup.Sql.Token
import Rollup.Json.Basic
import Rollup.Number.Reading

/-!
# SELECT statements

The meaning-bearing parts of a query: what is selected, from where, under which
condition, in which groups and in which order. Numbers keep the text they were
written with.
-/

namespace Rollup
namespace Sql

inductive Literal where
  | number (raw : String)
  | text (value : String)
  | bool (value : Bool)
deriving DecidableEq, Repr

namespace Literal

def toFloat? : Literal -> Option Float
  | .number raw => Number.readFloat? raw
  | _ => none

def render : Literal -> String
  | .number raw => raw
  | .text value => value
  | .bool true => "true"
  | .bool false => "false"

/-- The JSON value the literal stands for. A number is an integer where 64 bits hold it. -/
def toJson : Literal -> Json
  | .number raw =>
      match Number.readInt64? raw with
      | some n => .int n
      | none =>
          match Number.readFloat? raw with
          | some x => Json.ofFloat x
          | none => .str raw
  | .text value => .str value
  | .bool value => .bool value

end Literal

inductive Direction where
  | asc
  | desc
deriving DecidableEq, Repr

namespace Direction

def keyword : Direction -> String
  | .asc => "asc"
  | .desc => "desc"

def ofKeyword? (word : String) : Option Direction :=
  if Text.eqIgnoreAsciiCase word "asc" then some .asc
  else if Text.eqIgnoreAsciiCase word "desc" then some .desc
  else none

end Direction

/-!
# Calls

An aggregate call computes a metric. A bucket call in GROUP BY groups documents by
ranges or intervals.
-/

inductive Argument where
  | star
  | field (name : String)
deriving DecidableEq, Repr

structure AggregateCall where
  function : String
  argument : Option Argument
  distinct : Bool
  parameters : List (String × Literal)
  positional : List Literal
  label : Option String
deriving DecidableEq, Repr

namespace AggregateCall

def argumentNames (call : AggregateCall) : List String :=
  match call.argument with
  | some .star => ["*"]
  | some (.field name) => [if call.distinct then "DISTINCT " ++ name else name]
  | none => []

def canonicalName (call : AggregateCall) : String :=
  let parameters := call.parameters.map (fun (key, value) => key ++ "=" ++ value.render)
  let parts := call.argumentNames ++ parameters ++ call.positional.map Literal.render
  Text.upper call.function ++ "(" ++ String.intercalate "," parts ++ ")"

def displayName (call : AggregateCall) : String :=
  call.label.getD call.canonicalName

end AggregateCall

/-- A grouping function such as `range(age, 20, 25, 30)`. -/
structure BucketCall where
  function : String
  field : Option String
  parameters : List (String × Literal)
  boundaries : List Literal
deriving DecidableEq, Repr

/-!
# Clauses
-/

structure Source where
  index : String
  docType : Option String
deriving DecidableEq, Repr

inductive SelectItem where
  | star
  | field (name : String) (label : Option String)
  | aggregate (call : AggregateCall)
deriving DecidableEq, Repr

namespace SelectItem

def displayName : SelectItem -> String
  | .star => "*"
  | .field name label => label.getD name
  | .aggregate call => call.displayName

def isStar : SelectItem -> Bool
  | .star => true
  | _ => false

def call? : SelectItem -> Option AggregateCall
  | .aggregate call => some call
  | _ => none

end SelectItem

inductive GroupTerm where
  | plain (field : String)
  | call (bucket : BucketCall)
deriving DecidableEq, Repr

/-- A result column named in ORDER BY or HAVING. -/
inductive ColumnRef where
  | name (text : String)
  | aggregate (call : AggregateCall)
deriving DecidableEq, Repr

def ColumnRef.lookupName : ColumnRef -> String
  | .name text => text
  | .aggregate call => call.canonicalName

structure OrderItem where
  target : ColumnRef
  direction : Direction
deriving DecidableEq, Repr

inductive Predicate where
  | compare (field : String) (op : Comparison) (value : Literal)
  | like (field : String) (pattern : String) (negated : Bool)
  | member (field : String) (values : List Literal) (negated : Bool)
  | between (field : String) (low high : Literal) (negated : Bool)
  | isNull (field : String) (negated : Bool)
deriving DecidableEq, Repr

structure Threshold where
  target : ColumnRef
  op : Comparison
  value : Literal
deriving DecidableEq, Repr

abbrev Condition := Formula Predicate

abbrev Having := Formula Threshold

structure Statement where
  source : Source
  select : List SelectItem
  filter : Option Condition
  groups : List GroupTerm
  having : Option Having
  order : List OrderItem
  limit : Option Nat
deriving Repr

namespace Statement

def calls (statement : Statement) : List AggregateCall :=
  statement.select.filterMap SelectItem.call?

def isAggregation (statement : Statement) : Bool :=
  statement.groups != [] || statement.calls != []

end Statement

end Sql
end Rollup
