import Rollup.Json.Basic

/-!
# Results

A result row maps the names of aggregations to their values. A bucket has a row of its
own.
-/

namespace Rollup
namespace Answer

structure Stats where
  count : Nat
  min : Option Float
  max : Option Float
  avg : Option Float
  sum : Float
deriving DecidableEq, Repr

structure BucketHead where
  key : Json
  keyText : Option String
  docCount : Nat
  low : Option Json
  high : Option Json
deriving Repr

inductive Value where
  | missing
  | number (x : Float)
  | stats (stats : Stats)
  | percentiles (values : List (String × Option Float))
  | hits (sources : List Json)
  | buckets (rows : List (BucketHead × List (String × Value)))
deriving Repr

abbrev Row := List (String × Value)

/-- Documents found and the sources of those listed. -/
structure Hits where
  total : Nat
  sources : List Json
deriving Repr

end Answer

inductive Answer where
  | aggregations (row : Answer.Row)
  | hits (found : Answer.Hits)
deriving Repr

namespace Answer

/-!
# Results as JSON

Numbers of results are floats, also where they are whole.
-/

def Stats.json (stats : Stats) : Json :=
  Json.ofFields
    [ ("count", .ofNat stats.count)
    , ("min", Json.ofFloat? stats.min)
    , ("max", Json.ofFloat? stats.max)
    , ("avg", Json.ofFloat? stats.avg)
    , ("sum", Json.ofFloat stats.sum) ]

def percentilesJson (values : List (String × Option Float)) : Json :=
  Json.ofFields (values.map (fun (name, x) => (name, Json.ofFloat? x)))

def present (name : String) (value : Option Json) : List (String × Json) :=
  (value.map (fun json => (name, json))).toList

def BucketHead.entries (head : BucketHead) : List (String × Json) :=
  [("key", head.key), ("doc_count", .ofNat head.docCount)]
    ++ present "key_as_string" (head.keyText.map Json.str)
    ++ present "from" head.low
    ++ present "to" head.high

mutual

def Value.json : Value -> Json
  | .missing => .null
  | .number x => Json.ofFloat x
  | .stats stats => stats.json
  | .percentiles values => percentilesJson values
  | .hits sources => .arr sources
  | .buckets rows => .arr (bucketRowsJson rows)

def bucketRowsJson : List (BucketHead × List (String × Value)) -> List Json
  | [] => []
  | (head, row) :: rest =>
      Json.ofFields (head.entries ++ [("row", Json.ofFields (rowEntries row))])
        :: bucketRowsJson rest

def rowEntries : List (String × Value) -> List (String × Json)
  | [] => []
  | (name, value) :: rest => (name, Value.json value) :: rowEntries rest

end

def json : Answer -> Json
  | .aggregations row => .obj [("aggregations", Json.ofFields (rowEntries row))]
  | .hits found =>
      .obj [("hits", .obj [("rows", .arr found.sources), ("total", .ofNat found.total)])]

end Answer
end Rollup
