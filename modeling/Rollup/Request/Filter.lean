import Rollup.Json.Decode

/-!
# Filters of a request

A filter selects documents. Every filter but `matchAll` and `bool` names fields, and
one that names several holds where it holds for each of them.
-/

namespace Rollup
namespace Request

structure Bounds where
  gte : Option Json := none
  gt : Option Json := none
  lte : Option Json := none
  lt : Option Json := none
deriving Repr

inductive Filter where
  | matchAll
  | term (fields : List (String × Json))
  | terms (fields : List (String × List Json))
  | range (fields : List (String × Bounds))
  | wildcard (fields : List (String × String))
  | present (field : String)
  | bool (must should mustNot filter : List Filter) (minimumShouldMatch : Option Nat)
deriving Repr, Inhabited

namespace Filter

def negate (inner : Filter) : Filter :=
  .bool [] [] [inner] [] none

def negateIf (negated : Bool) (inner : Filter) : Filter :=
  if negated then negate inner else inner

def all (parts : List Filter) : Filter :=
  .bool [] [] [] parts none

def any (parts : List Filter) : Filter :=
  .bool [] parts [] [] (some 1)

end Filter

/-!
# Writing
-/

open Json (ofFields ofPresent record? required? optional? listOrEmpty? map? list? choice?)

def Bounds.json (bounds : Bounds) : Json :=
  ofPresent [("gte", bounds.gte), ("gt", bounds.gt), ("lte", bounds.lte), ("lt", bounds.lt)]

def unlessEmpty (items : List Json) : Option Json :=
  if items.isEmpty then none else some (.arr items)

mutual

def Filter.json : Filter -> Json
  | .matchAll => .obj [("match_all", .obj [])]
  | .term fields => .obj [("term", ofFields fields)]
  | .terms fields =>
      .obj [("terms", ofFields (fields.map (fun (field, values) => (field, .arr values))))]
  | .range fields =>
      .obj [("range", ofFields (fields.map (fun (field, bounds) => (field, bounds.json))))]
  | .wildcard fields =>
      .obj [("wildcard", ofFields (fields.map (fun (field, pattern) => (field, .str pattern))))]
  | .present field => .obj [("exists", .obj [("field", .str field)])]
  | .bool must should mustNot filter minimum =>
      .obj
        [ ("bool",
            ofPresent
              [ ("must", unlessEmpty (Filter.jsonList must))
              , ("should", unlessEmpty (Filter.jsonList should))
              , ("must_not", unlessEmpty (Filter.jsonList mustNot))
              , ("filter", unlessEmpty (Filter.jsonList filter))
              , ("minimum_should_match", minimum.map Json.ofNat) ]) ]

def Filter.jsonList : List Filter -> List Json
  | [] => []
  | part :: rest => Filter.json part :: Filter.jsonList rest

end

/-!
# Reading
-/

def Bounds.ofJson? (value : Json) : Option Bounds := do
  let fields <- record? true ["gte", "gt", "lte", "lt"] value
  return {
    gte := <- optional? some "gte" fields
    gt := <- optional? some "gt" fields
    lte := <- optional? some "lte" fields
    lt := <- optional? some "lt" fields }

def Filter.ofJsonWithin? : Nat -> Json -> Option Filter
  | 0, _ => none
  | depth + 1, value => do
      let (name, content?) <- choice? value
      let content <- content?
      match name with
      | "match_all" =>
          let _ <- record? true [] content
          return .matchAll
      | "term" => return .term (<- map? some content)
      | "terms" => return .terms (<- map? (list? some) content)
      | "range" => return .range (<- map? Bounds.ofJson? content)
      | "wildcard" => return .wildcard (<- map? Json.toString? content)
      | "exists" =>
          let fields <- record? true ["field"] content
          return .present (<- required? Json.toString? "field" fields)
      | "bool" =>
          let fields <-
            record? true ["must", "should", "must_not", "filter", "minimum_should_match"] content
          let part? := Filter.ofJsonWithin? depth
          return .bool
            (<- listOrEmpty? part? "must" fields)
            (<- listOrEmpty? part? "should" fields)
            (<- listOrEmpty? part? "must_not" fields)
            (<- listOrEmpty? part? "filter" fields)
            (<- optional? (Json.natBelow? 0x100000000) "minimum_should_match" fields)
      | _ => none

def Filter.ofJson? (value : Json) : Option Filter :=
  Filter.ofJsonWithin? value.depth value

end Request
end Rollup
