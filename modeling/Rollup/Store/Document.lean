import Rollup.Json.Basic
import Rollup.Text.Wildcard

/-!
# Documents

A document is a JSON value kept under an index, with an identity and possibly a type.
A field is named by a path: a key of the document, or keys joined by points.
-/

namespace Rollup
namespace Store

structure Document where
  index : String
  docType : Option String
  id : String
  source : Json
deriving Repr

mutual

/-- The values inside nested lists, without `null`. -/
def flatten : Json -> List Json
  | .null => []
  | .arr items => flattenAll items
  | value => [value]

def flattenAll : List Json -> List Json
  | [] => []
  | item :: rest => flatten item ++ flattenAll rest

end

def children (key : String) : Json -> List Json
  | .obj fields => (fields.lookup key).toList
  | .arr items => items.filterMap (Json.field? key)
  | _ => []

def descend : List String -> List Json -> List Json
  | [], values => values
  | key :: keys, values => descend keys (values.flatMap (children key))

namespace Document

/-- Values of a field. `_index`, `_id` and `_type` are those of the document itself. -/
def values (doc : Document) (path : String) : List Json :=
  match path with
  | "_index" => [.str doc.index]
  | "_id" => [.str doc.id]
  | "_type" => (doc.docType.map Json.str).toList
  | _ =>
      match doc.source.field? path with
      | some direct => flatten direct
      | none => flattenAll (descend (path.splitOn ".") [doc.source])

def hasField (doc : Document) (path : String) : Bool :=
  !(doc.values path).isEmpty

end Document

def parentKey? (path : String) : Option String :=
  match path.splitOn "." with
  | first :: _ :: _ => some first
  | _ => none

/-- The key is wanted: no pattern is given, one matches, or a path leads through the key. -/
def isIncluded (includes : List String) (key : String) : Bool :=
  includes.isEmpty
    || includes.any (fun pattern => Text.matchesWildcard pattern key)
    || (includes.filterMap parentKey?).contains key

def isExcluded (excludes : List String) (key : String) : Bool :=
  excludes.any (fun pattern => Text.matchesWildcard pattern key)

def filterSource (includes excludes : List String) : Json -> Json
  | .obj fields =>
      .obj (fields.filter (fun (key, _) => isIncluded includes key && !isExcluded excludes key))
  | source => source

namespace Document

def hit (doc : Document) (includes excludes : List String) : Json :=
  let docType :=
    match doc.docType with
    | some name => [("_type", Json.str name)]
    | none => []
  Json.ofFields
    ([ ("_index", .str doc.index)
     , ("_id", .str doc.id)
     , ("_score", .null)
     , ("_source", filterSource includes excludes doc.source) ] ++ docType)

end Document
end Store
end Rollup
