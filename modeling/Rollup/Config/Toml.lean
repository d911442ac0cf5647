import Rollup.Json.Basic
import Rollup.Number.Reading

/-!
# TOML values

Configuration files are written in TOML. A table remembers how it came about, because
that decides whether a later line may extend it.
-/

namespace Rollup
namespace Toml

inductive Origin where
  | header
  | implied
  | dotted
  | inline
deriving DecidableEq, Repr

inductive Value where
  | text (value : String)
  | int (value : Int)
  | float (value : Float)
  | bool (value : Bool)
  | date (raw : String)
  | list (items : List Value)
  | table (origin : Origin) (fields : List (String × Value))
  | tables (rows : List (List (String × Value)))
deriving Repr

abbrev Fields := List (String × Value)

mutual

def Value.json : Value -> Json
  | .text value => .str value
  | .int value => .int value
  | .float value => .float value
  | .bool value => .bool value
  | .date raw => .obj [("date", .str raw)]
  | .list items => .arr (Value.jsonList items)
  | .table _ fields => Json.ofFields (Value.jsonFields fields)
  | .tables rows => .arr (Value.jsonRows rows)

def Value.jsonList : List Value -> List Json
  | [] => []
  | item :: rest => Value.json item :: Value.jsonList rest

def Value.jsonFields : List (String × Value) -> List (String × Json)
  | [] => []
  | (key, value) :: rest => (key, Value.json value) :: Value.jsonFields rest

def Value.jsonRows : List (List (String × Value)) -> List Json
  | [] => []
  | row :: rest => Json.ofFields (Value.jsonFields row) :: Value.jsonRows rest

end

/-!
# Building tables
-/

def replaceField (key : String) (value : Value) (fields : Fields) : Fields :=
  fields.map (fun entry => if entry.1 = key then (key, value) else entry)

def updateLast (update : Fields -> Option Fields) : List Fields -> Option (List Fields)
  | [] => none
  | [row] => (update row).map (fun updated => [updated])
  | row :: rest => (updateLast update rest).map (fun updated => row :: updated)

def insertNew (key : String) (value : Value) (fields : Fields) : Option Fields :=
  if (fields.lookup key).isSome then none else some (fields ++ [(key, value)])

def insertDotted (key : String) (value : Value) : List String -> Fields -> Option Fields
  | [], fields => insertNew key value fields
  | name :: path, fields =>
      match fields.lookup name with
      | none =>
          (insertDotted key value path []).map (fun inner =>
            fields ++ [(name, .table .dotted inner)])
      | some (.table .dotted inner) =>
          (insertDotted key value path inner).map (fun updated =>
            replaceField name (.table .dotted updated) fields)
      | some (.table .implied inner) =>
          if path.isEmpty then
            none
          else
            (insertDotted key value path inner).map (fun updated =>
              replaceField name (.table .implied updated) fields)
      | some _ => none

def atHeader (change : Option Value -> Option Value) : List String -> Fields -> Option Fields
  | [], fields => some fields
  | [name], fields =>
      match fields.lookup name, change (fields.lookup name) with
      | _, none => none
      | none, some value => some (fields ++ [(name, value)])
      | some _, some value => some (replaceField name value fields)
  | name :: path, fields =>
      match fields.lookup name with
      | none =>
          (atHeader change path []).map (fun inner => fields ++ [(name, .table .implied inner)])
      | some (.table .inline _) => none
      | some (.table origin inner) =>
          (atHeader change path inner).map (fun updated =>
            replaceField name (.table origin updated) fields)
      | some (.tables rows) =>
          (updateLast (atHeader change path) rows).map (fun updated =>
            replaceField name (.tables updated) fields)
      | some _ => none

def openTable : Option Value -> Option Value
  | none => some (.table .header [])
  | some (.table .implied fields) => some (.table .header fields)
  | some _ => none

def openRow : Option Value -> Option Value
  | none => some (.tables [[]])
  | some (.tables rows) => some (.tables (rows ++ [[]]))
  | some _ => none

def inTable (update : Fields -> Option Fields) : Option Value -> Option Value
  | some (.table origin fields) => (update fields).map (fun updated => .table origin updated)
  | some (.tables rows) => (updateLast update rows).map (fun updated => .tables updated)
  | _ => none

def updateTable (path : List String) (update : Fields -> Option Fields) (fields : Fields) :
    Option Fields :=
  if path.isEmpty then update fields else atHeader (inTable update) path fields

end Toml
end Rollup
