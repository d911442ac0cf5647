import Rollup.Json.Basic

/-!
# Decoding JSON values

Small readers for typed data. A record is an object, whose unknown fields are
ignored, or the list of its fields in order. A choice is the bare name of an
alternative, or an object with that name as its only key.
-/

namespace Rollup
namespace Json

def depth : Json -> Nat
  | .arr items => depthItems items + 1
  | .obj fields => depthFields fields + 1
  | _ => 1
where
  depthItems : List Json -> Nat
    | [] => 0
    | item :: rest => max (depth item) (depthItems rest)
  depthFields : List (String × Json) -> Nat
    | [] => 0
    | (_, value) :: rest => max (depth value) (depthFields rest)

def bool? : Json -> Option Bool
  | .bool value => some value
  | _ => none

def natBelow? (limit : Nat) (value : Json) : Option Nat :=
  match value.toNat? with
  | some n => if n < limit then some n else none
  | none => none

/-- A natural number of the unsigned 64-bit range. -/
def size? : Json -> Option Nat :=
  natBelow? 0x10000000000000000

def list? {alpha : Type} (item? : Json -> Option alpha) : Json -> Option (List alpha)
  | .arr items => items.mapM item?
  | _ => none

def map? {alpha : Type} (item? : Json -> Option alpha) : Json -> Option (List (String × alpha))
  | .obj fields => fields.mapM (fun (key, value) => (item? value).map (fun v => (key, v)))
  | _ => none

def nullable? {alpha : Type} (item? : Json -> Option alpha) : Json -> Option (Option alpha)
  | .null => some none
  | value => (item? value).map some

/-- The fields of a record. As a list it has to be complete unless it may be `short`. -/
def record? (short : Bool) (names : List String) : Json -> Option (List (String × Json))
  | .obj fields => some fields
  | .arr items =>
      if items.length = names.length || (short && items.length < names.length) then
        some (names.zip items)
      else
        none
  | _ => none

def required? {alpha : Type} (item? : Json -> Option alpha) (name : String)
    (fields : List (String × Json)) : Option alpha :=
  (fields.lookup name).bind item?

def optional? {alpha : Type} (item? : Json -> Option alpha) (name : String)
    (fields : List (String × Json)) : Option (Option alpha) :=
  match fields.lookup name with
  | some value => nullable? item? value
  | none => some none

def listOrEmpty? {alpha : Type} (item? : Json -> Option alpha) (name : String)
    (fields : List (String × Json)) : Option (List alpha) :=
  match fields.lookup name with
  | some value => list? item? value
  | none => some []

def choice? : Json -> Option (String × Option Json)
  | .str name => some (name, none)
  | .obj [(name, value)] => some (name, some value)
  | _ => none

/-- An alternative without content: its bare name, or the name with `null`. -/
def isBare : Option Json -> Bool
  | none => true
  | some .null => true
  | some _ => false

def pair? {alpha beta : Type} (first? : Json -> Option alpha) (second? : Json -> Option beta) :
    Json -> Option (alpha × beta)
  | .arr [a, b] =>
      match first? a, second? b with
      | some a, some b => some (a, b)
      | _, _ => none
  | _ => none

def ofPresent (fields : List (String × Option Json)) : Json :=
  ofFields (fields.filterMap (fun (name, value?) => value?.map (fun value => (name, value))))

end Json
end Rollup
