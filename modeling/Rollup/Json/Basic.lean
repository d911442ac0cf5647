import Rollup.Number.Dyadic

/-!
# JSON values

Integers and floats are different values, also when they are equal as numbers.
Objects are association lists in ascending order of their keys, with each key once;
`Json.ofFields` and `insertField` build them so.
-/

namespace Rollup

inductive Json where
  | null
  | bool (value : Bool)
  | int (value : Int)
  | float (value : Float)
  | str (value : String)
  | arr (items : List Json)
  | obj (fields : List (String × Json))
deriving Repr, Inhabited

/-!
# Sorted association lists

Maps of the library are lists in ascending order of their keys. The same two
operations serve objects, aggregation maps and result rows.
-/

def insertField {alpha : Type} (key : String) (value : alpha) :
    List (String × alpha) -> List (String × alpha)
  | [] => [(key, value)]
  | (k, v) :: rest =>
      if key < k then
        (key, value) :: (k, v) :: rest
      else if key = k then
        (key, value) :: rest
      else
        (k, v) :: insertField key value rest

def fieldMap {alpha : Type} (entries : List (String × alpha)) : List (String × alpha) :=
  entries.foldl (fun fields entry => insertField entry.1 entry.2 fields) []

namespace Json

def ofFields (entries : List (String × Json)) : Json :=
  .obj (fieldMap entries)

/-- The number, and `null` for an infinity or a NaN, which JSON cannot write. -/
def ofFloat (x : Float) : Json :=
  if x.isFinite then .float x else .null

def ofFloat? : Option Float -> Json
  | some x => ofFloat x
  | none => .null

def ofNat (n : Nat) : Json :=
  .int n

def ofString? : Option String -> Json
  | some s => .str s
  | none => .null

def field? (key : String) : Json -> Option Json
  | .obj fields => fields.lookup key
  | _ => none

def toFloat? : Json -> Option Float
  | .int n => some (Float.ofInt n)
  | .float x => some x
  | _ => none

def toNat? : Json -> Option Nat
  | .int n => if 0 <= n then some n.toNat else none
  | _ => none

/-- The number, if it is an integer of the signed 64-bit range. -/
def toInt64? : Json -> Option Int
  | .int n => if Number.fitsInt64 n then some n else none
  | _ => none

def toString? : Json -> Option String
  | .str s => some s
  | _ => none

def toList? : Json -> Option (List Json)
  | .arr items => some items
  | _ => none

def toFields? : Json -> Option (List (String × Json))
  | .obj fields => some fields
  | _ => none

def isNull : Json -> Bool
  | .null => true
  | _ => false

/-!
# Equality

Two values are the same when they have the same shape and leaves. Floats are
compared as numbers, so that the two zeros are the same.
-/

mutual

def same : Json -> Json -> Bool
  | .null, .null => true
  | .bool a, .bool b => a == b
  | .int a, .int b => a == b
  | .float a, .float b => a == b
  | .str a, .str b => a == b
  | .arr a, .arr b => sameItems a b
  | .obj a, .obj b => sameFields a b
  | _, _ => false

def sameItems : List Json -> List Json -> Bool
  | [], [] => true
  | a :: as, b :: bs => same a b && sameItems as bs
  | _, _ => false

def sameFields : List (String × Json) -> List (String × Json) -> Bool
  | [], [] => true
  | (k, a) :: as, (l, b) :: bs => k == l && same a b && sameFields as bs
  | _, _ => false

end

end Json
end Rollup
