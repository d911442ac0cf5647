import Rollup.Json.Printer
import Rollup.Number.Reading
import Rollup.Sql.Statement
import Rollup.Store.Document
import Rollup.Text.Blank

/-!
# Comparing values

Three comparisons serve three purposes: equality of terms, the partial order of range
filters, and a total order for sorting. Texts that read as numbers count as numbers
in the first two.
-/

namespace Rollup
namespace Store

open Sql (Direction)

def asNumber? : Json -> Option Float
  | .str text => Number.readFloat? (Text.trim text)
  | value => value.toFloat?

def compareStrings (a b : String) : Ordering :=
  if a < b then .lt else if a = b then .eq else .gt

def compareFloats? (a b : Float) : Option Ordering :=
  if a < b then some .lt
  else if a == b then some .eq
  else if a > b then some .gt
  else none

def compareFloats (a b : Float) : Ordering :=
  (compareFloats? a b).getD .eq

def isNumber : Json -> Bool
  | .int _ => true
  | .float _ => true
  | _ => false

def valuesEqual (value wanted : Json) : Bool :=
  if isNumber value || isNumber wanted then
    match asNumber? value, asNumber? wanted with
    | some a, some b => a == b
    | _, _ => false
  else
    value.same wanted

/-- Order of a document's value and a bound: as numbers if both are, else as texts. -/
def compareForRange (value bound : Json) : Option Ordering :=
  match asNumber? value, asNumber? bound with
  | some a, some b => compareFloats? a b
  | _, _ =>
      match value, bound with
      | .str a, .str b => some (compareStrings a b)
      | _, _ => none

/-- Numbers come before texts, texts before truth values, and these before the rest. -/
def rank : Json -> Nat
  | .int _ => 0
  | .float _ => 0
  | .str _ => 1
  | .bool _ => 2
  | _ => 3

def compareValues (a b : Json) : Ordering :=
  match a.toFloat?, b.toFloat? with
  | some x, some y => compareFloats x y
  | _, _ =>
      match a, b with
      | .str x, .str y => compareStrings x y
      | .bool x, .bool y => compare x.toNat y.toNat
      | _, _ => (compare (rank a) (rank b)).then (compareStrings a.text b.text)

def orient (direction : Direction) (order : Ordering) : Ordering :=
  match direction with
  | .asc => order
  | .desc => order.swap

/-!
# Sorting documents

Ascending keys use the least value of a field and descending keys the greatest.
Documents without the field come last either way.
-/

def leastBy (order : Json -> Json -> Ordering) : List Json -> Option Json
  | [] => none
  | first :: rest =>
      some (rest.foldl (fun best value => if order value best == .lt then value else best) first)

def sortValue (direction : Direction) (doc : Document) (field : String) : Option Json :=
  leastBy (fun a b => orient direction (compareValues a b)) (doc.values field)

def compareSortValues (direction : Direction) : Option Json -> Option Json -> Ordering
  | some a, some b => orient direction (compareValues a b)
  | some _, none => .lt
  | none, some _ => .gt
  | none, none => .eq

def firstDecided : List Ordering -> Ordering
  | [] => .eq
  | order :: rest => order.then (firstDecided rest)

def sortKeys (sort : List (List (String × Direction))) : List (String × Direction) :=
  sort.flatten.filter (fun (field, _) => field != "_doc" && field != "_score")

def compareKeyed (directions : List Direction) (a b : List (Option Json)) : Ordering :=
  firstDecided
    ((directions.zip (a.zip b)).map (fun (direction, x, y) => compareSortValues direction x y))

/-- Sorts by the keys in turn; documents that agree in all of them keep their order. -/
def sortDocuments (sort : List (List (String × Direction))) (docs : List Document) :
    List Document :=
  let keys := sortKeys sort
  let directions := keys.map (fun key => key.2)
  let keyed :=
    docs.map (fun doc => (keys.map (fun (field, direction) => sortValue direction doc field), doc))
  (keyed.mergeSort (fun a b => compareKeyed directions a.1 b.1 != .gt)).map (fun entry => entry.2)

end Store
end Rollup
