import Rollup.Request.Filter
import Rollup.Store.Order

/-!
# Filters over documents

A filter on a field holds of a document if it holds of one of the field's values.
-/

namespace Rollup
namespace Store

open Request (Bounds Filter)

def meetsBound (value : Json) (bound : Option Json) (wanted : Ordering -> Bool) : Bool :=
  match bound with
  | none => true
  | some limit =>
      match compareForRange value limit with
      | some order => wanted order
      | none => false

def inBounds (value : Json) (bounds : Bounds) : Bool :=
  meetsBound value bounds.gte (fun order => order != .lt)
    && meetsBound value bounds.gt (fun order => order == .gt)
    && meetsBound value bounds.lte (fun order => order != .gt)
    && meetsBound value bounds.lt (fun order => order == .lt)

def matchesText (pattern : String) : Json -> Bool
  | .str text => Text.matchesWildcard pattern text
  | _ => false

/-- How many of the `should` parts have to hold. -/
def shouldCount (must filter : List Filter) (minimum : Option Nat) : Nat :=
  match minimum with
  | some count => count
  | none => if must.isEmpty && filter.isEmpty then 1 else 0

mutual

def matchesFilter (doc : Document) : Filter -> Bool
  | .matchAll => true
  | .term fields =>
      fields.all (fun (field, wanted) =>
        (doc.values field).any (fun value => valuesEqual value wanted))
  | .terms fields =>
      fields.all (fun (field, wanted) =>
        (doc.values field).any (fun value => wanted.any (valuesEqual value)))
  | .range fields =>
      fields.all (fun (field, bounds) =>
        (doc.values field).any (fun value => inBounds value bounds))
  | .wildcard fields =>
      fields.all (fun (field, pattern) => (doc.values field).any (matchesText pattern))
  | .present field => doc.hasField field
  | .bool must should mustNot filter minimum =>
      matchCount doc must == must.length
        && matchCount doc filter == filter.length
        && matchCount doc mustNot == 0
        && (should.isEmpty || shouldCount must filter minimum <= matchCount doc should)

def matchCount (doc : Document) : List Filter -> Nat
  | [] => 0
  | part :: rest => (if matchesFilter doc part then 1 else 0) + matchCount doc rest

end

end Store
end Rollup
