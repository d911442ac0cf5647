import Rollup.Calendar.Reading

/-!
# Date math

Expressions such as `now-8d/d` and `2014-08-18||+1M`: an anchor, then steps that move
it by an amount of a unit or round it down to one.
-/

namespace Rollup
namespace Calendar

inductive DateFault where
  | unparsable (text : String)
  | invalidAmount (expression : String)
  | missingUnit (expression : String)
  | overflow (expression : String)
  | missingRounding (expression : String)
  | invalidRounding (unit : Char) (expression : String)
  | unexpected (c : Char) (expression : String)
  /-- The amount is not a length of time: it has more than 2 ^ 63 milliseconds. -/
  | immeasurable (expression : String)
deriving DecidableEq, Repr

def DateFault.message : DateFault -> String
  | .unparsable text => s!"cannot parse date '{text}'"
  | .invalidAmount expression => s!"invalid amount in '{expression}'"
  | .missingUnit expression => s!"missing unit in '{expression}'"
  | .overflow expression => s!"date math overflow in '{expression}'"
  | .missingRounding expression => s!"missing rounding unit in '{expression}'"
  | .invalidRounding unit expression => s!"invalid rounding unit '{unit}' in '{expression}'"
  | .unexpected c expression => s!"unexpected '{c}' in date math '{expression}'"
  | .immeasurable expression => s!"immeasurable amount in '{expression}'"

def maxSpanSeconds : Nat := 9223372036854775

/-- Result of a step: the instant, none in the calendar, or an amount that is no length of time. -/
inductive Moved where
  | to (instant : Instant)
  | outside
  | immeasurable
deriving DecidableEq, Repr

def Moved.ofOption : Option Instant -> Moved
  | some instant => .to instant
  | none => .outside

def moveBySeconds (instant : Instant) (seconds amount : Int) : Moved :=
  let total := seconds * amount
  if maxSpanSeconds < total.natAbs then .immeasurable else .ofOption (instant.addSeconds? total)

/-- Moves by months, of which fewer than 2 ^ 32 can be given. -/
def moveByMonths (instant : Instant) (months : Int) : Moved :=
  if months.natAbs < 0x100000000 then .ofOption (instant.addMonths? months) else .outside

def move (instant : Instant) (unit : Char) (amount : Int) : Moved :=
  match unit with
  | 'y' => if Number.fitsInt64 (amount * 12) then moveByMonths instant (amount * 12) else .outside
  | 'M' => moveByMonths instant amount
  | 'w' => if Number.fitsInt64 (amount * 7) then moveBySeconds instant 604800 amount else .outside
  | 'd' => moveBySeconds instant 86400 amount
  | 'h' | 'H' => moveBySeconds instant 3600 amount
  | 'm' => moveBySeconds instant 60 amount
  | 's' => moveBySeconds instant 1 amount
  | _ => .outside

def roundDown? (instant : Instant) (unit : Char) : Option Instant :=
  match unit with
  | 'y' => instant.floor? .year
  | 'M' => instant.floor? .month
  | 'w' => instant.floor? .week
  | 'd' => instant.floor? .day
  | 'h' | 'H' => instant.floor? .hour
  | 'm' => instant.floor? .minute
  | 's' => instant.floorMillis? 1000
  | _ => none

def stepAmount? (digits : List Char) : Option Nat :=
  if digits = [] then
    some 1
  else
    let value := Number.digitsValue 0 digits
    if (value : Int) <= Number.maxInt64 then some value else none

def applySteps (expression : String) (instant : Instant) (cs : List Char) :
    Except DateFault Instant :=
  match cs with
  | [] => .ok instant
  | '/' :: [] => .error (.missingRounding expression)
  | '/' :: unit :: rest =>
      match roundDown? instant unit with
      | some rounded => applySteps expression rounded rest
      | none => .error (.invalidRounding unit expression)
  | sign :: rest =>
      if sign = '+' || sign = '-' then
        match stepAmount? (rest.takeWhile Char.isDigit) with
        | none => .error (.invalidAmount expression)
        | some size =>
            match _h : rest.dropWhile Char.isDigit with
            | [] => .error (.missingUnit expression)
            | unit :: tail =>
                match move instant unit (if sign = '-' then -(size : Int) else size) with
                | .to moved => applySteps expression moved tail
                | .outside => .error (.overflow expression)
                | .immeasurable => .error (.immeasurable expression)
      else
        .error (.unexpected sign expression)
termination_by cs.length
decreasing_by
  · simp only [List.length_cons]
    omega
  · have shorter := (List.dropWhile_sublist Char.isDigit (l := rest)).length_le
    rw [_h] at shorter
    simp only [List.length_cons] at shorter ⊢
    omega

/-- The text before the first `||` and the text after it. -/
def splitAnchor? : List Char -> Option (List Char × List Char)
  | '|' :: '|' :: rest => some ([], rest)
  | c :: rest => (splitAnchor? rest).map (fun (anchor, steps) => (c :: anchor, steps))
  | [] => none

def anchorAt (text : String) (pattern : Option String) : Except DateFault Instant :=
  match readDate text pattern with
  | some instant => .ok instant
  | none => .error (.unparsable text)

def resolveDate (input : String) (now : Instant) (pattern : Option String) :
    Except DateFault Instant :=
  let expression := Text.trim input
  match expression.toList with
  | 'n' :: 'o' :: 'w' :: steps => applySteps expression now steps
  | cs =>
      match splitAnchor? cs with
      | some (anchor, steps) => do
          let instant <- anchorAt (String.ofList anchor) pattern
          applySteps expression instant steps
      | none => anchorAt expression pattern

end Calendar
end Rollup
