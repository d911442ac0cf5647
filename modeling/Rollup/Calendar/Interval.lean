import Rollup.Number.Reading
import Rollup.Text.Case
import Rollup.Text.Blank

/-!
# Date intervals

The step of a date histogram. A calendar interval is one minute, hour, day and so on
and follows the calendar. A fixed interval is a whole number of units of constant
length. A text such as `1.5h` is brought to the coarsest unit in which its quantity
is whole.
-/

namespace Rollup
namespace Calendar

inductive Unit where
  | minute
  | hour
  | day
  | week
  | month
  | quarter
  | year
deriving DecidableEq, Repr

namespace Unit

def symbol : Unit -> String
  | .minute => "m"
  | .hour => "h"
  | .day => "d"
  | .week => "w"
  | .month => "M"
  | .quarter => "q"
  | .year => "y"

def word : Unit -> String
  | .minute => "minute"
  | .hour => "hour"
  | .day => "day"
  | .week => "week"
  | .month => "month"
  | .quarter => "quarter"
  | .year => "year"

def all : List Unit :=
  [.minute, .hour, .day, .week, .month, .quarter, .year]

def ofWord? (text : String) : Option Unit :=
  all.find? (fun unit => unit.word == Text.lower text)

def ofSymbol? (text : String) : Option Unit :=
  all.find? (fun unit => unit.symbol == text)

end Unit

inductive FixedUnit where
  | day
  | hour
  | minute
  | second
  | millisecond
deriving DecidableEq, Repr

namespace FixedUnit

def symbol : FixedUnit -> String
  | .day => "d"
  | .hour => "h"
  | .minute => "m"
  | .second => "s"
  | .millisecond => "ms"

def millis : FixedUnit -> Nat
  | .day => 86400000
  | .hour => 3600000
  | .minute => 60000
  | .second => 1000
  | .millisecond => 1

def all : List FixedUnit :=
  [.day, .hour, .minute, .second, .millisecond]

def downFrom (text : String) : List FixedUnit :=
  all.dropWhile (fun unit => unit.symbol != text)

end FixedUnit

inductive Interval where
  | calendar (unit : Unit)
  | fixed (count : Nat) (unit : FixedUnit)
deriving DecidableEq, Repr

inductive IntervalFault where
  | noUnit (raw : String)
  | invalidQuantity (raw : String)
  | notPositive (raw : String)
  | calendarQuantity (unit : String)
  | unknownUnit (unit : String)
  | belowMillisecond (raw : String)
  | tooLarge (raw : String)
deriving DecidableEq, Repr

def IntervalFault.message : IntervalFault -> String
  | .noUnit raw => s!"interval '{raw}' has no unit"
  | .invalidQuantity raw => s!"invalid interval quantity in '{raw}'"
  | .notPositive raw => s!"interval '{raw}' must be positive"
  | .calendarQuantity unit => s!"calendar unit '{unit}' only supports a quantity of 1"
  | .unknownUnit unit => s!"unknown interval unit '{unit}'"
  | .belowMillisecond raw => s!"interval '{raw}' is below one millisecond"
  | .tooLarge raw => s!"interval '{raw}' is too large"

namespace Interval

def text : Interval -> String
  | .calendar unit => "1" ++ unit.symbol
  | .fixed count unit => toString count ++ unit.symbol

def millis? : Interval -> Option Nat
  | .calendar _ => none
  | .fixed count unit => some (count * unit.millis)

def isWhole (quantity : Float) : Bool :=
  !((quantity - Number.roundFloat quantity).abs > 1e-9)

def settle : List FixedUnit -> Float -> Option (FixedUnit × Float)
  | [], _ => none
  | [unit], quantity => if isWhole quantity then some (unit, quantity) else none
  | unit :: finer :: rest, quantity =>
      if isWhole quantity then
        some (unit, quantity)
      else
        settle (finer :: rest) (quantity * Float.ofNat (unit.millis / finer.millis))

/-- A whole quantity of a unit, if its length is positive and fits 64 bits. -/
def ofQuantity? (unit : FixedUnit) (quantity : Float) : Option Interval :=
  if quantity >= Float.ofInt Number.maxInt64 then
    none
  else
    let count := (Number.toInt64By Number.Dyadic.round quantity).toNat
    let length : Int := count * unit.millis
    if 0 < length && length <= Number.maxInt64 then some (.fixed count unit) else none

def parseQuantity (raw : String) (quantity : Float) (unit : String) :
    Except IntervalFault Interval :=
  let calendar? := Unit.ofSymbol? unit
  match quantity == 1.0, calendar?, FixedUnit.downFrom unit with
  | true, some calendarUnit, _ => .ok (.calendar calendarUnit)
  | _, some _, [] => .error (.calendarQuantity unit)
  | _, none, [] => .error (.unknownUnit unit)
  | _, _, units =>
      match settle units quantity with
      | none => .error (.belowMillisecond raw)
      | some (settled, amount) =>
          match ofQuantity? settled amount with
          | some interval => .ok interval
          | none => .error (.tooLarge raw)

def isQuantityChar (c : Char) : Bool :=
  c.isDigit || c == '.'

/-- Reads `1h`, `hour`, `1.5h`, `30s` and the like. -/
def parse (input : String) : Except IntervalFault Interval :=
  let raw := Text.trim input
  match Unit.ofWord? raw with
  | some unit => .ok (.calendar unit)
  | none =>
      let number := raw.toList.takeWhile isQuantityChar
      let unit := raw.toList.dropWhile isQuantityChar
      if unit = [] then
        .error (.noUnit raw)
      else
        match Number.readFloat? (String.ofList number) with
        | none => .error (.invalidQuantity raw)
        | some quantity =>
            if quantity <= 0 then
              .error (.notPositive raw)
            else
              parseQuantity raw quantity (String.ofList unit)

end Interval
end Calendar
end Rollup
