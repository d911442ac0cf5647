import Rollup.Calendar.Instant
import Rollup.Calendar.Pattern

/-!
# Writing dates

An instant is written field by field in UTC.
-/

namespace Rollup
namespace Calendar

def padLeft (width : Nat) (n : Nat) : String :=
  let digits := toString n
  String.ofList (List.replicate (width - digits.length) '0') ++ digits

def padIf (padded : Bool) (n : Nat) : String :=
  if padded then padLeft 2 n else toString n

/-- At least four digits, with a sign outside the years 0 to 9999. -/
def writeYear (year : Int) : String :=
  if year < 0 then
    "-" ++ padLeft 4 year.natAbs
  else if 9999 < year then
    "+" ++ padLeft 4 year.natAbs
  else
    padLeft 4 year.natAbs

def nameText (long : Bool) (name : String) : String :=
  if long then name else String.ofList (name.toList.take 3)

namespace Instant

def secondOfMinute (instant : Instant) : Nat :=
  instant.secondOfDay % 60 + instant.nanos / nanosPerSecond

def writeField (instant : Instant) : Field -> String
  | .year => writeYear instant.date.year
  | .shortYear => padLeft 2 (instant.date.year % 100).toNat
  | .month padded => padIf padded instant.date.month
  | .monthName long => nameText long (monthNames.getD (instant.date.month - 1) "")
  | .day padded => padIf padded instant.date.day
  | .dayOfYear => padLeft 3 instant.date.ordinal
  | .hour padded => padIf padded (instant.secondOfDay / 3600)
  | .halfDayHour padded => padIf padded ((instant.secondOfDay / 3600 + 11) % 12 + 1)
  | .minute padded => padIf padded (instant.secondOfDay / 60 % 60)
  | .second padded => padIf padded instant.secondOfMinute
  | .fraction size =>
      padLeft size.digits (instant.nanos % nanosPerSecond / Nat.pow 10 (9 - size.digits))
  | .halfDay => if instant.secondOfDay < 43200 then "AM" else "PM"
  | .weekday long => nameText long (weekdayNames.getD (weekdayIndex instant.dayNumber) "")
  | .offset colon => if colon then "+00:00" else "+0000"
  | .zoneName => "UTC"

def writePart (instant : Instant) : PatternPart -> String
  | .literal c => String.singleton c
  | .blank c => String.singleton c
  | .field kind => instant.writeField kind
  | .optionalFraction => "." ++ padLeft 9 (instant.nanos % nanosPerSecond)
  | .pointMillis => "." ++ padLeft 3 (instant.nanos % nanosPerSecond / 1000000)

def write (instant : Instant) (parts : List PatternPart) : String :=
  String.join (parts.map instant.writePart)

/-- Writes by a pattern, or in the default form. The error is a letter without a meaning. -/
def format (instant : Instant) : Option String -> Except Char String
  | none => .ok (instant.write defaultPattern)
  | some pattern => do
      let parts <- parsePattern pattern
      return instant.write parts

end Instant
end Calendar
end Rollup
