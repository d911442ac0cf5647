import Rollup.Calendar.Date
import Rollup.Calendar.Interval

/-!
# Instants

An instant is a count of seconds from the start of 1970 in UTC and nanoseconds after
it. From a billion nanoseconds on, the instant lies in a leap second that follows
the second counted.
-/

namespace Rollup
namespace Calendar

structure Instant where
  seconds : Int
  nanos : Nat
deriving DecidableEq, Repr

def nanosPerSecond : Nat := 1000000000

namespace Instant

def inRange (instant : Instant) : Bool :=
  minDay <= instant.seconds / 86400 && instant.seconds / 86400 <= maxDay

def checked (instant : Instant) : Option Instant :=
  if instant.inRange then some instant else none

def millis (instant : Instant) : Int :=
  instant.seconds * 1000 + (instant.nanos / 1000000 : Nat)

def ofMillis? (millis : Int) : Option Instant :=
  checked { seconds := millis / 1000, nanos := (millis % 1000).toNat * 1000000 }

def compare (a b : Instant) : Ordering :=
  (Ord.compare a.seconds b.seconds).then (Ord.compare a.nanos b.nanos)

def isFrom (a b : Instant) : Bool :=
  a.compare b != .lt

def isBefore (a b : Instant) : Bool :=
  a.compare b == .lt

def dayNumber (instant : Instant) : Int :=
  instant.seconds / 86400

def date (instant : Instant) : Date :=
  Date.ofDayNumber instant.dayNumber

def secondOfDay (instant : Instant) : Nat :=
  (instant.seconds % 86400).toNat

def ofDate (date : Date) : Instant :=
  { seconds := date.dayNumber * 86400, nanos := 0 }

/-!
# Moving

Moving by whole seconds out of a leap second counts the leap second as the second
before it when moving on, and as the second after it when moving back.
-/

def addSeconds? (instant : Instant) (delta : Int) : Option Instant :=
  if instant.nanos < nanosPerSecond then
    checked { instant with seconds := instant.seconds + delta }
  else if delta = 0 then
    checked instant
  else if 0 < delta then
    checked { seconds := instant.seconds + delta, nanos := instant.nanos - nanosPerSecond }
  else
    checked { seconds := instant.seconds + 1 + delta, nanos := instant.nanos - nanosPerSecond }

def addMonths? (instant : Instant) (months : Int) : Option Instant :=
  let moved := instant.date.addMonths months
  checked { instant with seconds := moved.dayNumber * 86400 + instant.secondOfDay }

def floorMillis? (instant : Instant) (step : Int) : Option Instant :=
  ofMillis? (instant.millis / step * step)

def floor? (instant : Instant) : Unit -> Option Instant
  | .minute => instant.floorMillis? 60000
  | .hour => instant.floorMillis? 3600000
  | .day => instant.floorMillis? 86400000
  | .week =>
      match instant.floorMillis? 86400000 with
      | none => none
      | some day => day.addSeconds? (-(weekdayIndex day.dayNumber * 86400 : Nat))
  | .month => checked (ofDate { instant.date with day := 1 })
  | .quarter =>
      let date := instant.date
      checked (ofDate { date with month := (date.month - 1) / 3 * 3 + 1, day := 1 })
  | .year => checked (ofDate { instant.date with month := 1, day := 1 })

def advance? (instant : Instant) : Unit -> Option Instant
  | .minute => instant.addSeconds? 60
  | .hour => instant.addSeconds? 3600
  | .day => instant.addSeconds? 86400
  | .week => instant.addSeconds? 604800
  | .month => instant.addMonths? 1
  | .quarter => instant.addMonths? 3
  | .year => instant.addMonths? 12

end Instant
end Calendar
end Rollup
