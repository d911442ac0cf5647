/-!
# Civil dates

Dates of the proleptic Gregorian calendar. Years are counted astronomically, so year
0 is a leap year. A date corresponds to a day number, counted from 1 January 1970.
-/

namespace Rollup
namespace Calendar

structure Date where
  year : Int
  month : Nat
  day : Nat
deriving DecidableEq, Repr

def isLeapYear (year : Int) : Bool :=
  year % 4 = 0 && (year % 100 != 0 || year % 400 = 0)

def monthLengths (year : Int) : List Nat :=
  [31, if isLeapYear year then 29 else 28, 31, 30, 31, 30, 31, 31, 30, 31, 30, 31]

def daysInMonth (year : Int) (month : Nat) : Nat :=
  (monthLengths year).getD (month - 1) 0

def daysInYear (year : Int) : Nat :=
  if isLeapYear year then 366 else 365

def daysBeforeYear (year : Int) : Int :=
  365 * (year - 1) + (year - 1) / 4 - (year - 1) / 100 + (year - 1) / 400

/-- Days from 1 January of year 1 to 1 January 1970. -/
def epochDay : Int := 719162

def daysBeforeMonth (year : Int) (month : Nat) : Nat :=
  ((monthLengths year).take (month - 1)).foldl (fun days length => days + length) 0

namespace Date

def isValid (date : Date) : Bool :=
  1 <= date.month && date.month <= 12 && 1 <= date.day
    && date.day <= daysInMonth date.year date.month

/-- Day of the year, 1 January being the first. -/
def ordinal (date : Date) : Nat :=
  daysBeforeMonth date.year date.month + date.day

def dayNumber (date : Date) : Int :=
  daysBeforeYear date.year + date.ordinal - 1 - epochDay

def clampDay (date : Date) : Date :=
  { date with day := min date.day (daysInMonth date.year date.month) }

/-- The date some months later, or earlier, on the same day or the month's last. -/
def addMonths (date : Date) (months : Int) : Date :=
  let total := date.year * 12 + (date.month - 1 : Nat) + months
  clampDay { year := total / 12, month := (total % 12).toNat + 1, day := date.day }

end Date

/-- Year of the day that lies `days` after 1 January of year 1. -/
def yearOfDays (days : Int) : Int :=
  let guess := 400 * days / 146097 + 1
  if days < daysBeforeYear guess then
    guess - 1
  else if daysBeforeYear (guess + 1) <= days then
    guess + 1
  else
    guess

/-- Month and day of a zero-based day of the year, by the lengths of the months from `month` on. -/
def monthAndDay : List Nat -> Nat -> Nat -> Nat × Nat
  | [], month, rest => (month, rest + 1)
  | length :: lengths, month, rest =>
      if rest < length || lengths.isEmpty then
        (month, rest + 1)
      else
        monthAndDay lengths (month + 1) (rest - length)

namespace Date

def ofOrdinal (year : Int) (ordinal : Nat) : Date :=
  let (month, day) := monthAndDay (monthLengths year) 1 (ordinal - 1)
  { year := year, month := month, day := day }

def ofDayNumber (dayNumber : Int) : Date :=
  let days := dayNumber + epochDay
  let year := yearOfDays days
  ofOrdinal year ((days - daysBeforeYear year).toNat + 1)

end Date

def weekdayIndex (dayNumber : Int) : Nat :=
  ((dayNumber + 3) % 7).toNat

/-!
# Supported years

Instants exist in the years -262143 to 262142.
-/

def minYear : Int := -262143

def maxYear : Int := 262142

def minDay : Int := daysBeforeYear minYear - epochDay

def maxDay : Int := daysBeforeYear (maxYear + 1) - epochDay - 1

end Calendar
end Rollup
