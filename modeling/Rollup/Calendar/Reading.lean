import Rollup.Calendar.Instant
import Rollup.Calendar.Pattern
import Rollup.Number.Reading
import Rollup.Text.Case

/-!
# Reading dates

A text is read against the parts of a pattern. What the fields say is collected
first, a field given twice having to agree with itself. The date and the time are
then made of what was collected.
-/

namespace Rollup
namespace Calendar

structure Seen where
  year : Option Int := none
  shortYear : Option Nat := none
  month : Option Nat := none
  day : Option Nat := none
  ordinal : Option Nat := none
  weekday : Option Nat := none
  half : Option Nat := none
  halfHour : Option Nat := none
  minute : Option Nat := none
  second : Option Nat := none
  nanos : Option Nat := none
  offset : Option Int := none
deriving DecidableEq, Repr

def agree {alpha : Type} [DecidableEq alpha] (known : Option alpha) (value : alpha) :
    Option (Option alpha) :=
  match known with
  | none => some (some value)
  | some other => if other = value then some (some value) else none

def between (low high : Nat) (value : Nat) : Option Nat :=
  if low <= value && value <= high then some value else none

/-!
# Pieces of text
-/

/-- From `least` up to `most` digits, whose value has to fit 64 bits. -/
def takeNumber (least most : Nat) (cs : List Char) : Option (Nat × List Char) :=
  let digits := (cs.take most).takeWhile Char.isDigit
  let value := Number.digitsValue 0 digits
  if digits.length < least || Number.maxInt64 < (value : Int) then
    none
  else
    some (value, cs.drop digits.length)

def takeField (width : Nat) (cs : List Char) : Option (Nat × List Char) :=
  takeNumber 1 width (Text.trimStart cs)

/-- A year has four digits at most, or any number of them after a sign. -/
def takeYear (cs : List Char) : Option (Int × List Char) :=
  match Text.trimStart cs with
  | '-' :: rest => (takeNumber 1 rest.length rest).map (fun (n, tail) => (-(n : Int), tail))
  | '+' :: rest => (takeNumber 1 rest.length rest).map (fun (n, tail) => ((n : Int), tail))
  | rest => (takeNumber 1 4 rest).map (fun (n, tail) => ((n : Int), tail))

def takeWord (word : List Char) (cs : List Char) : Option (List Char) :=
  if (cs.take word.length).map Char.toLower = word.map Char.toLower then
    some (cs.drop word.length)
  else
    none

/-- Index of the name the text starts with, by its first three letters. -/
def takeShortName : List String -> Nat -> List Char -> Option (Nat × List Char)
  | [], _, _ => none
  | name :: names, index, cs =>
      match takeWord (name.toList.take 3) cs with
      | some rest => some (index, rest)
      | none => takeShortName names (index + 1) cs

/-- Index of a name; where `long` holds the rest of the name may follow its first letters. -/
def takeName (names : List String) (long : Bool) (cs : List Char) : Option (Nat × List Char) :=
  match takeShortName names 0 cs with
  | none => none
  | some (index, rest) =>
      let ending := (names.getD index "").toList.drop 3
      match long, takeWord ending rest with
      | true, some tail => some (index, tail)
      | _, _ => some (index, rest)

def takeFraction (cs : List Char) : Option (Nat × List Char) :=
  let digits := cs.takeWhile Char.isDigit
  let kept := digits.take 9
  if digits = [] then
    none
  else
    some (Number.digitsValue 0 kept * Nat.pow 10 (9 - kept.length), cs.drop digits.length)

def takeTwo (cs : List Char) : Option (Nat × List Char) :=
  takeNumber 2 2 cs

def isColonOrBlank (c : Char) : Bool :=
  c == ':' || Text.isBlank c

def takeOffset (separator : List Char -> Option (List Char)) (cs : List Char) :
    Option (Int × List Char) :=
  match cs with
  | [] => none
  | sign :: rest =>
      if sign != '+' && sign != '-' && sign != Char.ofNat 0x2212 then
        none
      else do
        let (hours, rest) <- takeTwo rest
        let rest <- separator rest
        let (minutes, rest) <- takeTwo rest
        if 59 < minutes then
          none
        else
          let size : Int := hours * 3600 + minutes * 60
          some (if sign = '+' then size else -size, rest)

/-!
# Fields
-/

namespace Seen

def withHour (seen : Seen) (hour : Nat) : Option Seen := do
  let hour <- between 0 23 hour
  let half <- agree seen.half (hour / 12)
  let halfHour <- agree seen.halfHour (hour % 12)
  return { seen with half := half, halfHour := halfHour }

def readField (seen : Seen) (kind : Field) (cs : List Char) : Option (Seen × List Char) :=
  match kind with
  | .year => do
      let (value, rest) <- takeYear cs
      if value < -0x80000000 || 0x80000000 <= value then
        none
      else
        let year <- agree seen.year value
        return ({ seen with year := year }, rest)
  | .shortYear => do
      let (value, rest) <- takeField 2 cs
      let shortYear <- agree seen.shortYear value
      return ({ seen with shortYear := shortYear }, rest)
  | .month _ => do
      let (value, rest) <- takeField 2 cs
      let month <- agree seen.month (<- between 1 12 value)
      return ({ seen with month := month }, rest)
  | .monthName long => do
      let (index, rest) <- takeName monthNames long cs
      let month <- agree seen.month (index + 1)
      return ({ seen with month := month }, rest)
  | .day _ => do
      let (value, rest) <- takeField 2 cs
      let day <- agree seen.day (<- between 1 31 value)
      return ({ seen with day := day }, rest)
  | .dayOfYear => do
      let (value, rest) <- takeField 3 cs
      let ordinal <- agree seen.ordinal (<- between 1 366 value)
      return ({ seen with ordinal := ordinal }, rest)
  | .hour _ => do
      let (value, rest) <- takeField 2 cs
      let seen <- seen.withHour value
      return (seen, rest)
  | .halfDayHour _ => do
      let (value, rest) <- takeField 2 cs
      let value <- between 1 12 value
      let halfHour <- agree seen.halfHour (value % 12)
      return ({ seen with halfHour := halfHour }, rest)
  | .minute _ => do
      let (value, rest) <- takeField 2 cs
      let minute <- agree seen.minute (<- between 0 59 value)
      return ({ seen with minute := minute }, rest)
  | .second _ => do
      let (value, rest) <- takeField 2 cs
      let second <- agree seen.second (<- between 0 60 value)
      return ({ seen with second := second }, rest)
  | .fraction size => do
      let (value, rest) <- takeNumber size.digits size.digits cs
      let nanos <- agree seen.nanos (value * Nat.pow 10 (9 - size.digits))
      return ({ seen with nanos := nanos }, rest)
  | .halfDay =>
      match takeWord ['a', 'm'] cs, takeWord ['p', 'm'] cs with
      | some rest, _ => (agree seen.half 0).map (fun half => ({ seen with half := half }, rest))
      | none, some rest => (agree seen.half 1).map (fun half => ({ seen with half := half }, rest))
      | none, none => none
  | .weekday long => do
      let (index, rest) <- takeName weekdayNames long cs
      let weekday <- agree seen.weekday index
      return ({ seen with weekday := weekday }, rest)
  | .offset _ => do
      let skip := fun rest : List Char => some (rest.dropWhile isColonOrBlank)
      let (value, rest) <- takeOffset skip (Text.trimStart cs)
      let offset <- agree seen.offset value
      return ({ seen with offset := offset }, rest)
  | .zoneName => some (seen, cs.dropWhile (fun c => !Text.isBlank c))

def readFraction (seen : Seen) (cs : List Char) : Option (Seen × List Char) := do
  let (value, rest) <- takeFraction cs
  let nanos <- agree seen.nanos value
  return ({ seen with nanos := nanos }, rest)

def readPart (seen : Seen) (part : PatternPart) (cs : List Char) : Option (Seen × List Char) :=
  match part with
  | .literal c =>
      match cs with
      | d :: rest => if c = d then some (seen, rest) else none
      | [] => none
  | .blank _ => some (seen, Text.trimStart cs)
  | .field kind => seen.readField kind cs
  | .optionalFraction =>
      match cs with
      | '.' :: rest => seen.readFraction rest
      | _ => some (seen, cs)
  | .pointMillis =>
      match cs with
      | '.' :: rest => seen.readField (.fraction .millis) rest
      | _ => some (seen, cs)

def readParts (seen : Seen) : List PatternPart -> List Char -> Option Seen
  | [], cs => if cs = [] then some seen else none
  | part :: parts, cs =>
      match seen.readPart part cs with
      | some (seen, rest) => readParts seen parts rest
      | none => none

/-!
# Dates and times of what was seen
-/

def resolveYear (seen : Seen) : Option Int :=
  match seen.year, seen.shortYear with
  | some year, none => some year
  | some year, some short =>
      if 0 <= year && (year % 100).toNat = short then some year else none
  | none, some short => some (if short < 70 then 2000 + short else 1900 + short)
  | none, none => none

def agreesWith (seen : Seen) (date : Date) : Bool :=
  seen.weekday.getD (weekdayIndex date.dayNumber) == weekdayIndex date.dayNumber
    && seen.ordinal.getD date.ordinal == date.ordinal

def checkedDate (seen : Seen) (date : Date) : Option Date :=
  if date.isValid && minYear <= date.year && date.year <= maxYear && seen.agreesWith date then
    some date
  else
    none

/-- The date: by year, month and day, or else by year and day of the year. -/
def date? (seen : Seen) : Option Date := do
  let year <- seen.resolveYear
  match seen.month, seen.day, seen.ordinal with
  | some month, some day, _ => seen.checkedDate { year := year, month := month, day := day }
  | month?, day?, some ordinal =>
      if daysInYear year < ordinal then
        none
      else
        let date := Date.ofOrdinal year ordinal
        if month?.getD date.month = date.month && day?.getD date.day = date.day then
          seen.checkedDate date
        else
          none
  | _, _, none => none

/-- Second of the day and nanoseconds. Second 60 is the leap second after second 59. -/
def time? (seen : Seen) : Option (Nat × Nat) := do
  let half <- seen.half
  let halfHour <- seen.halfHour
  let minute <- seen.minute
  let second := seen.second.getD 0
  if seen.nanos.isSome && seen.second.isNone then
    none
  else
    let base := (half * 12 + halfHour) * 3600 + minute * 60
    let nanos := seen.nanos.getD 0
    return if second = 60 then (base + 59, nanosPerSecond + nanos) else (base + second, nanos)

def local? (seen : Seen) : Option Instant := do
  let date <- seen.date?
  let (second, nanos) <- seen.time?
  return { seconds := date.dayNumber * 86400 + second, nanos := nanos }

def zoned? (seen : Seen) : Option Instant := do
  let offset <- seen.offset
  let instant <- seen.local?
  if offset.natAbs < 86400 then
    ({ instant with seconds := instant.seconds - offset } : Instant).checked
  else
    none

end Seen

/-!
# Whole dates
-/

/-- Reads by a pattern: with an offset if it gives one, else as UTC, else the date alone. -/
def readBy (parts : List PatternPart) (cs : List Char) : Option Instant :=
  match ({} : Seen).readParts parts cs with
  | none => none
  | some seen => seen.zoned? <|> seen.local? <|> (seen.date?.map Instant.ofDate)

def expectChar (c : Char) : List Char -> Option (List Char)
  | d :: rest => if c = d then some rest else none
  | [] => none

def readTimestamp (cs : List Char) : Option Instant := do
  let (year, cs) <- takeNumber 4 4 cs
  let cs <- expectChar '-' cs
  let (month, cs) <- takeTwo cs
  let cs <- expectChar '-' cs
  let (day, cs) <- takeTwo cs
  let cs <- expectChar 'T' cs <|> expectChar 't' cs <|> expectChar ' ' cs
  let (hour, cs) <- takeTwo cs
  let cs <- expectChar ':' cs
  let (minute, cs) <- takeTwo cs
  let cs <- expectChar ':' cs
  let (second, cs) <- takeTwo cs
  let seen : Seen :=
    { year := some (year : Int)
      month := some (<- between 1 12 month)
      day := some (<- between 1 31 day)
      minute := some (<- between 0 59 minute)
      second := some (<- between 0 60 second) }
  let seen <- seen.withHour hour
  let (seen, cs) <- seen.readPart .optionalFraction cs
  let (offset, cs) <-
    match cs with
    | 'Z' :: rest => some (0, rest)
    | 'z' :: rest => some (0, rest)
    | _ => takeOffset (expectChar ':') cs
  if cs = [] then
    ({ seen with offset := some offset } : Seen).zoned?
  else
    none

def readDate (raw : String) (pattern : Option String) : Option Instant :=
  let text := Text.trim raw
  let cs := text.toList
  let byPattern :=
    match pattern.map parsePattern with
    | some (.ok parts) => readBy parts cs
    | _ => none
  let byFallback := fallbackPatterns.findSome? (fun parts =>
    (({} : Seen).readParts parts cs).bind Seen.local?)
  byPattern <|> readTimestamp cs <|> byFallback <|> readBy dayPattern cs
    <|> (Number.readInt64? text).bind Instant.ofMillis?

end Calendar
end Rollup
