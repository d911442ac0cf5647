import Rollup.Text.Blank

/-!
# Date patterns

A pattern such as `yyyy-MM-dd HH:mm` describes the text of a date. Runs of a letter
are fields, quoted text and other characters stand for themselves. White space is
kept apart because reading a date skips any amount of it there.
-/

namespace Rollup
namespace Calendar

inductive Fraction where
  | millis
  | micros
  | nanos
deriving DecidableEq, Repr

def Fraction.digits : Fraction -> Nat
  | .millis => 3
  | .micros => 6
  | .nanos => 9

inductive Field where
  | year
  | shortYear
  | month (padded : Bool)
  | monthName (long : Bool)
  | day (padded : Bool)
  | dayOfYear
  | hour (padded : Bool)
  | halfDayHour (padded : Bool)
  | minute (padded : Bool)
  | second (padded : Bool)
  | fraction (size : Fraction)
  | halfDay
  | weekday (long : Bool)
  | offset (colon : Bool)
  | zoneName
deriving DecidableEq, Repr

inductive PatternPart where
  | literal (c : Char)
  | blank (c : Char)
  | field (kind : Field)
  | optionalFraction
  | pointMillis
deriving DecidableEq, Repr

def fieldOf? (letter : Char) (count : Nat) : Option Field :=
  match letter with
  | 'y' | 'Y' | 'u' => some (if count = 2 then .shortYear else .year)
  | 'M' =>
      some
        (if count <= 2 then .month (count = 2) else .monthName (4 <= count))
  | 'd' => some (.day (2 <= count))
  | 'D' => some .dayOfYear
  | 'H' => some (.hour (2 <= count))
  | 'h' => some (.halfDayHour (2 <= count))
  | 'm' => some (.minute (2 <= count))
  | 's' => some (.second (2 <= count))
  | 'S' =>
      some (.fraction (if count <= 3 then .millis else if count <= 6 then .micros else .nanos))
  | 'a' => some .halfDay
  | 'E' => some (.weekday (4 <= count))
  | 'Z' => some (.offset false)
  | 'X' | 'x' => some (.offset true)
  | 'z' => some .zoneName
  | _ => none

def literalPart (c : Char) : PatternPart :=
  if Text.isBlank c then .blank c else .literal c

def patternParts : List Char -> Except Char (List PatternPart)
  | [] => .ok []
  | '\'' :: '\'' :: rest => do
      let parts <- patternParts rest
      return .literal '\'' :: parts
  | '\'' :: rest => do
      let text := rest.takeWhile (fun c => c != '\'')
      let parts <- patternParts ((rest.dropWhile (fun c => c != '\'')).drop 1)
      return text.map literalPart ++ parts
  | c :: rest =>
      if c.isAlpha then
        match fieldOf? c ((rest.takeWhile (fun d => d == c)).length + 1) with
        | none => .error c
        | some kind => do
            let parts <- patternParts (rest.dropWhile (fun d => d == c))
            return .field kind :: parts
      else do
        let parts <- patternParts rest
        return literalPart c :: parts
termination_by cs => cs.length
decreasing_by
  · simp only [List.length_cons]
    omega
  · have h := (List.dropWhile_sublist (fun c => c != '\'') (l := rest)).length_le
    simp only [List.length_cons, List.length_drop]
    omega
  · have h := (List.dropWhile_sublist (fun d => d == c) (l := rest)).length_le
    simp only [List.length_cons]
    omega
  · simp only [List.length_cons]
    omega

def parsePattern (pattern : String) : Except Char (List PatternPart) :=
  patternParts pattern.toList

/-!
# Standard patterns
-/

def dayPattern : List PatternPart :=
  [.field .year, .literal '-', .field (.month true), .literal '-', .field (.day true)]

def clockPattern : List PatternPart :=
  [.field (.hour true), .literal ':', .field (.minute true)]

def secondPattern : List PatternPart :=
  [.literal ':', .field (.second true)]

def defaultPattern : List PatternPart :=
  dayPattern ++ [.literal 'T'] ++ clockPattern ++ secondPattern ++ [.pointMillis, .literal 'Z']

/-- Patterns without offset that dates are read by when no pattern fits. -/
def fallbackPatterns : List (List PatternPart) :=
  [ dayPattern ++ [.literal 'T'] ++ clockPattern ++ secondPattern ++ [.optionalFraction]
  , dayPattern ++ [.literal 'T'] ++ clockPattern ++ secondPattern
  , dayPattern ++ [.blank ' '] ++ clockPattern ++ secondPattern ++ [.optionalFraction]
  , dayPattern ++ [.blank ' '] ++ clockPattern ++ secondPattern
  , dayPattern ++ [.literal 'T'] ++ clockPattern ]

def monthNames : List String :=
  [ "January", "February", "March", "April", "May", "June", "July", "August", "September"
  , "October", "November", "December" ]

def weekdayNames : List String :=
  ["Monday", "Tuesday", "Wednesday", "Thursday", "Friday", "Saturday", "Sunday"]

end Calendar
end Rollup
