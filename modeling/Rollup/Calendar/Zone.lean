import Rollup.Number.Reading
import Rollup.Text.Case
import Rollup.Text.Blank

/-!
# Time zones

A time zone is given as an offset from UTC. Names other than those of UTC are not
known.
-/

namespace Rollup
namespace Calendar

inductive ZoneFault where
  | unsupported (zone : String)
  | invalid (zone : String)
  | outOfRange (zone : String)
  /-- Four bytes that cannot be halved because a character lies across the middle. -/
  | unsplittable (zone : String)
  /-- Hours or minutes whose milliseconds do not fit 64 bits. -/
  | immeasurable (zone : String)
deriving DecidableEq, Repr

def ZoneFault.message : ZoneFault -> String
  | .unsupported zone => s!"unsupported time zone '{zone}'"
  | .invalid zone => s!"invalid time zone '{zone}'"
  | .outOfRange zone => s!"time zone '{zone}' out of range"
  | .unsplittable zone => s!"unsplittable time zone '{zone}'"
  | .immeasurable zone => s!"immeasurable time zone '{zone}'"

/-- The characters of the first `count` bytes and the others, if the cut is between characters. -/
def splitBytes? : Nat -> List Char -> Option (List Char × List Char)
  | 0, cs => some ([], cs)
  | _, [] => none
  | count, c :: cs =>
      if c.utf8Size <= count then
        (splitBytes? (count - c.utf8Size) cs).map (fun (first, rest) => (c :: first, rest))
      else
        none

def isNotColon (c : Char) : Bool :=
  c != ':'

/-- Texts of hours and minutes: divided by a colon, or two bytes each, or hours alone. -/
def splitZone? (cs : List Char) : Option (List Char × List Char) :=
  if cs.contains ':' then
    some (cs.takeWhile isNotColon, (cs.dropWhile isNotColon).drop 1)
  else if (String.ofList cs).utf8ByteSize = 4 then
    splitBytes? 2 cs
  else
    some (cs, ['0'])

def signedBy (sign : Char) (size : Int) : Int :=
  if sign = '+' then size else -size

def offsetSteps (sign : Char) (hours minutes : Int) : List Int :=
  [hours * 3600000, minutes * 60000, hours * 3600000 + minutes * 60000,
    signedBy sign (hours * 3600000 + minutes * 60000)]

def parseOffset (input : String) : Except ZoneFault Int :=
  let zone := Text.trim input
  if Text.eqIgnoreAsciiCase zone "utc" || zone = "Z" || Text.eqIgnoreAsciiCase zone "etc/utc" then
    .ok 0
  else
    match zone.toList with
    | [] => .error (.unsupported zone)
    | sign :: rest =>
        if sign != '+' && sign != '-' then
          .error (.unsupported zone)
        else
          match splitZone? rest with
          | none => .error (.unsplittable zone)
          | some (hours, minutes) =>
              match Number.readInt64? (String.ofList hours),
                Number.readInt64? (String.ofList minutes) with
              | some hours, some minutes =>
                  if 18 < hours || 60 <= minutes then
                    .error (.outOfRange zone)
                  else if (offsetSteps sign hours minutes).all Number.fitsInt64 then
                    .ok (signedBy sign (hours * 3600000 + minutes * 60000))
                  else
                    .error (.immeasurable zone)
              | _, _ => .error (.invalid zone)

end Calendar
end Rollup
