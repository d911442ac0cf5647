import Rollup.Number.Dyadic

/-!
# Reading numbers

Texts become integers or floats by fixed grammars: an optional sign, ASCII digits,
and for floats an optional fraction, an optional exponent, or one of the words for
infinity and NaN. A text outside the grammar is no number.
-/

namespace Rollup
namespace Number

/-- Value of a run of ASCII digits, read after `start`. -/
def digitsValue (start : Nat) (digits : List Char) : Nat :=
  digits.foldl (fun value c => 10 * value + (c.toNat - 48)) start

/-- A nonempty run of ASCII digits and nothing else. -/
def readDigits? (cs : List Char) : Option Nat :=
  if cs != [] && cs.all Char.isDigit then some (digitsValue 0 cs) else none

def takeSign (cs : List Char) : Bool × List Char :=
  match cs with
  | '-' :: rest => (true, rest)
  | '+' :: rest => (false, rest)
  | _ => (false, cs)

/-- A natural number below `limit`, with an optional plus sign. -/
def readNat? (limit : Nat) (text : String) : Option Nat :=
  let digits :=
    match text.toList with
    | '+' :: rest => rest
    | cs => cs
  match readDigits? digits with
  | some n => if n < limit then some n else none
  | none => none

/-- A natural number that an unsigned 64-bit word holds. -/
def readUInt64? : String -> Option Nat :=
  readNat? 0x10000000000000000

/-- An integer that a signed 64-bit word holds. -/
def readInt64? (text : String) : Option Int :=
  let (negative, digits) := takeSign text.toList
  match readDigits? digits with
  | some n =>
      let value : Int := if negative then -(n : Int) else n
      if fitsInt64 value then some value else none
  | none => none

def nearestFloat (digits : Nat) (exponent : Int) : Float :=
  let lead := ((Nat.toDigits 10 digits).length : Int) + exponent
  if digits = 0 || lead < -330 then
    0.0
  else if 310 < lead then
    1.0 / 0.0
  else if exponent < 0 then
    Float.ofScientific digits true exponent.natAbs
  else
    Float.ofScientific digits false exponent.natAbs

def readExponent? (cs : List Char) : Option Int :=
  let (negative, digits) := takeSign cs
  (readDigits? digits).map (fun n => if negative then -(n : Int) else n)

def readSize? (cs : List Char) : Option Float :=
  let whole := cs.takeWhile Char.isDigit
  let afterWhole := cs.dropWhile Char.isDigit
  let (places, afterPlaces) :=
    match afterWhole with
    | '.' :: rest => (rest.takeWhile Char.isDigit, rest.dropWhile Char.isDigit)
    | _ => ([], afterWhole)
  let exponent? :=
    match afterPlaces with
    | [] => some 0
    | c :: rest => if c == 'e' || c == 'E' then readExponent? rest else none
  match exponent? with
  | some exponent =>
      if whole == [] && places == [] then
        none
      else
        some (nearestFloat (digitsValue 0 (whole ++ places)) (exponent - (places.length : Int)))
  | none => none

/-- A float: an optional sign, then a size or a word for infinity or NaN in any case. -/
def readFloat? (text : String) : Option Float :=
  let (negative, size) := takeSign text.toList
  let word := String.ofList (size.map Char.toLower)
  let value? :=
    if word == "inf" || word == "infinity" then
      some (1.0 / 0.0)
    else if word == "nan" then
      some (0.0 / 0.0)
    else
      readSize? size
  value?.map (fun value => if negative then -value else value)

end Number
end Rollup
