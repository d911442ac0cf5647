import Rollup.Json.Basic
import Rollup.Number.Reading
import Rollup.Text.Hex

/-!
# Reading JSON

The grammar is that of RFC 8259. Values nest at most 127 deep, a number written
without fraction and exponent is an integer as long as 64 bits hold it, and of two
fields with one key the later is kept. The reader recurses on the depth that is
left, so each level is a plain loop over the characters. The length of the whole text
bounds the rounds of every loop.
-/

namespace Rollup
namespace Json

abbrev Rest := List Char

def isSpace (c : Char) : Bool :=
  c == ' ' || c == '\n' || c == '\t' || c == '\r'

def skipSpace (cs : Rest) : Rest :=
  cs.dropWhile isSpace

def hexUnit? : Rest -> Option (Nat × Rest)
  | a :: b :: c :: d :: rest =>
      match Text.hexValue? a, Text.hexValue? b, Text.hexValue? c, Text.hexValue? d with
      | some a, some b, some c, some d => some (((a * 16 + b) * 16 + c) * 16 + d, rest)
      | _, _, _, _ => none
  | _ => none

def unicodeEscape? (cs : Rest) : Option (Char × Rest) :=
  match hexUnit? cs with
  | none => none
  | some (unit, rest) =>
      if 0xd800 <= unit && unit <= 0xdbff then
        match rest with
        | '\\' :: 'u' :: more =>
            match hexUnit? more with
            | some (low, rest) =>
                if 0xdc00 <= low && low <= 0xdfff then
                  some (Char.ofNat (0x10000 + (unit - 0xd800) * 0x400 + (low - 0xdc00)), rest)
                else
                  none
            | none => none
        | _ => none
      else if 0xdc00 <= unit && unit <= 0xdfff then
        none
      else
        some (Char.ofNat unit, rest)

def escape? : Rest -> Option (Char × Rest)
  | '"' :: rest => some ('"', rest)
  | '\\' :: rest => some ('\\', rest)
  | '/' :: rest => some ('/', rest)
  | 'b' :: rest => some (Char.ofNat 8, rest)
  | 'f' :: rest => some (Char.ofNat 12, rest)
  | 'n' :: rest => some ('\n', rest)
  | 'r' :: rest => some ('\r', rest)
  | 't' :: rest => some ('\t', rest)
  | 'u' :: rest => unicodeEscape? rest
  | _ => none

def stringChars? : Nat -> List Char -> Rest -> Option (List Char × Rest)
  | 0, _, _ => none
  | _, _, [] => none
  | steps + 1, seen, c :: rest =>
      if c == '"' then
        some (seen, rest)
      else if c == '\\' then
        match escape? rest with
        | some (d, rest) => stringChars? steps (d :: seen) rest
        | none => none
      else if c.toNat < 32 then
        none
      else
        stringChars? steps (c :: seen) rest

/-- A quoted text whose opening quote is already taken. -/
def stringBody? (limit : Nat) (cs : Rest) : Option (String × Rest) :=
  (stringChars? limit [] cs).map
    (fun found => (String.ofList found.1.reverse, found.2))

def wholeDigits? (cs : Rest) : Option (List Char × Rest) :=
  let digits := cs.takeWhile Char.isDigit
  match digits with
  | [] => none
  | '0' :: _ :: _ => none
  | _ => some (digits, cs.dropWhile Char.isDigit)

def fractionDigits? : Rest -> Option (Option (List Char) × Rest)
  | '.' :: rest =>
      match rest.takeWhile Char.isDigit with
      | [] => none
      | digits => some (some digits, rest.dropWhile Char.isDigit)
  | cs => some (none, cs)

def exponentPart? (cs : Rest) : Option (Option Int × Rest) :=
  match cs with
  | c :: rest =>
      if c == 'e' || c == 'E' then
        let (negative, digitsOn) := Number.takeSign rest
        match digitsOn.takeWhile Char.isDigit with
        | [] => none
        | digits =>
            let size : Int := Number.digitsValue 0 digits
            some (some (if negative then -size else size), digitsOn.dropWhile Char.isDigit)
      else
        some (none, cs)
  | [] => some (none, cs)

/-- A number without fraction and exponent: an integer where 64 bits hold it. -/
def integerOf (negative : Bool) (size : Nat) : Json :=
  if negative then
    if size = 0 then .float (-0.0)
    else if size <= 0x8000000000000000 then .int (-(size : Int))
    else .float (-Number.nearestFloat size 0)
  else if size < 0x10000000000000000 then .int size
  else .float (Number.nearestFloat size 0)

def floatOf? (negative : Bool) (digits : Nat) (exponent : Int) : Option Json :=
  let size := Number.nearestFloat digits exponent
  if size.isFinite then some (.float (if negative then -size else size)) else none

def number? (cs : Rest) : Option (Json × Rest) := do
  let (negative, unsigned) :=
    match cs with
    | '-' :: rest => (true, rest)
    | _ => (false, cs)
  let (whole, rest) ← wholeDigits? unsigned
  let (fraction?, rest) ← fractionDigits? rest
  let (exponent?, rest) ← exponentPart? rest
  match fraction?, exponent? with
  | none, none =>
      match integerOf negative (Number.digitsValue 0 whole) with
      | .float x => if x.isFinite then some (.float x, rest) else none
      | value => some (value, rest)
  | _, _ =>
      let places := fraction?.getD []
      let exponent := exponent?.getD 0 - (places.length : Int)
      let value ← floatOf? negative (Number.digitsValue 0 (whole ++ places)) exponent
      some (value, rest)

def word? (word : List Char) (value : Json) (cs : Rest) : Option (Json × Rest) :=
  if word.isPrefixOf cs then some (value, cs.drop word.length) else none

/-- Items up to a closing bracket, each read by `item?` and followed by a comma or the bracket. -/
def items? (item? : Rest -> Option (Json × Rest)) :
    Nat -> List Json -> Rest -> Option (List Json × Rest)
  | 0, _, _ => none
  | steps + 1, seen, cs => do
      let (value, rest) ← item? (skipSpace cs)
      match skipSpace rest with
      | ',' :: rest => items? item? steps (value :: seen) rest
      | ']' :: rest => some ((value :: seen).reverse, rest)
      | _ => none

def fields? (limit : Nat) (item? : Rest -> Option (Json × Rest)) :
    Nat -> List (String × Json) -> Rest -> Option (List (String × Json) × Rest)
  | 0, _, _ => none
  | steps + 1, seen, cs => do
      match skipSpace cs with
      | '"' :: rest =>
          let (key, rest) ← stringBody? limit rest
          match skipSpace rest with
          | ':' :: rest =>
              let (value, rest) ← item? (skipSpace rest)
              match skipSpace rest with
              | ',' :: rest => fields? limit item? steps ((key, value) :: seen) rest
              | '\x7d' :: rest => some (((key, value) :: seen).reverse, rest)
              | _ => none
          | _ => none
      | _ => none

/-- A value that nests at most `depth` deep, with no blanks in front. -/
def value? (limit : Nat) : Nat -> Rest -> Option (Json × Rest)
  | _, [] => none
  | depth, c :: rest =>
      if c == '"' then
        (stringBody? limit rest).map (fun found => (.str found.1, found.2))
      else if c == '[' then
        match depth with
        | 0 => none
        | depth + 1 =>
            match skipSpace rest with
            | ']' :: rest => some (.arr [], rest)
            | _ =>
                (items? (value? limit depth) limit [] rest).map
                  (fun found => (.arr found.1, found.2))
      else if c == '\x7b' then
        match depth with
        | 0 => none
        | depth + 1 =>
            match skipSpace rest with
            | '\x7d' :: rest => some (.obj [], rest)
            | _ =>
                (fields? limit (value? limit depth) limit [] rest).map
                  (fun found => (ofFields found.1, found.2))
      else if c == 't' then word? "true".toList (.bool true) (c :: rest)
      else if c == 'f' then word? "false".toList (.bool false) (c :: rest)
      else if c == 'n' then word? "null".toList .null (c :: rest)
      else number? (c :: rest)

/-- The value a text holds, with blanks around it and nothing else. -/
def parse? (text : String) : Option Json :=
  let cs := text.toList
  match value? (cs.length + 1) 127 (skipSpace cs) with
  | some (value, rest) => if skipSpace rest == [] then some value else none
  | none => none

end Json
end Rollup
