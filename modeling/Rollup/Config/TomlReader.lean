import Rollup.Config.Toml
import Rollup.Text.Hex

/-!
# Reading TOML

A document is a sequence of lines: headers of tables, keys with values, comments and
blank lines.
-/

namespace Rollup
namespace Toml

abbrev Rest := List Char

def isGap (c : Char) : Bool :=
  c == ' ' || c == '\t'

def skipGap (cs : Rest) : Rest :=
  cs.dropWhile isGap

def isControl (c : Char) : Bool :=
  (c.toNat < 0x20 && c != '\t') || c.toNat == 0x7f

def newline? : Rest -> Option Rest
  | '\n' :: rest => some rest
  | '\r' :: '\n' :: rest => some rest
  | _ => none

def isCommentChar (c : Char) : Bool :=
  c == '\t' || 0x20 <= c.toNat

def skipComment : Rest -> Rest
  | '#' :: rest => rest.dropWhile isCommentChar
  | cs => cs

def lineEnd? (cs : Rest) : Option Rest :=
  match skipComment (skipGap cs) with
  | [] => some []
  | rest => newline? rest

/-- Skips blanks, comments and line ends between the items of a list. -/
def skipLines : Nat -> Rest -> Rest
  | 0, cs => cs
  | rounds + 1, cs =>
      match newline? (skipComment (skipGap cs)) with
      | some rest => skipLines rounds rest
      | none => skipGap cs

/-!
# Texts
-/

def codePoint? (count : Nat) (cs : Rest) : Option (Char × Rest) := do
  let digits <- (cs.take count).mapM Text.hexValue?
  let code := digits.foldl (fun value digit => value * 16 + digit) 0
  if digits.length = count && code.isValidChar then
    some (Char.ofNat code, cs.drop count)
  else
    none

def escape? : Rest -> Option (Char × Rest)
  | 'b' :: rest => some (Char.ofNat 8, rest)
  | 't' :: rest => some ('\t', rest)
  | 'n' :: rest => some ('\n', rest)
  | 'f' :: rest => some (Char.ofNat 12, rest)
  | 'r' :: rest => some ('\r', rest)
  | '"' :: rest => some ('"', rest)
  | '\\' :: rest => some ('\\', rest)
  | 'u' :: rest => codePoint? 4 rest
  | 'U' :: rest => codePoint? 8 rest
  | _ => none

def basicText? : Nat -> List Char -> Rest -> Option (String × Rest)
  | 0, _, _ => none
  | rounds + 1, seen, cs =>
      match cs with
      | '"' :: rest => some (String.ofList seen.reverse, rest)
      | '\\' :: rest =>
          match escape? rest with
          | some (c, rest) => basicText? rounds (c :: seen) rest
          | none => none
      | c :: rest => if isControl c then none else basicText? rounds (c :: seen) rest
      | [] => none

def isLiteralChar (c : Char) : Bool :=
  c != '\'' && !isControl c

def literalText? (cs : Rest) : Option (String × Rest) :=
  match cs.dropWhile isLiteralChar with
  | '\'' :: rest => some (String.ofList (cs.takeWhile isLiteralChar), rest)
  | _ => none

def tripleEnd? (mark : Char) (cs : Rest) : Option (List Char × Rest) :=
  let quotes := (cs.takeWhile (fun c => c == mark)).length
  if 3 <= quotes then
    let kept := min (quotes - 3) 2
    some (List.replicate kept mark, cs.drop (kept + 3))
  else
    none

def foldedLine? (cs : Rest) : Option Rest :=
  match newline? (skipGap cs) with
  | some rest => some (rest.dropWhile (fun c => isGap c || c == '\n' || c == '\r'))
  | none => none

def basicLines? : Nat -> List Char -> Rest -> Option (String × Rest)
  | 0, _, _ => none
  | rounds + 1, seen, cs =>
      match tripleEnd? '"' cs, newline? cs with
      | some (kept, rest), _ => some (String.ofList (seen.reverse ++ kept), rest)
      | none, some rest => basicLines? rounds ('\n' :: seen) rest
      | none, none =>
          match cs with
          | '\\' :: rest =>
              match foldedLine? rest, escape? rest with
              | some rest, _ => basicLines? rounds seen rest
              | none, some (c, rest) => basicLines? rounds (c :: seen) rest
              | none, none => none
          | c :: rest => if isControl c then none else basicLines? rounds (c :: seen) rest
          | [] => none

def literalLines? : Nat -> List Char -> Rest -> Option (String × Rest)
  | 0, _, _ => none
  | rounds + 1, seen, cs =>
      match tripleEnd? '\'' cs, newline? cs with
      | some (kept, rest), _ => some (String.ofList (seen.reverse ++ kept), rest)
      | none, some rest => literalLines? rounds ('\n' :: seen) rest
      | none, none =>
          match cs with
          | c :: rest => if isControl c then none else literalLines? rounds (c :: seen) rest
          | [] => none

/-- A line end right after the opening quotes is no part of the text. -/
def skipFirstNewline (cs : Rest) : Rest :=
  (newline? cs).getD cs

def text? (cs : Rest) : Option (String × Rest) :=
  match cs with
  | '"' :: '"' :: '"' :: rest => basicLines? (rest.length + 1) [] (skipFirstNewline rest)
  | '"' :: rest => basicText? (rest.length + 1) [] rest
  | '\'' :: '\'' :: '\'' :: rest => literalLines? (rest.length + 1) [] (skipFirstNewline rest)
  | '\'' :: rest => literalText? rest
  | _ => none

/-!
# Keys
-/

def isBareKeyChar (c : Char) : Bool :=
  c.isAlphanum || c == '_' || c == '-'

def simpleKey? (cs : Rest) : Option (String × Rest) :=
  match cs with
  | '"' :: rest => basicText? (rest.length + 1) [] rest
  | '\'' :: rest => literalText? rest
  | _ =>
      match cs.takeWhile isBareKeyChar with
      | [] => none
      | word => some (String.ofList word, cs.dropWhile isBareKeyChar)

def keyWithin? : Nat -> Rest -> Option (List String × Rest)
  | 0, _ => none
  | rounds + 1, cs => do
      let (name, rest) <- simpleKey? (skipGap cs)
      match skipGap rest with
      | '.' :: rest =>
          let (names, rest) <- keyWithin? rounds rest
          return (name :: names, rest)
      | rest => return ([name], rest)

def key? (cs : Rest) : Option (List String × Rest) :=
  keyWithin? (cs.length + 1) cs

/-!
# Numbers and dates
-/

def plainDigits? (isDigit : Char -> Bool) : List Char -> Option (List Char)
  | [] => none
  | [c] => if isDigit c then some [c] else none
  | c :: '_' :: rest =>
      if isDigit c then (plainDigits? isDigit rest).map (fun digits => c :: digits) else none
  | c :: rest =>
      if isDigit c then (plainDigits? isDigit rest).map (fun digits => c :: digits) else none

def wholeDigits? (cs : List Char) : Option (List Char) := do
  let digits <- plainDigits? Char.isDigit cs
  if digits.length > 1 && digits.head? = some '0' then none else some digits

def radixNumber? (radix : Nat) (cs : List Char) : Option Int := do
  let isDigit := fun c : Char => (Text.hexValue? c).any (fun digit => digit < radix)
  let digits <- plainDigits? isDigit cs
  let value :=
    digits.foldl (fun value digit => value * radix + (Text.hexValue? digit).getD 0) 0
  if (value : Int) <= Number.maxInt64 then some (value : Int) else none

def integer? (word : List Char) : Option Int :=
  match word with
  | '0' :: 'x' :: digits => radixNumber? 16 digits
  | '0' :: 'o' :: digits => radixNumber? 8 digits
  | '0' :: 'b' :: digits => radixNumber? 2 digits
  | _ => do
      let (negative, rest) := Number.takeSign word
      let digits <- wholeDigits? rest
      let size : Int := Number.digitsValue 0 digits
      let value := if negative then -size else size
      if Number.fitsInt64 value then some value else none

def isExponentMark (c : Char) : Bool :=
  c == 'e' || c == 'E'

def exponentDigits? (cs : List Char) : Option (List Char) := do
  let digits <- plainDigits? Char.isDigit (Number.takeSign cs).2
  match cs with
  | '-' :: _ => some ('-' :: digits)
  | _ => some digits

def float? (word : List Char) : Option Float := do
  let (negative, size) := Number.takeSign word
  let sign := fun x : Float => if negative then -x else x
  if size = ['i', 'n', 'f'] then
    return sign (1 / 0)
  else if size = ['n', 'a', 'n'] then
    return sign (0 / 0)
  else
    let mantissa := size.takeWhile (fun c => !isExponentMark c)
    let exponent := size.dropWhile (fun c => !isExponentMark c)
    let whole := mantissa.takeWhile (fun c => c != '.')
    let fraction := mantissa.dropWhile (fun c => c != '.')
    if exponent.isEmpty && fraction.isEmpty then
      none
    else
      let digits <- wholeDigits? whole
      let places <-
        match fraction with
        | [] => some []
        | _ :: rest => plainDigits? Char.isDigit rest
      let power <-
        match exponent with
        | [] => some []
        | _ :: rest => exponentDigits? rest
      let text :=
        digits ++ (if places.isEmpty then [] else '.' :: places)
          ++ (if power.isEmpty then [] else 'e' :: power)
      let value <- Number.readFloat? (String.ofList text)
      return sign value

def shape (word : List Char) : String :=
  String.ofList (word.map (fun c => if c.isDigit then '0' else c))

def dateCore (word : List Char) : List Char :=
  let upper := word.map Char.toUpper
  let whole := upper.takeWhile (fun c => c != '.' && c != 'Z' && c != '+')
  whole.take 19

def isDate (word : List Char) : Bool :=
  ["0000-00-00", "0000-00-00T00:00:00", "00:00:00"].contains (shape (dateCore word))

def isWordChar (c : Char) : Bool :=
  c.isAlphanum || c == '+' || c == '-' || c == '_' || c == '.' || c == ':'

def word? (word : List Char) : Option Value :=
  if word = ['t', 'r', 'u', 'e'] then some (.bool true)
  else if word = ['f', 'a', 'l', 's', 'e'] then some (.bool false)
  else
    (integer? word).map .int
      <|> (float? word).map .float
      <|> (if isDate word then some (.date (String.ofList word)) else none)

/-!
# Values
-/

def items? (item? : Rest -> Option (Value × Rest)) :
    Nat -> List Value -> Rest -> Option (List Value × Rest)
  | 0, _, _ => none
  | rounds + 1, seen, cs =>
      match skipLines (cs.length + 1) cs with
      | ']' :: rest => some (seen.reverse, rest)
      | start => do
          let (value, rest) <- item? start
          match skipLines (rest.length + 1) rest with
          | ',' :: rest => items? item? rounds (value :: seen) rest
          | ']' :: rest => some ((value :: seen).reverse, rest)
          | _ => none

def entries? (item? : Rest -> Option (Value × Rest)) :
    Nat -> Fields -> Rest -> Option (Fields × Rest)
  | 0, _, _ => none
  | rounds + 1, fields, cs => do
      let (key, rest) <- key? cs
      let last <- key.getLast?
      match rest with
      | '=' :: rest =>
          let (value, rest) <- item? (skipGap rest)
          let fields <- insertDotted last value key.dropLast fields
          match skipGap rest with
          | ',' :: rest => entries? item? rounds fields rest
          | '\x7d' :: rest => some (fields, rest)
          | _ => none
      | _ => none

def value? : Nat -> Rest -> Option (Value × Rest)
  | 0, _ => none
  | depth + 1, cs =>
      match cs with
      | '"' :: _ => (text? cs).map (fun (value, rest) => (.text value, rest))
      | '\'' :: _ => (text? cs).map (fun (value, rest) => (.text value, rest))
      | '[' :: rest =>
          (items? (value? depth) (rest.length + 1) [] rest).map (fun (items, rest) =>
            (.list items, rest))
      | '\x7b' :: rest =>
          match skipGap rest with
          | '\x7d' :: rest => some (.table .inline [], rest)
          | _ =>
              (entries? (value? depth) (rest.length + 1) [] rest).map (fun (fields, rest) =>
                (.table .inline fields, rest))
      | _ =>
          (word? (cs.takeWhile isWordChar)).map (fun value => (value, cs.dropWhile isWordChar))

def maxDepth : Nat := 80

/-!
# Documents
-/

/-- A document read so far and the table that lines now belong to. -/
structure State where
  fields : Fields := []
  path : List String := []

def header? (state : State) (cs : Rest) : Option (State × Rest) :=
  match cs with
  | '[' :: '[' :: rest => do
      let (path, rest) <- key? rest
      match rest with
      | ']' :: ']' :: rest =>
          let fields <- atHeader openRow path state.fields
          return ({ fields := fields, path := path }, rest)
      | _ => none
  | '[' :: rest => do
      let (path, rest) <- key? rest
      match rest with
      | ']' :: rest =>
          let fields <- atHeader openTable path state.fields
          return ({ fields := fields, path := path }, rest)
      | _ => none
  | _ => none

def assignment? (state : State) (cs : Rest) : Option (State × Rest) := do
  let (key, rest) <- key? cs
  let last <- key.getLast?
  match rest with
  | '=' :: rest =>
      let (value, rest) <- value? maxDepth (skipGap rest)
      let fields <- updateTable state.path (insertDotted last value key.dropLast) state.fields
      return ({ state with fields := fields }, rest)
  | _ => none

/-- Reads the lines of a document, at most `rounds` of them. -/
def lines? : Nat -> State -> Rest -> Option Fields
  | 0, _, _ => none
  | rounds + 1, state, cs =>
      match skipGap cs with
      | [] => some state.fields
      | '[' :: rest =>
          match header? state ('[' :: rest) with
          | some (state, rest) =>
              match lineEnd? rest with
              | some rest => lines? rounds state rest
              | none => none
          | none => none
      | start =>
          match lineEnd? start with
          | some rest => lines? rounds state rest
          | none =>
              match assignment? state start with
              | some (state, rest) =>
                  match lineEnd? rest with
                  | some rest => lines? rounds state rest
                  | none => none
              | none => none

def skipMark (cs : Rest) : Rest :=
  match cs with
  | '\ufeff' :: rest => rest
  | _ => cs

def parse? (text : String) : Option Fields :=
  lines? (text.length + 1) {} (skipMark text.toList)

end Toml
end Rollup
