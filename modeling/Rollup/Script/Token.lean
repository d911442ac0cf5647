import Rollup.Number.Layout
import Rollup.Number.Reading
import Rollup.Sql.Token

/-!
# Selector scripts

A selector script decides whether a bucket is kept. It compares parameters and
numbers and joins the comparisons by `&&`, `||`, `!` and parentheses. This module
cuts a script into tokens.
-/

namespace Rollup
namespace Script

open Sql (Comparison)

inductive Token where
  | parameter (name : String)
  | number (value : Float)
  | comparison (op : Comparison)
  | both
  | either
  | negate
  | leftParen
  | rightParen
deriving DecidableEq, Repr

def comparisonSymbol : Comparison -> String
  | .eq => "=="
  | .notEq => "!="
  | .lt => "<"
  | .lte => "<="
  | .gt => ">"
  | .gte => ">="

namespace Token

def describe : Token -> String
  | .parameter name => s!"Param(\"{name}\")"
  | .number value => s!"Number({Number.keyLayout.write value})"
  | .comparison op => s!"Op(\"{comparisonSymbol op}\")"
  | .both => "And"
  | .either => "Or"
  | .negate => "Not"
  | .leftParen => "LParen"
  | .rightParen => "RParen"

end Token

inductive Fault where
  | invalidNumber (text : String)
  | unsupportedWord (word : String)
  | unsupportedCharacter (c : Char)
  | missingParen
  | expectedComparison (found : Option Token)
  | expectedOperand (found : Option Token)
  | unknownParameter (name : String)
  | trailingInput (script : String)
deriving DecidableEq, Repr

def foundText : Option Token -> String
  | some token => s!"Some({token.describe})"
  | none => "None"

def Fault.message : Fault -> String
  | .invalidNumber text => s!"invalid number '{text}'"
  | .unsupportedWord word => s!"unsupported identifier '{word}'"
  | .unsupportedCharacter c => s!"unsupported character '{c}'"
  | .missingParen => "missing ')'"
  | .expectedComparison found => s!"expected comparison, found {foundText found}"
  | .expectedOperand found => s!"expected operand, found {foundText found}"
  | .unknownParameter name => s!"unknown parameter '{name}'"
  | .trailingInput script => s!"unexpected trailing input in script '{script}'"

/-!
# Scanning
-/

def isBlank (c : Char) : Bool :=
  c == ' ' || c == '\t' || c == '\n' || c == '\r'

def isNumberStart (c : Char) : Bool :=
  c.isDigit || c == '-' || c == '.'

def isNumberChar (c : Char) : Bool :=
  c.isDigit || c == '.' || c == 'e' || c == 'E'

def isWordStart (c : Char) : Bool :=
  c.isAlpha || c == '_'

def isWordChar (c : Char) : Bool :=
  c.isAlphanum || c == '_' || c == '.'

def parameterMark : List Char :=
  ['p', 'a', 'r', 'a', 'm', 's', '.']

def numberToken (text : List Char) : Except Fault Token :=
  match Number.readFloat? (String.ofList text) with
  | some value => .ok (.number value)
  | none => .error (.invalidNumber (String.ofList text))

def wordToken (word : List Char) : Except Fault Token :=
  if parameterMark.isPrefixOf word then
    .ok (.parameter (String.ofList (word.drop parameterMark.length)))
  else
    .error (.unsupportedWord (String.ofList word))

/-- The token at the front of a text, which starts with `c`, and the rest. -/
def scan (c : Char) (cs : List Char) : Except Fault (Token × List Char) :=
  match c, cs with
  | '(', rest => .ok (.leftParen, rest)
  | ')', rest => .ok (.rightParen, rest)
  | '&', '&' :: rest => .ok (.both, rest)
  | '|', '|' :: rest => .ok (.either, rest)
  | '!', '=' :: rest => .ok (.comparison .notEq, rest)
  | '!', rest => .ok (.negate, rest)
  | '=', '=' :: rest => .ok (.comparison .eq, rest)
  | '<', '=' :: rest => .ok (.comparison .lte, rest)
  | '<', rest => .ok (.comparison .lt, rest)
  | '>', '=' :: rest => .ok (.comparison .gte, rest)
  | '>', rest => .ok (.comparison .gt, rest)
  | c, rest =>
      if isNumberStart c then do
        let token <- numberToken (c :: rest.takeWhile isNumberChar)
        return (token, rest.dropWhile isNumberChar)
      else if isWordStart c then do
        let token <- wordToken (c :: rest.takeWhile isWordChar)
        return (token, rest.dropWhile isWordChar)
      else
        .error (.unsupportedCharacter c)

def tokensWithin : Nat -> List Char -> Except Fault (List Token)
  | 0, _ => .ok []
  | _ + 1, [] => .ok []
  | rounds + 1, c :: cs =>
      if isBlank c then
        tokensWithin rounds cs
      else do
        let (token, rest) <- scan c cs
        let tokens <- tokensWithin rounds rest
        return token :: tokens

def tokens (script : String) : Except Fault (List Token) :=
  tokensWithin script.length script.toList

end Script
end Rollup
