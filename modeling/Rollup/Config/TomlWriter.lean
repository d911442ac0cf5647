import Rollup.Config.Toml
import Rollup.Text.Hex

/-!
# Writing TOML

A text is written in the plainest quotes that hold it unchanged: double quotes, single
quotes, and then the tripled ones. Only a text that fits into none of them gets escapes.
-/

namespace Rollup
namespace Toml

def needsEscape (c : Char) : Bool :=
  c != '\t' && c != '\n' && (c.toNat < 0x20 || c.toNat == 0x7f)

/-- Length of the longest run of a character, `run` of them standing right before. -/
def longestRun (mark : Char) (run : Nat) : List Char -> Nat
  | [] => run
  | c :: rest =>
      if c = mark then longestRun mark (run + 1) rest else max run (longestRun mark 0 rest)

def escapeChar (c : Char) : List Char :=
  if c = '\t' then ['\\', 't']
  else if c = '\n' then ['\\', 'n']
  else if c = '\r' then ['\\', 'r']
  else if c = '"' then ['\\', '"']
  else if c = '\\' then ['\\', '\\']
  else if c.toNat = 8 then ['\\', 'b']
  else if c.toNat = 12 then ['\\', 'f']
  else if needsEscape c then
    ['\\', 'u', '0', '0', Text.upperHexDigit (c.toNat / 16), Text.upperHexDigit (c.toNat % 16)]
  else [c]

/-- The characters between tripled double quotes: line ends stand for themselves, and of quotes in a
row the first two. -/
def escapeLines (quotes : Nat) : List Char -> List Char
  | [] => []
  | '\n' :: rest => '\n' :: escapeLines 0 rest
  | '"' :: rest =>
      (if quotes < 2 then ['"'] else ['\\', '"']) ++ escapeLines (quotes + 1) rest
  | c :: rest => escapeChar c ++ escapeLines 0 rest

/-- Puts tripled quotes around a text; one with line ends starts on a line of its own. -/
def tripled (mark : Char) (hasLines : Bool) (body : List Char) : List Char :=
  let marks := [mark, mark, mark]
  marks ++ (if hasLines then ['\n'] else []) ++ body ++ marks

def quoteChars (cs : List Char) : List Char :=
  let hasLines := cs.contains '\n'
  let escapes := cs.any needsEscape
  let backslash := cs.contains '\\'
  let doubles := longestRun '"' 0 cs
  let singles := longestRun '\'' 0 cs
  if !escapes && !backslash && doubles = 0 && !hasLines then
    '"' :: cs.flatMap escapeChar ++ ['"']
  else if !escapes && singles = 0 && !hasLines then
    '\'' :: cs ++ ['\'']
  else if !escapes && !backslash && doubles <= 2 then
    tripled '"' hasLines (escapeLines 0 cs)
  else if !escapes && singles <= 2 then
    tripled '\'' hasLines cs
  else if hasLines then
    tripled '"' hasLines (escapeLines 0 cs)
  else
    '"' :: cs.flatMap escapeChar ++ ['"']

def quote (text : String) : String :=
  String.ofList (quoteChars text.toList)

def tableText (name : String) (entries : List (String × String)) : String :=
  s!"[{name}]\n" ++ String.join (entries.map (fun (key, value) => s!"{key} = {value}\n"))

end Toml
end Rollup
