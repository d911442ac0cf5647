import Rollup.Json.Basic
import Rollup.Number.Layout
import Rollup.Text.Hex

/-!
# JSON text

`Json.text` writes a value on one line without blanks. `Json.pretty` puts every item
and field on a line of its own, indented by two blanks a level.
-/

namespace Rollup
namespace Json

def escapeChar (c : Char) : List Char :=
  if c == '"' then ['\\', '"']
  else if c == '\\' then ['\\', '\\']
  else if c == '\n' then ['\\', 'n']
  else if c == '\r' then ['\\', 'r']
  else if c == '\t' then ['\\', 't']
  else if c.toNat == 8 then ['\\', 'b']
  else if c.toNat == 12 then ['\\', 'f']
  else if c.toNat < 32 then
    ['\\', 'u', '0', '0', Text.hexDigit (c.toNat / 16), Text.hexDigit (c.toNat % 16)]
  else [c]

def quote (s : String) : String :=
  String.ofList ('"' :: s.toList.flatMap escapeChar ++ ['"'])

def leafText : Json -> String
  | .bool true => "true"
  | .bool false => "false"
  | .int n => toString n
  | .float x => Number.jsonLayout.write x
  | .str s => quote s
  | _ => "null"

mutual

def text : Json -> String
  | .arr items => "[" ++ String.intercalate "," (itemTexts items) ++ "]"
  | .obj fields => "\x7b" ++ String.intercalate "," (fieldTexts fields) ++ "\x7d"
  | leaf => leafText leaf

def itemTexts : List Json -> List String
  | [] => []
  | item :: rest => text item :: itemTexts rest

def fieldTexts : List (String × Json) -> List String
  | [] => []
  | (key, value) :: rest => (quote key ++ ":" ++ text value) :: fieldTexts rest

end

def indent (level : Nat) : String :=
  String.ofList (List.replicate (2 * level) ' ')

def block (opening closing : String) (level : Nat) (lines : List String) : String :=
  match lines with
  | [] => opening ++ closing
  | _ =>
      opening ++ "\n"
        ++ String.intercalate ",\n" (lines.map (fun line => indent (level + 1) ++ line))
        ++ "\n" ++ indent level ++ closing

mutual

def prettyAt (level : Nat) : Json -> String
  | .arr items => block "[" "]" level (prettyItems (level + 1) items)
  | .obj fields => block "\x7b" "\x7d" level (prettyFields (level + 1) fields)
  | leaf => leafText leaf

def prettyItems (level : Nat) : List Json -> List String
  | [] => []
  | item :: rest => prettyAt level item :: prettyItems level rest

def prettyFields (level : Nat) : List (String × Json) -> List String
  | [] => []
  | (key, value) :: rest =>
      (quote key ++ ": " ++ prettyAt level value) :: prettyFields level rest

end

def pretty (value : Json) : String :=
  prettyAt 0 value

end Json
end Rollup
