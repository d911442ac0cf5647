import Rollup.Sql.Fault

/-!
# Splitting a text into lexemes

Positions are counted in bytes of the text's UTF-8 form.
-/

namespace Rollup
namespace Sql

def faultAt (c : Char) : Fault :=
  if c == '\'' then .unterminatedText
  else if c == '"' || c == '`' then .unterminatedName
  else .unexpectedCharacter c

/-- The lexemes of a text that stands behind `start` bytes. -/
def lexemesFrom (start : Nat) (cs : List Char) : Except SyntaxError (List Lexeme) :=
  match cs with
  | [] => .ok []
  | c :: rest =>
      if isSeparator c then
        lexemesFrom (start + c.utf8Size) rest
      else
        match h : scan? (c :: rest) with
        | none => .error { position := start, fault := faultAt c }
        | some (token, after) =>
            have : after.length < (c :: rest).length := scan?_length_lt h
            match lexemesFrom (start + (byteLength (c :: rest) - byteLength after)) after with
            | .ok lexemes => .ok ({ token := token, start := start } :: lexemes)
            | .error e => .error e
termination_by cs.length
decreasing_by
  all_goals
    simp only [List.length_cons] at *
    omega

def lexemes (text : String) : Except SyntaxError (List Lexeme) :=
  lexemesFrom 0 text.toList

end Sql
end Rollup
