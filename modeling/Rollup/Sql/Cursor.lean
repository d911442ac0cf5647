import Rollup.Sql.Fault

/-!
# Reading lexemes

A cursor stands between two lexemes. Parsers take a cursor and give a value and the
cursor behind it, or an error at a place of the text.
-/

namespace Rollup
namespace Sql

structure Cursor where
  previous : Option Lexeme
  rest : List Lexeme
  finish : Nat
deriving DecidableEq, Repr

/-- A value and the cursor behind it, or an error at a place of the text. -/
abbrev Parser (alpha : Type) := Cursor -> Except SyntaxError (alpha × Cursor)

namespace Cursor

def token? (cur : Cursor) : Option Token :=
  cur.rest.head?.map Lexeme.token

def second? (cur : Cursor) : Option Token :=
  (cur.rest.drop 1).head?.map Lexeme.token

def position (cur : Cursor) : Nat :=
  match cur.rest with
  | lexeme :: _ => lexeme.start
  | [] => cur.finish

def previousPosition (cur : Cursor) : Nat :=
  match cur.previous with
  | some lexeme => lexeme.start
  | none => cur.finish

def next (cur : Cursor) : Cursor :=
  match cur.rest with
  | lexeme :: rest => { cur with previous := some lexeme, rest := rest }
  | [] => cur

def isAt (cur : Cursor) (token : Token) : Bool :=
  cur.token? == some token

def isAtKeyword (cur : Cursor) (keyword : String) : Bool :=
  match cur.token? with
  | some token => token.isKeyword keyword
  | none => false

def fail {alpha : Type} (cur : Cursor) (fault : Fault) : Except SyntaxError alpha :=
  .error { position := cur.position, fault := fault }

def failBefore {alpha : Type} (cur : Cursor) (fault : Fault) : Except SyntaxError alpha :=
  .error { position := cur.previousPosition, fault := fault }

def expect (cur : Cursor) (token : Token) : Except SyntaxError Cursor :=
  if cur.isAt token then .ok cur.next
  else cur.fail (.expected s!"'{token.describe}'" cur.token?)

def expectKeyword (cur : Cursor) (keyword : String) : Except SyntaxError Cursor :=
  if cur.isAtKeyword keyword then .ok cur.next
  else cur.fail (.expected keyword cur.token?)

end Cursor

/-!
# Lists

Items are separated by a token. The number of lexemes left bounds the number of
separators, so it serves as the count of rounds.
-/

def separatedWithin {alpha : Type} (isSeparator : Cursor -> Bool)
    (item : Parser alpha) : Nat -> Parser (List alpha)
  | 0, cur => do
      let (value, cur) ← item cur
      .ok ([value], cur)
  | rounds + 1, cur => do
      let (value, cur) ← item cur
      if isSeparator cur then
        let (values, cur) ← separatedWithin isSeparator item rounds cur.next
        .ok (value :: values, cur)
      else
        .ok ([value], cur)

def separated {alpha : Type} (isSeparator : Cursor -> Bool)
    (item : Parser alpha) (cur : Cursor) : Except SyntaxError (List alpha × Cursor) :=
  separatedWithin isSeparator item cur.rest.length cur

def commaSeparated {alpha : Type} (item : Parser alpha) (cur : Cursor) :
    Except SyntaxError (List alpha × Cursor) :=
  separated (fun cur => cur.isAt .comma) item cur

end Sql
end Rollup
