/-!
# Wildcards

A wildcard text stands for itself except that `*` matches any run of characters, `?`
matches one character and a backslash takes the next character as it is. Neither
wildcard matches a line feed.
-/

namespace Rollup
namespace Text

inductive WildcardPart where
  | char (c : Char)
  | one
  | many
deriving DecidableEq, Repr

def wildcardParts : List Char -> List WildcardPart
  | [] => []
  | '\\' :: c :: rest => .char c :: wildcardParts rest
  | ['\\'] => []
  | '*' :: rest => .many :: wildcardParts rest
  | '?' :: rest => .one :: wildcardParts rest
  | c :: rest => .char c :: wildcardParts rest

def matchParts : List WildcardPart -> List Char -> Bool
  | [], cs => cs.isEmpty
  | .char _ :: _, [] => false
  | .char c :: parts, d :: cs => c == d && matchParts parts cs
  | .one :: _, [] => false
  | .one :: parts, d :: cs => d != '\n' && matchParts parts cs
  | .many :: parts, [] => matchParts parts []
  | .many :: parts, d :: cs =>
      matchParts parts (d :: cs) || (d != '\n' && matchParts (.many :: parts) cs)
termination_by parts cs => (parts.length, cs.length)

/-!
# Matching without backtracking

Trying every length of every run takes too long for a pattern with many runs. The
answers for all end pieces of a text are computed together instead, from the last
part of the pattern to the first.
-/

def prependPart (part : WildcardPart) : List Char -> List Bool -> List Bool
  | [], behind => [part == .many && behind.headD false]
  | d :: cs, behind =>
      let shorter := prependPart part cs (behind.drop 1)
      let here :=
        match part with
        | .char c => c == d && (behind.drop 1).headD false
        | .one => d != '\n' && (behind.drop 1).headD false
        | .many => behind.headD false || (d != '\n' && shorter.headD false)
      here :: shorter

def emptyPieces : List Char -> List Bool
  | [] => [true]
  | _ :: cs => false :: emptyPieces cs

def matchPieces (parts : List WildcardPart) (cs : List Char) : List Bool :=
  parts.foldr (fun part behind => prependPart part cs behind) (emptyPieces cs)

def matchesWildcard (pattern text : String) : Bool :=
  (matchPieces (wildcardParts pattern.toList) text.toList).headD false

/-- The answers of `matchParts` for each end piece, the longest first. -/
def piecesOf (parts : List WildcardPart) : List Char -> List Bool
  | [] => [matchParts parts []]
  | d :: cs => matchParts parts (d :: cs) :: piecesOf parts cs

theorem headD_piecesOf (parts : List WildcardPart) (cs : List Char) :
    (piecesOf parts cs).headD false = matchParts parts cs := by
  cases cs <;> rfl

theorem prependPart_piecesOf (part : WildcardPart) (parts : List WildcardPart) (cs : List Char) :
    prependPart part cs (piecesOf parts cs) = piecesOf (part :: parts) cs := by
  induction cs with
  | nil => cases part <;> simp [prependPart, piecesOf, matchParts]
  | cons d cs ih =>
      have hdrop : (piecesOf parts (d :: cs)).drop 1 = piecesOf parts cs := rfl
      cases part <;>
        simp only [prependPart, hdrop, ih, headD_piecesOf, piecesOf.eq_2 (_ :: _), matchParts]

theorem matchPieces_eq (parts : List WildcardPart) (cs : List Char) :
    matchPieces parts cs = piecesOf parts cs := by
  induction parts with
  | nil =>
      show emptyPieces cs = piecesOf [] cs
      induction cs with
      | nil => simp [emptyPieces, piecesOf, matchParts]
      | cons d cs ih => simp [emptyPieces, piecesOf, matchParts, ih]
  | cons part parts ih =>
      show prependPart part cs (matchPieces parts cs) = piecesOf (part :: parts) cs
      rw [ih, prependPart_piecesOf]

theorem matchesWildcard_eq (pattern text : String) :
    matchesWildcard pattern text = matchParts (wildcardParts pattern.toList) text.toList := by
  rw [matchesWildcard, matchPieces_eq, headD_piecesOf]

/-!
# LIKE patterns

A LIKE pattern writes `%` and `_` for the two wildcards and has no escapes.
-/

def likeChar : Char -> List Char
  | '%' => ['*']
  | '_' => ['?']
  | c => if c == '*' || c == '?' || c == '\\' then ['\\', c] else [c]

def likeToWildcard (pattern : String) : String :=
  String.ofList (pattern.toList.flatMap likeChar)

end Text
end Rollup
