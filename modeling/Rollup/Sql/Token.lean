import Rollup.Text.Letter
import Rollup.Text.Case

/-!
# Tokens

A query text is a sequence of words, quoted names, quoted texts, numbers and
symbols, separated by blanks, tabs and line ends. A scanner takes one token from the
front of the text and leaves a shorter rest.
-/

namespace Rollup
namespace Sql

inductive Comparison where
  | eq
  | notEq
  | lt
  | lte
  | gt
  | gte
deriving DecidableEq, Repr

inductive Token where
  | word (text : String)
  | quotedName (text : String)
  | quotedText (text : String)
  | number (text : String)
  | comparison (op : Comparison)
  | star
  | comma
  | leftParen
  | rightParen
  | slash
  | semicolon
deriving DecidableEq, Repr

structure Lexeme where
  token : Token
  start : Nat
deriving DecidableEq, Repr

def Comparison.spelling : Comparison -> String
  | .eq => "="
  | .notEq => "!="
  | .lt => "<"
  | .lte => "<="
  | .gt => ">"
  | .gte => ">="

namespace Token

def describe : Token -> String
  | .word text => text
  | .quotedName text => s!"\"{text}\""
  | .quotedText text => s!"'{text}'"
  | .number text => text
  | .comparison op => op.spelling
  | .star => "*"
  | .comma => ","
  | .leftParen => "("
  | .rightParen => ")"
  | .slash => "/"
  | .semicolon => ";"

def isKeyword (keyword : String) : Token -> Bool
  | .word text => Text.eqIgnoreAsciiCase text keyword
  | _ => false

end Token

/-!
# Characters of tokens
-/

/-- Blank, tab and the two line ends are the only characters between tokens. -/
def isSeparator (c : Char) : Bool :=
  c == ' ' || c == '\t' || c == '\r' || c == '\n'

def isWordStart (c : Char) : Bool :=
  Text.isAlphabetic c || c == '_' || c == '@'

/-- `-` and `*` let an index pattern such as `logs-*` be one word. -/
def isWordChar (c : Char) : Bool :=
  Text.isAlphanumeric c || c == '_' || c == '.' || c == '@' || c == '-' || c == '*'

def byteLength (cs : List Char) : Nat :=
  cs.foldl (fun bytes c => bytes + c.utf8Size) 0

/-!
# Scanning
-/

/-- Text up to the closing single quote, in reverse; a doubled quote stands for one. -/
def scanText? (seen : List Char) : List Char -> Option (List Char × List Char)
  | [] => none
  | '\'' :: '\'' :: rest => scanText? ('\'' :: seen) rest
  | c :: rest => if c == '\'' then some (seen, rest) else scanText? (c :: seen) rest

/-- Characters before the closing mark, and the rest after it. -/
def scanQuoted? (mark : Char) (cs : List Char) : Option (List Char × List Char) :=
  match cs.dropWhile (fun c => c != mark) with
  | [] => none
  | _ :: rest => some (cs.takeWhile (fun c => c != mark), rest)

def scanFraction (cs : List Char) : List Char × List Char :=
  match cs with
  | '.' :: rest =>
      match rest.takeWhile Char.isDigit with
      | [] => ([], cs)
      | digits => ('.' :: digits, rest.dropWhile Char.isDigit)
  | _ => ([], cs)

def scanNumber? (cs : List Char) : Option (List Char × List Char) :=
  let (sign, unsigned) :=
    match cs with
    | '-' :: rest => (['-'], rest)
    | _ => ([], cs)
  match unsigned.takeWhile Char.isDigit with
  | [] => none
  | digits =>
      let (fraction, rest) := scanFraction (unsigned.dropWhile Char.isDigit)
      some (sign ++ digits ++ fraction, rest)

/-- A number, or a word when letters follow it at once, as in `90m`. -/
def scanNumeric? (cs : List Char) : Option (Token × List Char) :=
  match scanNumber? cs with
  | none => none
  | some (number, rest) =>
      match rest.takeWhile Text.isAlphabetic with
      | [] => some (.number (String.ofList number), rest)
      | letters =>
          some (.word (String.ofList (number ++ letters)), rest.dropWhile Text.isAlphabetic)

def scanSymbol? : List Char -> Option (Token × List Char)
  | '<' :: '=' :: rest => some (.comparison .lte, rest)
  | '>' :: '=' :: rest => some (.comparison .gte, rest)
  | '<' :: '>' :: rest => some (.comparison .notEq, rest)
  | '!' :: '=' :: rest => some (.comparison .notEq, rest)
  | '=' :: '=' :: rest => some (.comparison .eq, rest)
  | '=' :: rest => some (.comparison .eq, rest)
  | '<' :: rest => some (.comparison .lt, rest)
  | '>' :: rest => some (.comparison .gt, rest)
  | '*' :: rest => some (.star, rest)
  | ',' :: rest => some (.comma, rest)
  | '(' :: rest => some (.leftParen, rest)
  | ')' :: rest => some (.rightParen, rest)
  | '/' :: rest => some (.slash, rest)
  | ';' :: rest => some (.semicolon, rest)
  | _ => none

def scan? : List Char -> Option (Token × List Char)
  | [] => none
  | c :: rest =>
      if c == '\'' then
        (scanText? [] rest).map
          (fun found => (.quotedText (String.ofList found.1.reverse), found.2))
      else if c == '"' || c == '`' then
        (scanQuoted? c rest).map (fun found => (.quotedName (String.ofList found.1), found.2))
      else
        match scanNumeric? (c :: rest) with
        | some found => some found
        | none =>
            if isWordStart c then
              some
                (.word (String.ofList (c :: rest.takeWhile isWordChar)),
                  rest.dropWhile isWordChar)
            else
              scanSymbol? (c :: rest)

/-!
# A scan shortens the text

Each scanner takes at least one character, which is why splitting a text into
tokens ends.
-/

theorem length_dropWhile_le {alpha : Type} (p : alpha -> Bool) (xs : List alpha) :
    (xs.dropWhile p).length <= xs.length :=
  (List.dropWhile_suffix p).length_le

theorem scanText?_length_lt {seen cs text rest : List Char}
    (h : scanText? seen cs = some (text, rest)) : rest.length < cs.length := by
  fun_induction scanText? seen cs with
  | case1 => simp at h
  | case2 seen more ih =>
      have := ih h
      simp only [List.length_cons]
      omega
  | case3 seen c more _ _ =>
      simp only [Option.some.injEq, Prod.mk.injEq] at h
      simp [h.2]
  | case4 seen c more _ _ ih =>
      have := ih h
      simp only [List.length_cons]
      omega

theorem scanQuoted?_length_lt {mark : Char} {cs text rest : List Char}
    (h : scanQuoted? mark cs = some (text, rest)) : rest.length < cs.length := by
  unfold scanQuoted? at h
  split at h
  · simp at h
  · rename_i c more hdrop
    simp only [Option.some.injEq, Prod.mk.injEq] at h
    have hle := length_dropWhile_le (fun c => c != mark) cs
    rw [hdrop, List.length_cons, h.2] at hle
    omega

theorem scanFraction_length_le (cs : List Char) : (scanFraction cs).2.length <= cs.length := by
  unfold scanFraction
  split
  · rename_i rest
    split
    · simp
    · have := length_dropWhile_le Char.isDigit rest
      simp only [List.length_cons]
      omega
  · simp

theorem length_dropWhile_lt {alpha : Type} {p : alpha -> Bool} {xs : List alpha}
    (h : xs.takeWhile p ≠ []) : (xs.dropWhile p).length < xs.length := by
  have hsum := congrArg List.length (List.takeWhile_append_dropWhile (p := p) (l := xs))
  rw [List.length_append] at hsum
  have hpos := List.length_pos_iff.mpr h
  omega

theorem scanNumber?_length_lt {cs number rest : List Char}
    (h : scanNumber? cs = some (number, rest)) : rest.length < cs.length := by
  have key : forall unsigned sign : List Char, unsigned.length <= cs.length ->
      (match unsigned.takeWhile Char.isDigit with
        | [] => none
        | digits =>
            some (sign ++ digits ++ (scanFraction (unsigned.dropWhile Char.isDigit)).1,
              (scanFraction (unsigned.dropWhile Char.isDigit)).2)) = some (number, rest) ->
      rest.length < cs.length := by
    intro unsigned sign hle heq
    split at heq
    · simp at heq
    · rename_i hdigits
      simp only [Option.some.injEq, Prod.mk.injEq] at heq
      have hlt := length_dropWhile_lt hdigits
      have hfrac := scanFraction_length_le (unsigned.dropWhile Char.isDigit)
      rw [heq.2] at hfrac
      omega
  unfold scanNumber? at h
  split at h
  rename_i sign unsigned hsplit
  refine key unsigned sign ?_ h
  split at hsplit
  · simp only [Prod.mk.injEq] at hsplit
    simp [← hsplit.2]
  · simp only [Prod.mk.injEq] at hsplit
    simp [hsplit.2]

theorem scanNumeric?_length_lt {cs rest : List Char} {token : Token}
    (h : scanNumeric? cs = some (token, rest)) : rest.length < cs.length := by
  unfold scanNumeric? at h
  split at h
  · simp at h
  · rename_i number after hnumber
    have hlt := scanNumber?_length_lt hnumber
    split at h
    · simp only [Option.some.injEq, Prod.mk.injEq] at h
      rw [← h.2]
      exact hlt
    · simp only [Option.some.injEq, Prod.mk.injEq] at h
      have hle := length_dropWhile_le Text.isAlphabetic after
      rw [h.2] at hle
      omega

theorem scanSymbol?_length_lt {cs rest : List Char} {token : Token}
    (h : scanSymbol? cs = some (token, rest)) : rest.length < cs.length := by
  unfold scanSymbol? at h
  split at h <;> simp only [Option.some.injEq, Prod.mk.injEq, reduceCtorEq] at h
    <;> rw [← h.2] <;> simp only [List.length_cons] <;> omega

theorem scan?_length_lt {cs rest : List Char} {token : Token}
    (h : scan? cs = some (token, rest)) : rest.length < cs.length := by
  unfold scan? at h
  split at h
  · simp at h
  · rename_i c more
    simp only [List.length_cons]
    split at h
    · simp only [Option.map_eq_some_iff, Prod.mk.injEq, Prod.exists] at h
      obtain ⟨text, after, hscan, _, rfl⟩ := h
      have := scanText?_length_lt hscan
      omega
    · split at h
      · simp only [Option.map_eq_some_iff, Prod.mk.injEq, Prod.exists] at h
        obtain ⟨text, after, hscan, _, rfl⟩ := h
        have := scanQuoted?_length_lt hscan
        omega
      · split at h
        · rename_i found hnumeric
          simp only [Option.some.injEq] at h
          subst h
          have := scanNumeric?_length_lt hnumeric
          simpa using this
        · split at h
          · simp only [Option.some.injEq, Prod.mk.injEq] at h
            have hle := length_dropWhile_le isWordChar more
            rw [h.2] at hle
            omega
          · have := scanSymbol?_length_lt h
            simpa using this

end Sql
end Rollup
