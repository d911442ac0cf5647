import Rollup.Proofs.Numeral
import Rollup.Sql.Lexemes
import Rollup.Sql.Parser

/-!
# Spelling tokens

Every token has a source form. A text that puts source forms one behind the other, with
a separator wherever two of them would run together, is cut into these tokens again.
-/

namespace Rollup
namespace Sql

/-- A word as it stands in a text: a letter with word characters behind it, or a number
with its unit. -/
inductive IsWord : List Char -> Prop
  | bare {c : Char} {more : List Char} (start : isWordStart c = true)
      (inner : forall d, d ∈ more -> isWordChar d = true) : IsWord (c :: more)
  | quantity {number letters : List Char} (hnumber : Number.IsNumeral number)
      (hne : letters ≠ []) (hletters : forall c, c ∈ letters -> Text.isAlphabetic c = true) :
      IsWord (number ++ letters)

/-- A name that can stand in double quotes. -/
def IsName (text : String) : Prop :=
  '"' ∉ text.toList

instance (text : String) : Decidable (IsName text) :=
  inferInstanceAs (Decidable ('"' ∉ text.toList))

def doubleQuotes (cs : List Char) : List Char :=
  cs.flatMap (fun c => if c = '\'' then ['\'', '\''] else [c])

namespace Token

def source : Token -> List Char
  | .word text => text.toList
  | .quotedName text => '"' :: text.toList ++ ['"']
  | .quotedText text => '\'' :: doubleQuotes text.toList ++ ['\'']
  | .number raw => raw.toList
  | token => token.describe.toList

def Writable : Token -> Prop
  | .word text => IsWord text.toList
  | .quotedName text => IsName text
  | .number raw => Number.IsNumeral raw.toList
  | _ => True

def continues : Token -> Char -> Bool
  | .word _, c => isWordChar c
  | .quotedText _, c => c == '\''
  | .number _, c => c.isDigit || c == '.' || Text.isAlphabetic c
  | .comparison _, c => c == '=' || c == '>'
  | _, _ => false

def EndsAt (token : Token) (rest : List Char) : Prop :=
  forall c, rest.head? = some c -> token.continues c = false

@[simp] theorem writable_quotedName (text : String) :
    (Token.quotedName text).Writable <-> IsName text :=
  Iff.rfl

@[simp] theorem writable_quotedText (text : String) : (Token.quotedText text).Writable :=
  trivial

@[simp] theorem writable_comparison (op : Comparison) : (Token.comparison op).Writable :=
  trivial

@[simp] theorem writable_star : Token.star.Writable :=
  trivial

@[simp] theorem writable_comma : Token.comma.Writable :=
  trivial

@[simp] theorem writable_leftParen : Token.leftParen.Writable :=
  trivial

@[simp] theorem writable_rightParen : Token.rightParen.Writable :=
  trivial

@[simp] theorem writable_slash : Token.slash.Writable :=
  trivial

end Token

/-!
# Characters
-/

theorem le_toNat_of_isAlphabetic {c : Char} (h : Text.isAlphabetic c = true) :
    0x41 <= c.toNat := by
  rw [Text.isAlphabetic, Text.alphabeticRanges, Text.inRanges] at h
  split at h
  · cases h
  · omega

theorem not_isDigit_of_isAlphabetic {c : Char} (h : Text.isAlphabetic c = true) :
    c.isDigit = false := by
  have hle := le_toNat_of_isAlphabetic h
  rw [Bool.eq_false_iff]
  intro hdigit
  have hnine : c.toNat <= 57 := (Char.isDigit_iff_toNat.mp hdigit).right
  omega

theorem ne_of_isWordStart {c d : Char} (h : isWordStart c = true) (hd : isWordStart d = false) :
    c ≠ d := by
  rintro rfl
  rw [h] at hd
  cases hd

theorem not_isDigit_of_isWordStart {c : Char} (h : isWordStart c = true) :
    c.isDigit = false := by
  simp only [isWordStart, Bool.or_eq_true, beq_iff_eq] at h
  rcases h with (hletter | rfl) | rfl
  · exact not_isDigit_of_isAlphabetic hletter
  · rfl
  · rfl

/-!
# Scanning numbers
-/

theorem scanFraction_of_head {rest : List Char} (h : rest.head? ≠ some '.') :
    scanFraction rest = ([], rest) := by
  cases rest with
  | nil => rfl
  | cons c more =>
      have hc : c ≠ '.' := fun heq => h (congrArg some heq)
      rw [scanFraction]
      intro _ heq
      exact hc (List.cons.inj heq).left

theorem scanFraction_point {places rest : List Char} (hplaces : Number.IsDigits places)
    (hrest : forall c, rest.head? = some c -> c.isDigit = false) :
    scanFraction ('.' :: (places ++ rest)) = ('.' :: places, rest) := by
  rcases hplaces with ⟨hne, hdigits⟩
  have hspan := Number.span_append hdigits hrest
  rw [scanFraction]
  rw [hspan.left, hspan.right]
  cases places with
  | nil => exact absurd rfl hne
  | cons c more => rfl

/-- Digits and what may follow them, before a sign is considered. -/
theorem scanFraction_unsigned {cs rest : List Char} (h : Number.IsUnsigned cs)
    (hrest : forall c, rest.head? = some c -> c.isDigit = false ∧ c ≠ '.') :
    (cs ++ rest).takeWhile Char.isDigit ≠ []
      ∧ (cs ++ rest).takeWhile Char.isDigit
          ++ (scanFraction ((cs ++ rest).dropWhile Char.isDigit)).1 = cs
      ∧ (scanFraction ((cs ++ rest).dropWhile Char.isDigit)).2 = rest := by
  have hdigit : forall c, rest.head? = some c -> c.isDigit = false :=
    fun c hc => (hrest c hc).left
  cases h with
  | whole hdigits =>
      have hspan := Number.span_append hdigits.right hdigit
      have hpoint : rest.head? ≠ some '.' := fun hc => (hrest _ hc).right rfl
      rw [hspan.left, hspan.right, scanFraction_of_head hpoint]
      exact ⟨hdigits.left, List.append_nil _, rfl⟩
  | @fraction digits places hdigits hplaces =>
      have hstop : forall c, ('.' :: (places ++ rest)).head? = some c -> c.isDigit = false := by
        intro c hc
        cases hc
        rfl
      have hspan := Number.span_append hdigits.right hstop
      rw [List.append_assoc, List.cons_append, hspan.left, hspan.right,
        scanFraction_point hplaces hdigit]
      exact ⟨hdigits.left, rfl, rfl⟩

theorem scanNumber?_numeral {cs rest : List Char} (h : Number.IsNumeral cs)
    (hrest : forall c, rest.head? = some c -> c.isDigit = false ∧ c ≠ '.') :
    scanNumber? (cs ++ rest) = some (cs, rest) := by
  cases h with
  | unsigned hcs =>
      rcases hcs.head_isDigit with ⟨c, more, rfl, hc⟩
      rcases scanFraction_unsigned hcs hrest with ⟨hne, hread, hleft⟩
      rw [scanNumber?]
      · dsimp only
        split
        · exact absurd (by assumption) hne
        · rw [List.nil_append, hread, hleft]
      · intro _ heq
        rw [(List.cons.inj heq).left] at hc
        cases hc
  | negative hcs =>
      rcases scanFraction_unsigned hcs hrest with ⟨hne, hread, hleft⟩
      rw [List.cons_append, scanNumber?]
      dsimp only
      split
      · exact absurd (by assumption) hne
      · rw [List.append_assoc, hread, hleft]
        rfl

theorem scanNumeric?_numeral {cs rest : List Char} {raw : String} (h : Number.IsNumeral cs)
    (hrest : (Token.number raw).EndsAt rest) :
    scanNumeric? (cs ++ rest) = some (.number (String.ofList cs), rest) := by
  have hstop : forall c, rest.head? = some c ->
      (c.isDigit = false ∧ c ≠ '.') ∧ Text.isAlphabetic c = false := by
    intro c hc
    simpa [Token.continues] using hrest c hc
  have hletters : rest.takeWhile Text.isAlphabetic = [] := by
    cases rest with
    | nil => rfl
    | cons c more =>
        rw [List.takeWhile_cons, (hstop c rfl).right]
        rfl
  simp only [scanNumeric?, scanNumber?_numeral h (fun c hc => (hstop c hc).left), hletters]

theorem scanNumeric?_quantity {number letters rest : List Char} {text : String}
    (hnumber : Number.IsNumeral number) (hne : letters ≠ [])
    (hletters : forall c, c ∈ letters -> Text.isAlphabetic c = true)
    (hrest : (Token.word text).EndsAt rest) :
    scanNumeric? (number ++ letters ++ rest)
      = some (.word (String.ofList (number ++ letters)), rest) := by
  have hend : forall c, rest.head? = some c -> Text.isAlphabetic c = false := by
    intro c hc
    have hword := hrest c hc
    simp only [Token.continues, isWordChar, Text.isAlphanumeric, Bool.or_eq_false_iff] at hword
    exact hword.left.left.left.left.left.left
  have hspan := Number.span_append hletters hend
  have hstop : forall c, (letters ++ rest).head? = some c -> c.isDigit = false ∧ c ≠ '.' := by
    intro c hc
    rcases List.exists_cons_of_ne_nil hne with ⟨d, more, rfl⟩
    cases hc
    have hletter := hletters c List.mem_cons_self
    refine ⟨not_isDigit_of_isAlphabetic hletter, ?_⟩
    rintro rfl
    cases hletter
  rw [scanNumeric?, List.append_assoc, scanNumber?_numeral hnumber hstop]
  simp only [hspan.left, hspan.right]

theorem scanNumeric?_eq_none {c : Char} {rest : List Char} (hsign : c ≠ '-')
    (hdigit : c.isDigit = false) : scanNumeric? (c :: rest) = none := by
  have hnumber : scanNumber? (c :: rest) = none := by
    rw [scanNumber?]
    · rw [List.takeWhile_cons, hdigit]
      rfl
    · intro _ heq
      exact hsign (List.cons.inj heq).left
  rw [scanNumeric?, hnumber]

/-!
# Scanning quoted texts, words and symbols
-/

theorem scanText?_doubleQuotes (cs seen : List Char) {rest : List Char}
    (hrest : rest.head? ≠ some '\'') :
    scanText? seen (doubleQuotes cs ++ '\'' :: rest) = some (cs.reverse ++ seen, rest) := by
  induction cs generalizing seen with
  | nil =>
      show scanText? seen ('\'' :: rest) = some (seen, rest)
      rw [scanText?]
      · rfl
      · intro more _ heq
        rw [heq] at hrest
        exact hrest rfl
  | cons c cs ih =>
      rw [List.reverse_cons, List.append_assoc, List.singleton_append, doubleQuotes,
        List.flatMap_cons, <- doubleQuotes]
      by_cases hc : c = '\''
      · subst hc
        show scanText? seen ('\'' :: '\'' :: (doubleQuotes cs ++ '\'' :: rest)) = _
        rw [scanText?, ih]
      · rw [if_neg hc]
        show scanText? seen (c :: (doubleQuotes cs ++ '\'' :: rest)) = _
        rw [scanText?]
        · rw [if_neg (by simpa using hc), ih]
        · intro _ heq
          exact absurd heq hc

theorem scanQuoted?_mark {mark : Char} {cs rest : List Char} (h : mark ∉ cs) :
    scanQuoted? mark (cs ++ mark :: rest) = some (cs, rest) := by
  have hcs : forall c, c ∈ cs -> (c != mark) = true := by
    intro c hc
    rw [bne_iff_ne]
    rintro rfl
    exact h hc
  have hstop : forall c, (mark :: rest).head? = some c -> (c != mark) = false := by
    intro c hc
    cases hc
    simp
  have hspan := Number.span_append hcs hstop
  rw [scanQuoted?, hspan.left, hspan.right]

theorem scan?_of_not_numeric {c : Char} {rest : List Char} (hquotes : c ∉ ['\'', '"', '`'])
    (hsign : c ≠ '-') (hdigit : c.isDigit = false) :
    scan? (c :: rest)
      = if isWordStart c then
          some (.word (String.ofList (c :: rest.takeWhile isWordChar)), rest.dropWhile isWordChar)
        else
          scanSymbol? (c :: rest) := by
  simp only [List.mem_cons, List.not_mem_nil, or_false, not_or] at hquotes
  simp [scan?, hquotes, scanNumeric?_eq_none hsign hdigit]

theorem numeral_head {cs : List Char} (h : Number.IsNumeral cs) :
    exists c more, cs = c :: more ∧ (c = '-' ∨ c.isDigit = true) := by
  cases h with
  | unsigned hcs =>
      rcases hcs.head_isDigit with ⟨c, more, rfl, hc⟩
      exact ⟨c, more, rfl, .inr hc⟩
  | negative hcs => exact ⟨'-', _, rfl, .inl rfl⟩

theorem scan?_numeric {c : Char} {rest : List Char} (h : c = '-' ∨ c.isDigit = true)
    {found : Token × List Char} (hfound : scanNumeric? (c :: rest) = some found) :
    scan? (c :: rest) = some found := by
  have hquotes : c ≠ '\'' ∧ c ≠ '"' ∧ c ≠ '`' := by
    refine ⟨?_, ?_, ?_⟩ <;>
    · rintro rfl
      rcases h with h | h <;> cases h
  simp [scan?, hquotes, hfound]

theorem scan?_word {text : String} {rest : List Char} (h : IsWord text.toList)
    (hrest : (Token.word text).EndsAt rest) :
    scan? (text.toList ++ rest) = some (.word text, rest) := by
  generalize hcs : text.toList = cs at h
  have htext : text = String.ofList cs := by rw [<- hcs, String.ofList_toList]
  cases h with
  | @bare c more start inner =>
      have hspan := Number.span_append inner hrest
      have hquotes : c ∉ ['\'', '"', '`'] := by
        simp only [List.mem_cons, List.not_mem_nil, or_false, not_or]
        exact ⟨ne_of_isWordStart start rfl, ne_of_isWordStart start rfl,
          ne_of_isWordStart start rfl⟩
      rw [List.cons_append, scan?_of_not_numeric hquotes (ne_of_isWordStart start rfl)
        (not_isDigit_of_isWordStart start), if_pos start, hspan.left, hspan.right, htext]
  | @quantity number letters hnumber hne hletters =>
      rcases numeral_head hnumber with ⟨c, more, rfl, hc⟩
      rw [List.cons_append, List.cons_append]
      refine scan?_numeric hc ?_
      rw [htext]
      exact scanNumeric?_quantity hnumber hne hletters hrest

theorem scan?_number {raw : String} {rest : List Char} (h : Number.IsNumeral raw.toList)
    (hrest : (Token.number raw).EndsAt rest) :
    scan? (raw.toList ++ rest) = some (.number raw, rest) := by
  rcases numeral_head h with ⟨c, more, heq, hc⟩
  have hscan := scanNumeric?_numeral h hrest
  rw [String.ofList_toList, heq] at hscan
  rw [heq]
  exact scan?_numeric hc hscan

theorem scan?_comparison {op : Comparison} {rest : List Char}
    (hrest : (Token.comparison op).EndsAt rest) :
    scan? (op.spelling.toList ++ rest) = some (.comparison op, rest) := by
  have hstop : forall c more, rest = c :: more -> c ≠ '=' ∧ c ≠ '>' := by
    rintro c more rfl
    simpa [Token.continues] using hrest c rfl
  cases op with
  | notEq => rfl
  | lte => rfl
  | gte => rfl
  | eq =>
      show scanSymbol? ('=' :: rest) = _
      rw [scanSymbol?]
      · exact fun more heq => (hstop _ more heq).left rfl
  | lt =>
      show scanSymbol? ('<' :: rest) = _
      rw [scanSymbol?]
      · exact fun more heq => (hstop _ more heq).left rfl
      · exact fun more heq => (hstop _ more heq).right rfl
  | gt =>
      show scanSymbol? ('>' :: rest) = _
      rw [scanSymbol?]
      · exact fun more heq => (hstop _ more heq).left rfl

theorem scan?_source {token : Token} {rest : List Char} (h : token.Writable)
    (hrest : token.EndsAt rest) : scan? (token.source ++ rest) = some (token, rest) := by
  cases token with
  | word text => exact scan?_word h hrest
  | number raw => exact scan?_number h hrest
  | comparison op => exact scan?_comparison hrest
  | quotedName text =>
      show (scanQuoted? '"' (text.toList ++ ['"'] ++ rest)).map _ = _
      rw [List.append_assoc, List.singleton_append, scanQuoted?_mark h]
      simp
  | quotedText text =>
      have hquote : rest.head? ≠ some '\'' := by
        intro hc
        cases hrest _ hc
      show (scanText? [] (doubleQuotes text.toList ++ ['\''] ++ rest)).map _ = _
      rw [List.append_assoc, List.singleton_append, scanText?_doubleQuotes _ _ hquote]
      simp
  | star => rfl
  | comma => rfl
  | leftParen => rfl
  | rightParen => rfl
  | slash => rfl
  | semicolon => rfl

/-!
# Texts that spell tokens
-/

/-- The source forms of the tokens in order, with separators between them. -/
inductive Spells : List Token -> List Char -> Prop
  | done : Spells [] []
  | separator {tokens : List Token} {c : Char} {rest : List Char} (hc : isSeparator c = true)
      (more : Spells tokens rest) : Spells tokens (c :: rest)
  | token {token : Token} {tokens : List Token} {rest : List Char} (writable : token.Writable)
      (ends : token.EndsAt rest) (more : Spells tokens rest) :
      Spells (token :: tokens) (token.source ++ rest)

def isGap (c : Char) : Bool :=
  isSeparator c || c == '=' || c == '>'

theorem isGap_of_isWordStart {c : Char} (h : isWordStart c = true) : isGap c = false := by
  rw [Bool.eq_false_iff]
  intro hgap
  simp only [isGap, isSeparator, Bool.or_eq_true, beq_iff_eq] at hgap
  rcases hgap with ((((rfl | rfl) | rfl) | rfl) | rfl) | rfl <;> cases h

theorem isGap_of_numeral_head {c : Char} (h : c = '-' ∨ c.isDigit = true) : isGap c = false := by
  rw [Bool.eq_false_iff]
  intro hgap
  simp only [isGap, isSeparator, Bool.or_eq_true, beq_iff_eq] at hgap
  rcases hgap with ((((rfl | rfl) | rfl) | rfl) | rfl) | rfl <;> rcases h with h | h <;> cases h

def Token.isComparison : Token -> Bool
  | .comparison _ => true
  | _ => false

theorem isGap_source_head {token : Token} (h : token.Writable)
    (hop : token.isComparison = false) :
    exists c more, token.source = c :: more ∧ isGap c = false := by
  cases token with
  | comparison op => cases hop
  | word text =>
      change IsWord text.toList at h
      show exists c more, text.toList = c :: more ∧ isGap c = false
      generalize text.toList = cs at h
      cases h with
      | @bare c more start inner => exact ⟨c, more, rfl, isGap_of_isWordStart start⟩
      | quantity hnumber hne hletters =>
          rcases numeral_head hnumber with ⟨c, more, rfl, hc⟩
          exact ⟨c, _, rfl, isGap_of_numeral_head hc⟩
  | number raw =>
      rcases numeral_head h with ⟨c, more, heq, hc⟩
      exact ⟨c, more, heq, isGap_of_numeral_head hc⟩
  | quotedName text => exact ⟨'"', _, rfl, rfl⟩
  | quotedText text => exact ⟨'\'', _, rfl, rfl⟩
  | star => exact ⟨'*', [], rfl, rfl⟩
  | comma => exact ⟨',', [], rfl, rfl⟩
  | leftParen => exact ⟨'(', [], rfl, rfl⟩
  | rightParen => exact ⟨')', [], rfl, rfl⟩
  | slash => exact ⟨'/', [], rfl, rfl⟩
  | semicolon => exact ⟨';', [], rfl, rfl⟩

theorem comparison_head (op : Comparison) :
    exists c more, op.spelling.toList = c :: more ∧ c ∈ ['=', '!', '<', '>'] := by
  cases op with
  | eq => exact ⟨'=', [], rfl, by decide⟩
  | notEq => exact ⟨'!', ['='], rfl, by decide⟩
  | lt => exact ⟨'<', [], rfl, by decide⟩
  | lte => exact ⟨'<', ['='], rfl, by decide⟩
  | gt => exact ⟨'>', [], rfl, by decide⟩
  | gte => exact ⟨'>', ['='], rfl, by decide⟩

theorem source_head {token : Token} (h : token.Writable) :
    exists c more, token.source = c :: more ∧ isSeparator c = false := by
  cases hop : token.isComparison with
  | false =>
      rcases isGap_source_head h hop with ⟨c, more, hsource, hc⟩
      simp only [isGap, Bool.or_eq_false_iff] at hc
      exact ⟨c, more, hsource, hc.left.left⟩
  | true =>
      cases token with
      | comparison op =>
          rcases comparison_head op with ⟨c, more, hsource, hc⟩
          refine ⟨c, more, hsource, ?_⟩
          simp only [List.mem_cons, List.not_mem_nil, or_false] at hc
          rcases hc with rfl | rfl | rfl | rfl <;> rfl
      | _ => cases hop

theorem lexemesFrom_of_spells {tokens : List Token} {cs : List Char} (h : Spells tokens cs)
    (start : Nat) :
    exists found, lexemesFrom start cs = .ok found ∧ found.map Lexeme.token = tokens := by
  induction h generalizing start with
  | done => exact ⟨[], by rw [lexemesFrom], rfl⟩
  | @separator tokens c rest hc more ih =>
      rcases ih (start + c.utf8Size) with ⟨found, hfound, htokens⟩
      refine ⟨found, ?_, htokens⟩
      rw [lexemesFrom, if_pos hc, hfound]
  | @token token tokens rest writable ends more ih =>
      have hscan := scan?_source writable ends
      rcases source_head writable with ⟨c, tail, hsource, hc⟩
      rw [hsource, List.cons_append] at hscan
      rw [hsource, List.cons_append, lexemesFrom, if_neg (by simp [hc])]
      split
      · rename_i hnone
        rw [hscan] at hnone
        cases hnone
      · rename_i found after hsome
        rw [hscan] at hsome
        cases hsome
        rcases ih (start + (byteLength (c :: (tail ++ rest)) - byteLength rest))
          with ⟨found, hfound, htokens⟩
        refine ⟨{ token := token, start := start } :: found, ?_, ?_⟩
        · rw [hfound]
        · rw [List.map_cons, htokens]

theorem mem_of_spells {tokens : List Token} {cs : List Char} (h : Spells tokens cs)
    {token : Token} (htoken : token ∈ tokens) {c : Char} (hc : c ∈ token.source) : c ∈ cs := by
  induction h with
  | done => cases htoken
  | separator _ _ ih => exact List.mem_cons_of_mem _ (ih htoken)
  | token _ _ _ ih =>
      rcases List.mem_cons.mp htoken with rfl | hmore
      · exact List.mem_append_left _ hc
      · exact List.mem_append_right _ (ih hmore)

/-!
# Layout

A blank stands between two tokens, except where usage closes them up.
-/

/-- Parentheses, commas, slashes and comparisons stand close; a name closes up with the
parenthesis of its call. -/
def closesUp : Token -> Token -> Bool
  | .comparison _, .comparison _ => false
  | .comparison _, _ => true
  | _, .comparison _ => true
  | .leftParen, _ => true
  | .slash, _ => true
  | .word text, .leftParen => !isReserved text
  | _, .rightParen => true
  | _, .comma => true
  | _, .slash => true
  | _, _ => false

def layout : List Token -> List Char
  | [] => []
  | [token] => token.source
  | left :: right :: rest =>
      left.source ++ (if closesUp left right then [] else [' ']) ++ layout (right :: rest)

/-- First characters of the symbols that stand close to what is before them. -/
def closeSymbols : List Char := ['=', '!', '<', '>', '(', ')', ',', '/']

theorem head_mem_closeSymbols {left right : Token} (h : closesUp left right = true)
    (hleft : exists text, left = .word text ∨ left = .quotedText text ∨ left = .number text)
    {c : Char} {more : List Char} (hc : right.source = c :: more) : c ∈ closeSymbols := by
  cases right with
  | comparison op =>
      rcases comparison_head op with ⟨d, tail, hsource, hd⟩
      cases hsource.symm.trans hc
      simp only [List.mem_cons, List.not_mem_nil, or_false] at hd
      rcases hd with rfl | rfl | rfl | rfl <;> decide
  | leftParen => cases hc; decide
  | rightParen => cases hc; decide
  | comma => cases hc; decide
  | slash => cases hc; decide
  | _ => rcases hleft with ⟨text, rfl | rfl | rfl⟩ <;> cases h

theorem continues_closeSymbol {left : Token} (hleft : left.isComparison = false) {c : Char}
    (hc : c ∈ closeSymbols) : left.continues c = false := by
  simp only [closeSymbols, List.mem_cons, List.not_mem_nil, or_false] at hc
  cases left with
  | comparison op => cases hleft
  | _ => rcases hc with rfl | rfl | rfl | rfl | rfl | rfl | rfl | rfl <;> rfl

theorem continues_of_closesUp {left right : Token} (h : closesUp left right = true)
    (hright : right.Writable) {c : Char} {more : List Char} (hc : right.source = c :: more) :
    left.continues c = false := by
  cases left with
  | comparison op =>
      have hop : right.isComparison = false := by
        cases right with
        | comparison _ => cases h
        | _ => rfl
      rcases isGap_source_head hright hop with ⟨d, tail, hsource, hgap⟩
      cases hsource.symm.trans hc
      simp only [isGap, Bool.or_eq_false_iff] at hgap
      simp [Token.continues, hgap]
  | word text => exact continues_closeSymbol rfl (head_mem_closeSymbols h ⟨text, by simp⟩ hc)
  | quotedText text => exact continues_closeSymbol rfl (head_mem_closeSymbols h ⟨text, by simp⟩ hc)
  | number raw => exact continues_closeSymbol rfl (head_mem_closeSymbols h ⟨raw, by simp⟩ hc)
  | _ => rfl

theorem head?_layout {token : Token} (h : token.Writable) (tokens : List Token) :
    (layout (token :: tokens)).head? = token.source.head? := by
  rcases source_head h with ⟨c, more, hsource, _⟩
  cases tokens with
  | nil => rfl
  | cons right rest => rw [layout, hsource]; rfl

theorem continues_blank (token : Token) : token.continues ' ' = false := by
  cases token <;> rfl

theorem spells_layout {tokens : List Token} (h : forall token, token ∈ tokens -> token.Writable) :
    Spells tokens (layout tokens) := by
  induction tokens with
  | nil => exact .done
  | cons left rest ih =>
      have hleft := h left List.mem_cons_self
      have hrest := ih (fun token htoken => h token (List.mem_cons_of_mem _ htoken))
      cases rest with
      | nil =>
          have hspells : Spells [left] (left.source ++ []) :=
            .token hleft (fun c hc => by cases hc) .done
          rwa [List.append_nil] at hspells
      | cons right rest =>
          rw [layout, List.append_assoc]
          have hright := h right (List.mem_cons_of_mem _ List.mem_cons_self)
          cases hclose : closesUp left right with
          | true =>
              refine .token hleft ?_ hrest
              intro c hc
              change (layout (right :: rest)).head? = some c at hc
              rcases source_head hright with ⟨d, more, hsource, _⟩
              rw [head?_layout hright, hsource] at hc
              cases hc
              exact continues_of_closesUp hclose hright hsource
          | false =>
              refine .token hleft ?_ (.separator rfl hrest)
              intro c hc
              cases hc
              exact continues_blank left

end Sql
end Rollup
