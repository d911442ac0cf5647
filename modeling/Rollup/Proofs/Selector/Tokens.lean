import Rollup.Plan.Threshold
import Rollup.Proofs.Formula
import Rollup.Proofs.Numeral
import Rollup.Proofs.Outcome

/-!
# The tokens of a selector script

A script is put together from pieces: parameters, comparison signs, numbers and the
signs that join them. Each piece is cut into its own tokens, whatever stands before it,
as long as a blank, a closing parenthesis or nothing stands behind it.
-/

namespace Rollup
namespace Script

open Sql (Comparison Formula)

/-!
# Cutting without a bound

The number of characters bounds the number of steps, so that the bound can be left out
of the statements.
-/

theorem scan_length_le {c : Char} {cs rest : List Char} {token : Token}
    (h : scan c cs = .ok (token, rest)) : rest.length <= cs.length := by
  unfold scan at h
  split at h
  case h_12 =>
    split at h
    · rcases bind_eq_ok_iff.mp h with ⟨found, _, heq⟩
      cases heq
      exact Sql.length_dropWhile_le isNumberChar cs
    · split at h
      · rcases bind_eq_ok_iff.mp h with ⟨found, _, heq⟩
        cases heq
        exact Sql.length_dropWhile_le isWordChar cs
      · cases h
  all_goals
    cases h
    simp

theorem tokensWithin_of_le {rounds more : Nat} {cs : List Char}
    (hlength : cs.length <= rounds) (hmore : rounds <= more) :
    tokensWithin more cs = tokensWithin rounds cs := by
  induction rounds generalizing more cs with
  | zero =>
      have hnil : cs = [] := List.eq_nil_of_length_eq_zero (Nat.le_zero.mp hlength)
      subst hnil
      cases more <;> rfl
  | succ rounds ih =>
      obtain ⟨more, rfl⟩ : exists n, more = n + 1 := ⟨more - 1, by omega⟩
      have hmore' : rounds <= more := Nat.le_of_succ_le_succ hmore
      cases cs with
      | nil => rfl
      | cons c cs =>
          have hlength' : cs.length <= rounds := Nat.le_of_succ_le_succ hlength
          rw [tokensWithin, tokensWithin]
          split
          · exact ih hlength' hmore'
          · cases hscan : scan c cs with
            | error fault => rfl
            | ok found =>
                have hrest : found.2.length <= cs.length := scan_length_le hscan
                show (tokensWithin more found.2 >>= _) = (tokensWithin rounds found.2 >>= _)
                rw [ih (Nat.le_trans hrest hlength') hmore']

def tokensOf (cs : List Char) : Except Fault (List Token) :=
  tokensWithin cs.length cs

theorem tokens_eq_tokensOf (script : String) : tokens script = tokensOf script.toList := by
  rw [tokens, tokensOf, String.length_toList]

theorem tokensOf_blank {c : Char} (h : isBlank c = true) (cs : List Char) :
    tokensOf (c :: cs) = tokensOf cs := by
  rw [tokensOf, List.length_cons, tokensWithin, if_pos h]
  rfl

theorem tokensOf_scan {c : Char} {cs rest : List Char} {token : Token}
    (hblank : isBlank c = false) (hscan : scan c cs = .ok (token, rest)) :
    tokensOf (c :: cs) = (tokensOf rest).map (fun found => token :: found) := by
  rw [tokensOf, List.length_cons, tokensWithin, hblank, hscan]
  show (tokensWithin cs.length rest >>= fun found => .ok (token :: found)) = _
  rw [tokensWithin_of_le (Nat.le_refl _) (scan_length_le hscan), tokensOf]
  cases tokensWithin rest.length rest <;> rfl

/-!
# Pieces
-/

/-- Nothing follows a piece, or a blank or a closing parenthesis does. -/
def EndsPiece (rest : List Char) : Prop :=
  forall c, rest.head? = some c -> c = ' ' ∨ c = ')'

/-- The piece is cut into these tokens wherever it ends. -/
def Yields (piece : List Char) (found : List Token) : Prop :=
  forall rest, EndsPiece rest ->
    tokensOf (piece ++ rest) = (tokensOf rest).map (fun more => found ++ more)

theorem endsPiece_nil : EndsPiece [] := by
  intro c h
  cases h

theorem endsPiece_blank (rest : List Char) : EndsPiece (' ' :: rest) := by
  intro c h
  cases h
  exact Or.inl rfl

theorem endsPiece_rightParen (rest : List Char) : EndsPiece (')' :: rest) := by
  intro c h
  cases h
  exact Or.inr rfl

theorem map_append_map (found more : List Token) (x : Except Fault (List Token)) :
    (x.map (fun rest => more ++ rest)).map (fun rest => found ++ rest)
      = x.map (fun rest => (found ++ more) ++ rest) := by
  cases x with
  | error fault => rfl
  | ok rest => simp [Except.map]

theorem Yields.append {first second : List Char} {found more : List Token}
    (hfirst : Yields first found) (hsecond : Yields second more)
    (hends : forall rest, EndsPiece rest -> EndsPiece (second ++ rest)) :
    Yields (first ++ second) (found ++ more) := by
  intro rest hrest
  rw [List.append_assoc, hfirst _ (hends rest hrest), hsecond rest hrest, map_append_map]

theorem yields_of_scan {c : Char} {cs : List Char} {token : Token} (hblank : isBlank c = false)
    (hscan : forall rest, EndsPiece rest -> scan c (cs ++ rest) = .ok (token, rest)) :
    Yields (c :: cs) [token] := by
  intro rest hrest
  exact tokensOf_scan hblank (hscan rest hrest)

theorem Yields.blank {piece : List Char} {found : List Token} (h : Yields piece found) :
    Yields (' ' :: piece) found := by
  intro rest hrest
  rw [List.cons_append, tokensOf_blank rfl]
  exact h rest hrest

theorem yields_rightParen : Yields [')'] [.rightParen] :=
  yields_of_scan rfl (fun _ _ => rfl)

theorem Yields.leftParen {piece : List Char} {found : List Token} (h : Yields piece found) :
    Yields ('(' :: piece) (.leftParen :: found) := by
  intro rest hrest
  rw [List.cons_append, tokensOf_scan rfl (show scan '(' (piece ++ rest) = _ from rfl),
    h rest hrest]
  exact map_append_map [.leftParen] found (tokensOf rest)

theorem Yields.parenthesized {piece : List Char} {found : List Token} (h : Yields piece found) :
    Yields ('(' :: piece ++ [')']) (.leftParen :: found ++ [.rightParen]) :=
  h.leftParen.append yields_rightParen (fun rest _ => endsPiece_rightParen rest)

theorem Yields.negated {piece : List Char} {found : List Token}
    (h : Yields ('(' :: piece) found) : Yields ('!' :: '(' :: piece) (.negate :: found) := by
  intro rest hrest
  have hscan : scan '!' ('(' :: piece ++ rest) = .ok (.negate, '(' :: piece ++ rest) := rfl
  rw [List.cons_append, tokensOf_scan rfl hscan, h rest hrest]
  exact map_append_map [.negate] found (tokensOf rest)

theorem Yields.separated {c : Char} {joint : Token} {piece : List Char} {found : List Token}
    (hblank : isBlank c = false) (hscan : forall rest, scan c (c :: rest) = .ok (joint, rest))
    (h : Yields piece found) : Yields (' ' :: c :: c :: ' ' :: piece) (joint :: found) := by
  intro rest hrest
  simp only [List.cons_append]
  rw [tokensOf_blank rfl, tokensOf_scan hblank (hscan _), tokensOf_blank rfl, h rest hrest]
  exact map_append_map [joint] found (tokensOf rest)

theorem yields_intercalate {c : Char} {joint : Token}
    (hblank : isBlank c = false) (hscan : forall rest, scan c (c :: rest) = .ok (joint, rest))
    {pieces : List (List Char)} {founds : List (List Token)} (hne : pieces ≠ [])
    (h : List.Forall₂ Yields pieces founds) :
    Yields ([' ', c, c, ' '].intercalate pieces) ([joint].intercalate founds) := by
  induction h with
  | nil => exact absurd rfl hne
  | @cons piece found pieces founds hpiece hrest ih =>
      cases hrest with
      | nil => simpa [List.intercalate] using hpiece
      | @cons second secondFound pieces founds hsecond hmore =>
          have htail := ih (List.cons_ne_nil _ _)
          have hjoined := hpiece.append (htail.separated hblank hscan)
            (fun rest _ => endsPiece_blank _)
          simpa [List.intercalate] using hjoined

/-!
# Numbers, words and comparison signs
-/

theorem EndsPiece.head_eq_false {p : Char -> Bool} {rest : List Char} (h : EndsPiece rest)
    (hblank : p ' ' = false) (hparen : p ')' = false) :
    forall c, rest.head? = some c -> p c = false := by
  intro c hc
  rcases h c hc with rfl | rfl
  · exact hblank
  · exact hparen

theorem scan_of_isNumberStart {c : Char} (h : isNumberStart c = true) (cs : List Char) :
    scan c cs = (do
      let token <- numberToken (c :: cs.takeWhile isNumberChar)
      return (token, cs.dropWhile isNumberChar)) := by
  unfold scan
  split
  case h_12 => rw [if_pos h]
  all_goals exact absurd h (by decide)

theorem isBlank_of_isNumberStart {c : Char} (h : isNumberStart c = true) : isBlank c = false := by
  by_contra hblank
  simp only [isBlank, Bool.not_eq_false, Bool.or_eq_true, beq_iff_eq] at hblank
  rcases hblank with ((rfl | rfl) | rfl) | rfl <;> exact absurd h (by decide)

theorem isNumeral_cons {raw : List Char} (h : Number.IsNumeral raw) :
    exists c cs, raw = c :: cs ∧ isNumberStart c = true
      ∧ forall d, d ∈ cs -> isNumberChar d = true := by
  have hchar : forall d : Char, d.isDigit = true ∨ d = '.' -> isNumberChar d = true := by
    intro d hd
    rcases hd with hd | rfl
    · simp [isNumberChar, hd]
    · rfl
  cases h with
  | unsigned h =>
      obtain ⟨c, cs, rfl, hc⟩ := h.head_isDigit
      exact ⟨c, cs, rfl, by simp [isNumberStart, hc],
        fun d hd => hchar d (h.digit_or_point (List.mem_cons_of_mem c hd))⟩
  | @negative cs h => exact ⟨'-', cs, rfl, rfl, fun d hd => hchar d (h.digit_or_point hd)⟩

theorem yields_number {raw : String} {value : Float} (hraw : Number.IsNumeral raw.toList)
    (hvalue : Number.readFloat? raw = some value) : Yields raw.toList [.number value] := by
  obtain ⟨c, cs, hcons, hstart, hchars⟩ := isNumeral_cons hraw
  rw [hcons]
  refine yields_of_scan (isBlank_of_isNumberStart hstart) (fun rest hrest => ?_)
  have hspan := Number.span_append hchars (hrest.head_eq_false (p := isNumberChar) rfl rfl)
  have htext : String.ofList (c :: cs) = raw := by rw [← hcons, String.ofList_toList]
  rw [scan_of_isNumberStart hstart, hspan.left, hspan.right, numberToken, htext, hvalue]
  rfl

theorem yields_comparison (op : Comparison) :
    Yields (comparisonSymbol op).toList [.comparison op] := by
  cases op with
  | eq | notEq | lte | gte => exact yields_of_scan rfl (fun _ _ => rfl)
  | lt | gt =>
      refine yields_of_scan rfl (fun rest hrest => ?_)
      cases rest with
      | nil => rfl
      | cons c rest => rcases hrest c rfl with rfl | rfl <;> rfl

theorem wordToken_parameter (name : List Char) :
    wordToken (parameterMark ++ name) = .ok (.parameter (String.ofList name)) := by
  have hmark : parameterMark.isPrefixOf (parameterMark ++ name) = true := by simp
  rw [wordToken, if_pos hmark, List.drop_left]

theorem yields_parameter {name : String} (h : forall c, c ∈ name.toList -> isWordChar c = true) :
    Yields (parameterMark ++ name.toList) [.parameter name] := by
  have hmark : forall c, c ∈ ['a', 'r', 'a', 'm', 's', '.'] -> isWordChar c = true :=
    List.all_eq_true.mp rfl
  have hchars : forall c, c ∈ ['a', 'r', 'a', 'm', 's', '.'] ++ name.toList ->
      isWordChar c = true := by
    intro c hc
    rcases List.mem_append.mp hc with hc | hc
    · exact hmark c hc
    · exact h c hc
  show Yields ('p' :: (['a', 'r', 'a', 'm', 's', '.'] ++ name.toList)) _
  refine yields_of_scan rfl (fun rest hrest => ?_)
  have hspan := Number.span_append hchars (hrest.head_eq_false (p := isWordChar) rfl rfl)
  have hword := wordToken_parameter name.toList
  rw [String.ofList_toList] at hword
  show (wordToken ('p' :: List.takeWhile isWordChar _) >>= fun token =>
    .ok (token, List.dropWhile isWordChar _)) = _
  rw [hspan.left, hspan.right]
  show (wordToken (parameterMark ++ name.toList) >>= _) = _
  rw [hword]
  rfl

theorem toList_parameterName (index : Nat) :
    (Plan.parameterName index).toList = 'p' :: Nat.toDigits 10 index := by
  simp [Plan.parameterName, ToString.toString]

theorem isWordChar_parameterName (index : Nat) :
    forall c, c ∈ (Plan.parameterName index).toList -> isWordChar c = true := by
  intro c hc
  rw [toList_parameterName, List.mem_cons] at hc
  rcases hc with rfl | hc
  · rfl
  · have hdigit := (Number.isDigits_toDigits index).right c hc
    simp [isWordChar, Char.isAlphanum, hdigit]

theorem parameterName_injective {i j : Nat} (h : Plan.parameterName i = Plan.parameterName j) :
    i = j := by
  have hlists := congrArg String.toList h
  rw [toList_parameterName, toList_parameterName, List.cons.injEq] at hlists
  exact Number.toDigits_injective hlists.right

/-!
# Scripts of formulas
-/

open Plan (Test)

/-- The number of the test is written as a numeral and can be read. -/
def GoodTest (test : Test) : Prop :=
  Number.IsNumeral test.number.toList ∧ exists bound, Number.readFloat? test.number = some bound

def testTokens (paths : List String) (test : Test) : List Token :=
  [ .parameter (Plan.parameterName (paths.idxOf test.path))
  , .comparison test.op
  , .number ((Number.readFloat? test.number).getD 0) ]

def encloseTokens (outermost : Bool) (inner : List Token) : List Token :=
  if outermost then inner else .leftParen :: inner ++ [.rightParen]

mutual

def formulaTokens (paths : List String) (outermost : Bool) : Formula Test -> List Token
  | .all parts => encloseTokens outermost ([Token.both].intercalate (partsTokens paths parts))
  | .any parts => encloseTokens outermost ([Token.either].intercalate (partsTokens paths parts))
  | .negation part => .negate :: .leftParen :: formulaTokens paths true part ++ [.rightParen]
  | .leaf test => testTokens paths test

def partsTokens (paths : List String) : List (Formula Test) -> List (List Token)
  | [] => []
  | part :: rest => formulaTokens paths false part :: partsTokens paths rest

end

theorem partsTokens_eq_map (paths : List String) (parts : List (Formula Test)) :
    partsTokens paths parts = parts.map (formulaTokens paths false) := by
  induction parts with
  | nil => rw [partsTokens, List.map_nil]
  | cons part rest ih => rw [partsTokens, List.map_cons, ih]

theorem formulaScripts_eq_map (paths : List String) (parts : List (Formula Test)) :
    Plan.formulaScripts paths parts = parts.map (Plan.formulaScript paths false) := by
  induction parts with
  | nil => rw [Plan.formulaScripts, List.map_nil]
  | cons part rest ih => rw [Plan.formulaScripts, List.map_cons, ih]

theorem yields_test (paths : List String) {test : Test} (h : GoodTest test) :
    Yields (Plan.testScript paths test).toList (testTokens paths test) := by
  obtain ⟨hnumeral, bound, hbound⟩ := h
  have hparameter := yields_parameter (isWordChar_parameterName (paths.idxOf test.path))
  have hnumber := (yields_number hnumeral hbound).blank
  have hsides := (yields_comparison test.op).append hnumber (fun rest _ => endsPiece_blank _)
  have hwhole := hparameter.append hsides.blank (fun rest _ => endsPiece_blank _)
  rw [testTokens, hbound]
  simpa [Plan.testScript, parameterMark, ToString.toString] using hwhole

theorem yields_enclose (outermost : Bool) {text : String} {found : List Token}
    (h : Yields text.toList found) :
    Yields (Plan.enclose outermost text).toList (encloseTokens outermost found) := by
  cases outermost with
  | true => exact h
  | false => simpa [Plan.enclose, encloseTokens, ToString.toString] using h.parenthesized

theorem forall₂_yields_parts (paths : List String) {parts : List (Formula Test)}
    (h : forall part, part ∈ parts ->
      Yields (Plan.formulaScript paths false part).toList (formulaTokens paths false part)) :
    List.Forall₂ Yields ((Plan.formulaScripts paths parts).map String.toList)
      (partsTokens paths parts) := by
  rw [formulaScripts_eq_map, partsTokens_eq_map, List.map_map, List.forall₂_map_left_iff,
    List.forall₂_map_right_iff, List.forall₂_same]
  exact h

theorem yields_formula (paths : List String) {formula : Formula Test}
    (h : formula.WellFormed 1 1 GoodTest) (outermost : Bool) :
    Yields (Plan.formulaScript paths outermost formula).toList
      (formulaTokens paths outermost formula) := by
  induction h generalizing outermost with
  | @all parts size inner ih =>
      have hne : (Plan.formulaScripts paths parts).map String.toList ≠ [] := by
        rw [formulaScripts_eq_map, List.map_map, ne_eq, List.map_eq_nil_iff]
        exact List.ne_nil_of_length_pos size
      have hparts := forall₂_yields_parts paths (fun part hpart => ih part hpart false)
      rw [Plan.formulaScript, formulaTokens]
      refine yields_enclose outermost ?_
      rw [String.toList_intercalate]
      exact yields_intercalate (c := '&') rfl (fun _ => rfl) hne hparts
  | @any parts size inner ih =>
      have hne : (Plan.formulaScripts paths parts).map String.toList ≠ [] := by
        rw [formulaScripts_eq_map, List.map_map, ne_eq, List.map_eq_nil_iff]
        exact List.ne_nil_of_length_pos size
      have hparts := forall₂_yields_parts paths (fun part hpart => ih part hpart false)
      rw [Plan.formulaScript, formulaTokens]
      refine yields_enclose outermost ?_
      rw [String.toList_intercalate]
      exact yields_intercalate (c := '|') rfl (fun _ => rfl) hne hparts
  | @negation part inner ih =>
      have hpart := (ih true).parenthesized.negated
      rw [Plan.formulaScript, formulaTokens]
      simpa [ToString.toString] using hpart
  | leaf here =>
      rw [Plan.formulaScript, formulaTokens]
      exact yields_test paths here

theorem tokens_formulaScript (paths : List String) {formula : Formula Test}
    (h : formula.WellFormed 1 1 GoodTest) :
    tokens (Plan.formulaScript paths true formula) = .ok (formulaTokens paths true formula) := by
  have hyields := yields_formula paths h true [] endsPiece_nil
  rw [List.append_nil] at hyields
  rw [tokens_eq_tokensOf, hyields]
  simp [tokensOf, tokensWithin, Except.map]

end Script
end Rollup
