import Rollup.Proofs.Sql.Lexing
import Rollup.Proofs.Sql.Movement

/-!
# Places of errors

Main statement: a text that cannot be parsed is blank, or cannot be cut into lexemes, or is
reported at one of its lexemes or at its end. In each case the position lies in the text,
between two of its characters.
-/

namespace Rollup
namespace Sql

/-- The positions at which the errors of a text are reported. -/
inductive IsErrorPlace (text : String) : Nat -> Prop
  | blank (h : forall c, c ∈ text.toList -> Text.isBlank c = true) : IsErrorPlace text 0
  | stop {position : Nat} {before : List Char} {c : Char} {after : List Char}
      (h : IsStop text position before c after) : IsErrorPlace text position
  | lexeme {found : List Lexeme} {lexeme : Lexeme} (hfound : lexemes text = .ok found)
      (h : lexeme ∈ found) : IsErrorPlace text lexeme.start
  | finish {found : List Lexeme} (hfound : lexemes text = .ok found) :
      IsErrorPlace text text.utf8ByteSize

theorem isBlank_of_trimChars {cs : List Char} (h : Text.trimChars cs = []) :
    forall c, c ∈ cs -> Text.isBlank c = true := by
  have hlater : forall c, c ∈ cs.dropWhile Text.isBlank -> Text.isBlank c = true := by
    intro c hc
    have hend := List.dropWhile_eq_nil_iff.mp (List.reverse_eq_nil_iff.mp h)
    exact hend c (List.mem_reverse.mpr hc)
  intro c hc
  rw [<- @List.takeWhile_append_dropWhile _ Text.isBlank cs, List.mem_append] at hc
  rcases hc with hstart | hrest
  · exact List.mem_takeWhile_imp hstart
  · exact hlater c hrest

theorem isErrorPlace_of_parse {text : String} {e : SyntaxError} (h : parse text = .error e) :
    IsErrorPlace text e.position := by
  unfold parse at h
  split at h
  · rename_i hblank
    cases h
    exact .blank (isBlank_of_trimChars (beq_iff_eq.mp hblank))
  · rcases bind_eq_error_iff.mp h with hlexemes | ⟨found, hfound, hstatement⟩
    · rcases exists_isStop hlexemes with ⟨before, c, after, hstop⟩
      exact .stop hstop
    · rcases failsAt_statement _ e hstatement with hfinish | ⟨lexeme, hlexeme, hstart⟩
      · rw [hfinish]
        exact .finish hfound
      · rw [hstart]
        rcases hlexeme with hahead | hbefore
        · exact .lexeme hfound hahead
        · cases hbefore

/-!
# Boundaries of characters
-/

theorem isValid_of_toList {text : String} {before after : List Char}
    (h : text.toList = before ++ after) :
    String.Pos.Raw.IsValid text ⟨(String.ofList before).utf8ByteSize⟩ := by
  refine String.Pos.Raw.isValid_iff_exists_append.mpr
    ⟨String.ofList before, String.ofList after, ?_, rfl⟩
  rw [<- String.ofList_append, <- h, String.ofList_toList]

theorem isValid_start {text : String} {found : List Lexeme} (hfound : lexemes text = .ok found)
    {lexeme : Lexeme} (h : lexeme ∈ found) : String.Pos.Raw.IsValid text ⟨lexeme.start⟩ := by
  rcases exists_isCut hfound with ⟨lead, pieces, hcut, rfl⟩
  rcases List.mem_map.mp h with ⟨piece, hpiece, rfl⟩
  rcases List.append_of_mem hpiece with ⟨before, after, hpieces⟩
  rw [hcut.start_eq before piece after hpieces, Nat.zero_add]
  apply isValid_of_toList
  rw [hcut.text_eq, hpieces, List.flatMap_append, List.append_assoc]

theorem IsErrorPlace.isValid {text : String} {position : Nat} (h : IsErrorPlace text position) :
    String.Pos.Raw.IsValid text ⟨position⟩ := by
  cases h with
  | blank => exact isValid_of_toList (List.nil_append _).symm
  | stop hstop =>
      rw [hstop.position_eq]
      exact isValid_of_toList hstop.text_eq
  | lexeme hfound hlexeme => exact isValid_start hfound hlexeme
  | finish =>
      have hall := isValid_of_toList (List.append_nil text.toList).symm
      rwa [String.ofList_toList] at hall

/-- Errors of a text that cannot be parsed point into it. -/
theorem position_of_parse_error {text : String} {e : SyntaxError} (h : parse text = .error e) :
    IsErrorPlace text e.position ∧ e.position <= text.utf8ByteSize
      ∧ String.Pos.Raw.IsValid text ⟨e.position⟩ := by
  have hplace := isErrorPlace_of_parse h
  exact ⟨hplace, hplace.isValid.le_rawEndPos, hplace.isValid⟩

theorem position_of_parse_error_missingAlias :
    parse "SELECT `é` AS" = .error ⟨12, .expectedAlias⟩
      ∧ IsErrorPlace "SELECT `é` AS" 12 ∧ 12 <= "SELECT `é` AS".utf8ByteSize
      ∧ String.Pos.Raw.IsValid "SELECT `é` AS" ⟨12⟩ := by
  have hblank : ¬ (Text.trimChars "SELECT `é` AS".toList == []) = true := by decide
  have hlexemes : lexemes "SELECT `é` AS"
      = .ok [⟨.word "SELECT", 0⟩, ⟨.quotedName "é", 7⟩, ⟨.word "AS", 12⟩] := by
    decide +kernel
  have hparse : parse "SELECT `é` AS" = .error ⟨12, .expectedAlias⟩ := by
    rw [parse, if_neg hblank, hlexemes]
    rfl
  exact ⟨hparse, position_of_parse_error hparse⟩

end Sql
end Rollup
