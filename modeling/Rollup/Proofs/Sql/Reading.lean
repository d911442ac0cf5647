import Rollup.Proofs.Formula
import Rollup.Sql.Parser

/-!
# Parsers and the tokens they take

Where no error is reported a parser goes by the tokens that are left alone. A parser
reads a list of tokens as a value if it takes exactly these tokens wherever one of a class
of continuations follows.
-/

namespace Rollup
namespace Sql

variable {alpha : Type}

namespace Cursor

def tokens (cur : Cursor) : List Token :=
  cur.rest.map Lexeme.token

theorem token?_eq_head? (cur : Cursor) : cur.token? = cur.tokens.head? := by
  rw [token?, tokens, List.head?_map]

theorem second?_eq_head? (cur : Cursor) : cur.second? = cur.tokens.tail.head? := by
  rw [second?, tokens, <- List.map_tail, List.head?_map, List.drop_one]

@[simp] theorem tokens_next (cur : Cursor) : cur.next.tokens = cur.tokens.tail := by
  rw [next]
  split <;> simp [tokens, *]

theorem length_tokens (cur : Cursor) : cur.tokens.length = cur.rest.length :=
  List.length_map _

theorem isAt_eq (cur : Cursor) (token : Token) :
    cur.isAt token = (cur.tokens.head? == some token) := by
  rw [isAt, token?_eq_head?]

theorem isAtKeyword_eq (cur : Cursor) (keyword : String) :
    cur.isAtKeyword keyword = cur.tokens.head?.any (Token.isKeyword keyword) := by
  rw [isAtKeyword, token?_eq_head?]
  cases cur.tokens.head? <;> rfl

theorem expect_eq_ok {cur : Cursor} {token : Token} {rest : List Token}
    (h : cur.tokens = token :: rest) : cur.expect token = .ok cur.next := by
  rw [expect, isAt_eq, h, List.head?_cons, beq_self_eq_true, if_pos rfl]

theorem expectKeyword_eq_ok {cur : Cursor} {keyword word : String} {rest : List Token}
    (h : cur.tokens = .word word :: rest) (hword : Text.eqIgnoreAsciiCase word keyword = true) :
    cur.expectKeyword keyword = .ok cur.next := by
  rw [expectKeyword, isAtKeyword_eq, h]
  exact if_pos hword

end Cursor

/-- The parser takes the tokens as the value wherever an admissible rest follows. -/
def Reads (parser : Parser alpha) (tokens : List Token) (value : alpha)
    (follow : List Token -> Prop) : Prop :=
  forall cur rest, cur.tokens = tokens ++ rest -> follow rest ->
    exists after, parser cur = .ok (value, after) ∧ after.tokens = rest

theorem Reads.mono {parser : Parser alpha} {tokens : List Token} {value : alpha}
    {follow fewer : List Token -> Prop} (h : Reads parser tokens value follow)
    (hfollow : forall rest, fewer rest -> follow rest) : Reads parser tokens value fewer :=
  fun cur rest htokens hrest => h cur rest htokens (hfollow rest hrest)

/-- Nothing, or a token outside the class, comes next. -/
def Without (stop : Token -> Bool) (rest : List Token) : Prop :=
  rest.head?.any stop = false

/-!
# Lists
-/

theorem length_le_length_intercalate {beta : Type} (sep : beta) (xs : List (List beta)) :
    xs.length <= ([sep].intercalate xs).length + 1 := by
  induction xs with
  | nil => simp
  | cons x more ih =>
      cases more with
      | nil => simp
      | cons y rest =>
          rw [List.intercalate_cons_cons]
          simp only [List.length_cons, List.length_append, List.length_nil] at ih ⊢
          omega

section

variable {isSeparator : Cursor -> Bool} (stop : Token -> Bool) {sep : Token}
  {item : Parser alpha} {print : alpha -> List Token}

theorem reads_separatedWithin (hstop : forall cur, isSeparator cur = cur.tokens.head?.any stop)
    (hsep : stop sep = true) {values : List alpha} (hne : values ≠ [])
    {follow : List Token -> Prop}
    (hfollow : forall rest, follow rest -> Without stop rest)
    (hitem : forall value, value ∈ values -> Reads item (print value) value
      (fun rest => follow rest ∨ rest.head? = some sep))
    {rounds : Nat} (hrounds : values.length <= rounds + 1) :
    Reads (separatedWithin isSeparator item rounds) ([sep].intercalate (values.map print)) values
      follow := by
  induction values generalizing rounds with
  | nil => exact absurd rfl hne
  | cons value more ih =>
      intro cur rest htokens hrest
      cases more with
      | nil =>
          rw [List.map_singleton, List.intercalate_singleton] at htokens
          rcases hitem value List.mem_cons_self cur rest htokens (.inl hrest)
            with ⟨after, hvalue, hafter⟩
          refine ⟨after, ?_, hafter⟩
          cases rounds with
          | zero => rw [separatedWithin, hvalue]; rfl
          | succ rounds =>
              have hlast : isSeparator after = false := by
                rw [hstop, hafter]
                exact hfollow rest hrest
              rw [separatedWithin, hvalue]
              show (if isSeparator after then _ else _) = _
              rw [hlast]
              rfl
      | cons second others =>
          rw [List.map_cons, List.map_cons, List.intercalate_cons_cons, <- List.map_cons,
            List.append_assoc, List.append_assoc, List.singleton_append] at htokens
          rcases hitem value List.mem_cons_self cur _ htokens (.inr rfl)
            with ⟨after, hvalue, hafter⟩
          cases rounds with
          | zero => simp at hrounds
          | succ rounds =>
              have hnext : isSeparator after = true := by
                rw [hstop, hafter]
                exact hsep
              have hmore : after.next.tokens
                  = [sep].intercalate ((second :: others).map print) ++ rest := by
                rw [Cursor.tokens_next, hafter, List.tail_cons]
              rcases ih (by simp) (fun value hvalue => hitem value (List.mem_cons_of_mem _ hvalue))
                  (by simpa using hrounds) after.next rest hmore hrest
                with ⟨last, hvalues, hlast⟩
              refine ⟨last, ?_, hlast⟩
              rw [separatedWithin, hvalue]
              show (if isSeparator after then _ else _) = _
              rw [hnext, if_pos rfl, hvalues]
              rfl

theorem reads_separated (hstop : forall cur, isSeparator cur = cur.tokens.head?.any stop)
    (hsep : stop sep = true) {values : List alpha} (hne : values ≠ [])
    {follow : List Token -> Prop}
    (hfollow : forall rest, follow rest -> Without stop rest)
    (hitem : forall value, value ∈ values -> Reads item (print value) value
      (fun rest => follow rest ∨ rest.head? = some sep)) :
    Reads (separated isSeparator item) ([sep].intercalate (values.map print)) values follow := by
  intro cur rest htokens hrest
  have hrounds : values.length <= cur.rest.length + 1 := by
    have hle := length_le_length_intercalate sep (values.map print)
    rw [<- Cursor.length_tokens, htokens, List.length_append]
    rw [List.length_map] at hle
    omega
  exact reads_separatedWithin stop hstop hsep hne hfollow hitem hrounds cur rest htokens hrest

end

theorem reads_commaSeparated {item : Parser alpha} {print : alpha -> List Token}
    {values : List alpha} (hne : values ≠ []) {follow : List Token -> Prop}
    (hfollow : forall rest, follow rest -> rest.head? ≠ some .comma)
    (hitem : forall value, value ∈ values -> Reads item (print value) value
      (fun rest => follow rest ∨ rest.head? = some .comma)) :
    Reads (commaSeparated item) ([Token.comma].intercalate (values.map print)) values follow := by
  refine reads_separated (fun token => token == .comma) ?_ rfl hne ?_ hitem
  · intro cur
    rw [Cursor.isAt_eq]
    cases cur.tokens.head? <;> rfl
  · intro rest hrest
    have hcomma := hfollow rest hrest
    rw [Without]
    cases hhead : rest.head? with
    | none => rfl
    | some token =>
        rw [hhead] at hcomma
        simpa using hcomma

/-!
# Formulas
-/

namespace Formula

def enclosed (outermost : Bool) (inner : List Token) : List Token :=
  if outermost then inner else .leftParen :: inner ++ [.rightParen]

mutual

/-- The tokens of a formula, with parentheses around every junction inside another one or
under a negation. -/
def tokens (leaf : alpha -> List Token) (outermost : Bool) : Formula alpha -> List Token
  | .all parts => enclosed outermost ([Token.word "AND"].intercalate (partsTokens leaf parts))
  | .any parts => enclosed outermost ([Token.word "OR"].intercalate (partsTokens leaf parts))
  | .negation part => .word "NOT" :: tokens leaf false part
  | .leaf value => leaf value

def partsTokens (leaf : alpha -> List Token) : List (Formula alpha) -> List (List Token)
  | [] => []
  | part :: rest => tokens leaf false part :: partsTokens leaf rest

end

mutual

def nesting (outermost : Bool) : Formula alpha -> Nat
  | .all parts => nestingOf parts + if outermost then 0 else 1
  | .any parts => nestingOf parts + if outermost then 0 else 1
  | .negation part => nesting false part + 1
  | .leaf _ => 0

def nestingOf : List (Formula alpha) -> Nat
  | [] => 0
  | part :: rest => max (nesting false part) (nestingOf rest)

end

theorem partsTokens_eq_map (leaf : alpha -> List Token) (parts : List (Formula alpha)) :
    partsTokens leaf parts = parts.map (tokens leaf false) := by
  induction parts with
  | nil => rw [partsTokens, List.map_nil]
  | cons part rest ih => rw [partsTokens, List.map_cons, ih]

theorem nesting_le_nestingOf {part : Formula alpha} {parts : List (Formula alpha)}
    (h : part ∈ parts) : part.nesting false <= nestingOf parts := by
  induction parts with
  | nil => cases h
  | cons first rest ih =>
      rw [nestingOf]
      rcases List.mem_cons.mp h with rfl | hrest
      · exact Nat.le_max_left _ _
      · exact Nat.le_trans (ih hrest) (Nat.le_max_right _ _)

end Formula

section

variable {part : Parser (Formula alpha)} {print : Formula alpha -> List Token}
  {formula : Formula alpha} {tokens : List Token}

theorem joined_of_two_le {join : List (Formula alpha) -> Formula alpha}
    {parts : List (Formula alpha)} (h : 2 <= parts.length) : joined join parts = join parts := by
  match parts, h with
  | _ :: _ :: _, _ => rfl

theorem reads_conjunction {parts : List (Formula alpha)} (hne : parts ≠ [])
    (h : forall formula, formula ∈ parts -> Reads part (print formula) formula (fun _ => True)) :
    Reads (conjunction part) ([Token.word "AND"].intercalate (parts.map print))
      (joined .all parts) (Without (Token.isKeyword "AND")) := by
  intro cur rest htokens hrest
  rcases reads_separated (Token.isKeyword "AND") (fun cur => cur.isAtKeyword_eq "AND") rfl hne
      (fun _ hrest => hrest)
      (fun formula hformula => (h formula hformula).mono (fun _ _ => trivial))
      cur rest htokens hrest
    with ⟨after, hparts, hafter⟩
  refine ⟨after, ?_, hafter⟩
  rw [conjunction, hparts]
  rfl

/-- Neither AND nor OR comes next. -/
def NoJunction (rest : List Token) : Prop :=
  Without (Token.isKeyword "AND") rest ∧ Without (Token.isKeyword "OR") rest

theorem reads_disjunction {parts : List (Formula alpha)} (hne : parts ≠ [])
    (h : forall formula, formula ∈ parts ->
      Reads (conjunction part) (print formula) formula (Without (Token.isKeyword "AND"))) :
    Reads (disjunction part) ([Token.word "OR"].intercalate (parts.map print))
      (joined .any parts) NoJunction := by
  intro cur rest htokens hrest
  have hitem : forall formula, formula ∈ parts -> Reads (conjunction part) (print formula) formula
      (fun rest => NoJunction rest ∨ rest.head? = some (.word "OR")) := by
    intro formula hformula
    refine (h formula hformula).mono ?_
    rintro rest (hrest | hor)
    · exact hrest.left
    · rw [Without, hor]
      rfl
  rcases reads_separated (Token.isKeyword "OR") (fun cur => cur.isAtKeyword_eq "OR") rfl hne
      (fun _ hrest => hrest.right) hitem cur rest htokens hrest
    with ⟨after, hparts, hafter⟩
  refine ⟨after, ?_, hafter⟩
  rw [disjunction, hparts]
  rfl

theorem Reads.onlyConjunct (h : Reads part tokens formula (fun _ => True)) :
    Reads (conjunction part) tokens formula (Without (Token.isKeyword "AND")) := by
  have hone : Reads (conjunction part)
      ([Token.word "AND"].intercalate ([formula].map (fun _ => tokens)))
      (joined .all [formula]) (Without (Token.isKeyword "AND")) :=
    reads_conjunction (by simp) (by simpa using h)
  simpa [joined] using hone

theorem Reads.onlyDisjunct
    (h : Reads (conjunction part) tokens formula (Without (Token.isKeyword "AND"))) :
    Reads (disjunction part) tokens formula NoJunction := by
  have hone : Reads (disjunction part)
      ([Token.word "OR"].intercalate ([formula].map (fun _ => tokens)))
      (joined .any [formula]) NoJunction :=
    reads_disjunction (by simp) (by simpa using h)
  simpa [joined] using hone

end

section

variable {leaf : Parser alpha} {levels : Nat} {formula : Formula alpha} {tokens : List Token}

theorem Reads.negation
    (h : Reads (formulaPart leaf levels) tokens formula (fun _ => True)) :
    Reads (formulaPart leaf (levels + 1)) (.word "NOT" :: tokens) (.negation formula)
      (fun _ => True) := by
  intro cur rest htokens _
  have hat : cur.isAtKeyword "NOT" = true := by
    rw [Cursor.isAtKeyword_eq, htokens]
    rfl
  rcases h cur.next rest (by rw [Cursor.tokens_next, htokens]; rfl) trivial
    with ⟨after, hpart, hafter⟩
  refine ⟨after, ?_, hafter⟩
  rw [formulaPart, if_pos hat]
  show (formulaPart leaf levels cur.next >>= _) = _
  rw [hpart]
  rfl

theorem Reads.parenthesized
    (h : Reads (disjunction (formulaPart leaf levels)) tokens formula NoJunction) :
    Reads (formulaPart leaf (levels + 1)) (.leftParen :: tokens ++ [.rightParen]) formula
      (fun _ => True) := by
  intro cur rest htokens _
  rw [List.append_assoc, List.cons_append] at htokens
  have hkeyword : cur.isAtKeyword "NOT" = false := by
    rw [Cursor.isAtKeyword_eq, htokens]
    rfl
  have hat : cur.isAt .leftParen = true := by
    rw [Cursor.isAt_eq, htokens]
    rfl
  rcases h cur.next (.rightParen :: rest) (by rw [Cursor.tokens_next, htokens]; rfl) ⟨rfl, rfl⟩
    with ⟨after, hpart, hafter⟩
  refine ⟨after.next, ?_, by rw [Cursor.tokens_next, hafter]; rfl⟩
  rw [formulaPart, hkeyword, hat]
  show (disjunction (formulaPart leaf levels) cur.next >>= _) = _
  rw [hpart]
  show (after.expect .rightParen >>= _) = _
  rw [Cursor.expect_eq_ok hafter]
  rfl

theorem Reads.formulaLeaf {value : alpha} (h : Reads leaf tokens value (fun _ => True))
    (hne : tokens ≠ [])
    (hhead : Without (fun token => token.isKeyword "NOT" || token == .leftParen) tokens) :
    Reads (formulaPart leaf levels) tokens (.leaf value) (fun _ => True) := by
  intro cur rest htokens _
  rcases List.exists_cons_of_ne_nil hne with ⟨token, more, rfl⟩
  have hstart : token.isKeyword "NOT" = false ∧ (token == Token.leftParen) = false := by
    simpa [Without] using hhead
  have hkeyword : cur.isAtKeyword "NOT" = false := by
    rw [Cursor.isAtKeyword_eq, htokens]
    exact hstart.left
  have hat : cur.isAt .leftParen = false := by
    rw [Cursor.isAt_eq, htokens]
    exact hstart.right
  rcases h cur rest htokens trivial with ⟨after, hvalue, hafter⟩
  refine ⟨after, ?_, hafter⟩
  cases levels with
  | zero =>
      rw [formulaPart, hkeyword, hat]
      show (leaf cur >>= _) = _
      rw [hvalue]
      rfl
  | succ levels =>
      rw [formulaPart, hkeyword, hat]
      show (leaf cur >>= _) = _
      rw [hvalue]
      rfl

/-- A junction stands bare outermost and in parentheses anywhere else. -/
theorem reads_enclosed {depth : Nat}
    (h : forall levels, depth <= levels ->
      Reads (disjunction (formulaPart leaf levels)) tokens formula NoJunction) :
    (forall levels, depth + 1 <= levels ->
      Reads (formulaPart leaf levels) (Formula.enclosed false tokens) formula (fun _ => True))
    ∧ (forall levels, depth + 0 <= levels ->
      Reads (disjunction (formulaPart leaf levels)) (Formula.enclosed true tokens) formula
        NoJunction) := by
  refine ⟨?_, h⟩
  intro levels hlevels
  cases levels with
  | zero => cases hlevels
  | succ levels => exact (h levels (Nat.le_of_succ_le_succ hlevels)).parenthesized

theorem Reads.whole (h : Reads (formulaPart leaf levels) tokens formula (fun _ => True)) :
    Reads (disjunction (formulaPart leaf levels)) tokens formula NoJunction :=
  h.onlyConjunct.onlyDisjunct

end

theorem reads_formula_tokens {leaf : Parser alpha} {print : alpha -> List Token}
    {good : alpha -> Prop} (hleaf : forall value, good value -> forall levels,
      Reads (formulaPart leaf levels) (print value) (.leaf value) (fun _ => True))
    {formula : Formula alpha} (h : formula.WellFormed 2 2 good) :
    (forall levels, formula.nesting false <= levels ->
      Reads (formulaPart leaf levels) (formula.tokens print false) formula (fun _ => True))
    ∧ (forall levels, formula.nesting true <= levels ->
      Reads (disjunction (formulaPart leaf levels)) (formula.tokens print true) formula
        NoJunction) := by
  induction h with
  | @all parts size inner ih =>
      simp only [Formula.tokens, Formula.nesting, Formula.partsTokens_eq_map]
      refine reads_enclosed ?_
      intro levels hlevels
      have hjoined : joined .all parts = .all parts := joined_of_two_le size
      rw [<- hjoined]
      refine (reads_conjunction (List.ne_nil_of_length_pos (by omega)) ?_).onlyDisjunct
      intro part hpart
      exact (ih part hpart).left levels
        (Nat.le_trans (Formula.nesting_le_nestingOf hpart) hlevels)
  | @any parts size inner ih =>
      simp only [Formula.tokens, Formula.nesting, Formula.partsTokens_eq_map]
      refine reads_enclosed ?_
      intro levels hlevels
      have hjoined : joined .any parts = .any parts := joined_of_two_le size
      rw [<- hjoined]
      refine reads_disjunction (List.ne_nil_of_length_pos (by omega)) ?_
      intro part hpart
      have hread := (ih part hpart).left levels
        (Nat.le_trans (Formula.nesting_le_nestingOf hpart) hlevels)
      exact hread.onlyConjunct
  | @negation part inner ih =>
      simp only [Formula.tokens, Formula.nesting]
      have hpart : forall levels, part.nesting false + 1 <= levels ->
          Reads (formulaPart leaf levels) (.word "NOT" :: part.tokens print false)
            (.negation part) (fun _ => True) := by
        intro levels hlevels
        cases levels with
        | zero => cases hlevels
        | succ levels => exact (ih.left levels (Nat.le_of_succ_le_succ hlevels)).negation
      exact ⟨hpart, fun levels hlevels => (hpart levels hlevels).whole⟩
  | @leaf value here =>
      simp only [Formula.tokens]
      exact ⟨fun levels _ => hleaf value here levels,
        fun levels _ => (hleaf value here levels).whole⟩

end Sql
end Rollup
