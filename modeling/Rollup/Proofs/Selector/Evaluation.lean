import Rollup.Proofs.Selector.Tokens
import Rollup.Script.Evaluation

/-!
# The value of a selector script

Evaluating the tokens of a formula gives the truth value of the formula, for every
assignment of numbers to the paths that its tests name. A test whose path has no number
does not hold.
-/

namespace Rollup
namespace Script

open Plan (Test)
open Sql (Formula)

/-!
# Chains of parts

Conjunctions and disjunctions are read by the same loop: a first part, and then further
parts as long as the sign between parts stands in front.
-/

section Chains

variable {joint : Token} {join : Bool -> Bool -> Bool}
variable {part : List Token -> Except Fault (Bool × List Token)}

def chain (joint : Token) (join : Bool -> Bool -> Bool)
    (part : List Token -> Except Fault (Bool × List Token)) (input : List Token) :
    Except Fault (Bool × List Token) := do
  let (value, rest) <- part input
  joined joint join part rest.length value rest

theorem conjunction_eq_chain : conjunction part = chain .both (fun a b => a && b) part :=
  rfl

theorem disjunction_eq_chain :
    disjunction part = chain .either (fun a b => a || b) (conjunction part) :=
  rfl

/-- The tokens are read as one part of this value, if what follows is clear of them. -/
def ReadsAs (clear : List Token -> Prop) (part : List Token -> Except Fault (Bool × List Token))
    (item : List Token × Bool) : Prop :=
  forall more, clear more -> part (item.1 ++ more) = .ok (item.2, more)

theorem joined_stops {rest : List Token} (hstop : rest.head? ≠ some joint) (rounds : Nat)
    (value : Bool) : joined joint join part rounds value rest = .ok (value, rest) := by
  cases rounds with
  | zero => rw [joined.eq_def]
  | succ rounds =>
      cases rest with
      | nil => rw [joined.eq_def]
      | cons token rest =>
          have hne : token ≠ joint := fun h => hstop (by rw [h]; rfl)
          rw [joined, if_neg hne]

theorem joined_parts {clear : List Token -> Prop} {rest : List Token}
    (hjoint : forall more, clear (joint :: more)) (hclear : clear rest)
    (hstop : rest.head? ≠ some joint) {items : List (List Token × Bool)}
    (hitems : forall item, item ∈ items -> ReadsAs clear part item) {rounds : Nat}
    (hrounds : items.length <= rounds) (value : Bool) :
    joined joint join part rounds value (items.flatMap (fun item => joint :: item.1) ++ rest)
      = .ok (items.foldl (fun found item => join found item.2) value, rest) := by
  induction items generalizing rounds value with
  | nil => exact joined_stops hstop rounds value
  | cons item items ih =>
      obtain ⟨rounds, rfl⟩ : exists n, rounds = n + 1 :=
        ⟨rounds - 1, by rw [List.length_cons] at hrounds; omega⟩
      have hfollow : clear (items.flatMap (fun item => joint :: item.1) ++ rest) := by
        cases items with
        | nil => exact hclear
        | cons next items => exact hjoint _
      have hitem := hitems item List.mem_cons_self _ hfollow
      rw [List.flatMap_cons, List.cons_append, List.cons_append, List.append_assoc, joined,
        if_pos rfl, hitem, ok_bind, List.foldl_cons]
      exact ih (fun other hother => hitems other (List.mem_cons_of_mem item hother))
        (Nat.le_of_succ_le_succ hrounds) (join value item.2)

theorem intercalate_cons (first : List Token) (others : List (List Token)) :
    [joint].intercalate (first :: others)
      = first ++ others.flatMap (fun other => joint :: other) := by
  induction others generalizing first with
  | nil => simp [List.intercalate]
  | cons second others ih =>
      have hcons : [joint].intercalate (first :: second :: others)
          = first ++ joint :: [joint].intercalate (second :: others) := by
        simp [List.intercalate]
      rw [hcons, ih second, List.flatMap_cons, List.cons_append]

theorem length_le_length_flatMap (joint : Token) (others : List (List Token)) (rest : List Token) :
    others.length <= (others.flatMap (fun other => joint :: other) ++ rest).length := by
  induction others with
  | nil => exact Nat.zero_le _
  | cons other others ih =>
      simp only [List.flatMap_cons, List.length_append, List.length_cons] at ih ⊢
      omega

theorem chain_parts (join : Bool -> Bool -> Bool) {clear : List Token -> Prop}
    {rest : List Token} (hjoint : forall more, clear (joint :: more)) (hclear : clear rest)
    (hstop : rest.head? ≠ some joint) {first : List Token × Bool}
    {others : List (List Token × Bool)}
    (hitems : forall item, item ∈ first :: others -> ReadsAs clear part item) :
    chain joint join part ([joint].intercalate ((first :: others).map Prod.fst) ++ rest)
      = .ok (others.foldl (fun found item => join found item.2) first.2, rest) := by
  have hfollow : clear (others.flatMap (fun item => joint :: item.1) ++ rest) := by
    cases others with
    | nil => exact hclear
    | cons next others => exact hjoint _
  have hfirst := hitems first List.mem_cons_self _ hfollow
  have hlength := length_le_length_flatMap joint (others.map Prod.fst) rest
  rw [List.length_map, List.flatMap_map] at hlength
  rw [List.map_cons, intercalate_cons, List.append_assoc, List.flatMap_map, chain]
  rw [hfirst, ok_bind]
  exact joined_parts hjoint hclear hstop
    (fun item hitem => hitems item (List.mem_cons_of_mem first hitem)) hlength first.2

end Chains

/-!
# Tests
-/

def testHolds (value : String -> Option Float) (test : Test) : Bool :=
  match value test.path, Number.readFloat? test.number with
  | some x, some bound => compareBy test.op x bound
  | _, _ => false

def Binds (parameters : Parameters) (paths : List String) (value : String -> Option Float) : Prop :=
  forall path, path ∈ paths ->
    parameters.lookup (Plan.parameterName (paths.idxOf path)) = some (value path)

def NumberedTest (paths : List String) (test : Test) : Prop :=
  GoodTest test ∧ test.path ∈ paths

section Formulas

variable {parameters : Parameters} {paths : List String} {value : String -> Option Float}

theorem comparison_test (hbinds : Binds parameters paths value) {test : Test}
    (htest : NumberedTest paths test) (rest : List Token) :
    comparison parameters (testTokens paths test ++ rest) = .ok (testHolds value test, rest) := by
  obtain ⟨⟨_, bound, hbound⟩, hpath⟩ := htest
  have hlookup := hbinds test.path hpath
  have hleft : operand parameters (testTokens paths test ++ rest)
      = .ok (value test.path, .comparison test.op :: .number bound :: rest) := by
    simp [testTokens, operand, hlookup, hbound]
  rw [comparison, hleft, testHolds, hbound]
  cases value test.path <;> rfl

theorem part_test (hbinds : Binds parameters paths value) {test : Test}
    (htest : NumberedTest paths test) (depth : Nat) (rest : List Token) :
    part parameters depth (testTokens paths test ++ rest) = .ok (testHolds value test, rest) := by
  have hpart : part parameters depth (testTokens paths test ++ rest)
      = comparison parameters (testTokens paths test ++ rest) := by
    cases depth <;> rfl
  rw [hpart, comparison_test hbinds htest]

/-!
# Formulas

The induction carries two statements. Inside a junction a formula is read as one part, and
between parentheses or on its own it is read as a disjunction. The number of tokens is
depth enough.
-/

/-- No sign that continues a junction stands in front. -/
def Closed (rest : List Token) : Prop :=
  rest.head? ≠ some .both ∧ rest.head? ≠ some .either

theorem closed_nil : Closed [] :=
  ⟨by simp, by simp⟩

theorem closed_rightParen (rest : List Token) : Closed (.rightParen :: rest) :=
  ⟨by simp, by simp⟩

theorem disjunction_of_conjunction {part : List Token -> Except Fault (Bool × List Token)}
    {input rest : List Token} {found : Bool} (hstop : rest.head? ≠ some .either)
    (h : conjunction part input = .ok (found, rest)) :
    disjunction part input = .ok (found, rest) := by
  rw [disjunction_eq_chain, chain, h, ok_bind]
  exact joined_stops hstop rest.length found

theorem conjunction_of_part {part : List Token -> Except Fault (Bool × List Token)}
    {input rest : List Token} {found : Bool} (hstop : rest.head? ≠ some .both)
    (h : part input = .ok (found, rest)) : conjunction part input = .ok (found, rest) := by
  rw [conjunction_eq_chain, chain, h, ok_bind]
  exact joined_stops hstop rest.length found

theorem foldl_and (items : List (List Token × Bool)) (first : Bool) :
    items.foldl (fun found item => found && item.2) first
      = (first && items.all (fun item => item.2)) := by
  induction items generalizing first with
  | nil => simp
  | cons item items ih => rw [List.foldl_cons, ih, List.all_cons, Bool.and_assoc]

theorem foldl_or (items : List (List Token × Bool)) (first : Bool) :
    items.foldl (fun found item => found || item.2) first
      = (first || items.any (fun item => item.2)) := by
  induction items generalizing first with
  | nil => simp
  | cons item items ih => rw [List.foldl_cons, ih, List.any_cons, Bool.or_assoc]

def partItem (paths : List String) (value : String -> Option Float) (part : Formula Test) :
    List Token × Bool :=
  (formulaTokens paths false part, part.holds (testHolds value))

theorem conjunction_parts {part : List Token -> Except Fault (Bool × List Token)}
    {parts : List (Formula Test)} (hne : parts ≠ []) {rest : List Token}
    (hstop : rest.head? ≠ some .both)
    (hparts : forall inner, inner ∈ parts ->
      ReadsAs (fun _ => True) part (partItem paths value inner)) :
    conjunction part ([Token.both].intercalate (partsTokens paths parts) ++ rest)
      = .ok (Formula.holds (testHolds value) (.all parts), rest) := by
  obtain ⟨first, others, rfl⟩ := List.exists_cons_of_ne_nil hne
  have hitems : forall item,
      item ∈ partItem paths value first :: others.map (partItem paths value) ->
      ReadsAs (fun _ => True) part item := by
    intro item hitem
    rw [← List.map_cons, List.mem_map] at hitem
    rcases hitem with ⟨inner, hinner, rfl⟩
    exact hparts inner hinner
  have hchain := chain_parts (fun a b => a && b) (fun _ => trivial) trivial hstop hitems
  rw [← List.map_cons, List.map_map, foldl_and, List.all_map] at hchain
  rw [conjunction_eq_chain, partsTokens_eq_map, Formula.holds_all, List.all_cons]
  exact hchain

theorem disjunction_parts {part : List Token -> Except Fault (Bool × List Token)}
    {parts : List (Formula Test)} (hne : parts ≠ []) {rest : List Token}
    (hclosed : Closed rest)
    (hparts : forall inner, inner ∈ parts ->
      ReadsAs (fun _ => True) part (partItem paths value inner)) :
    disjunction part ([Token.either].intercalate (partsTokens paths parts) ++ rest)
      = .ok (Formula.holds (testHolds value) (.any parts), rest) := by
  obtain ⟨first, others, rfl⟩ := List.exists_cons_of_ne_nil hne
  have hitems : forall item,
      item ∈ partItem paths value first :: others.map (partItem paths value) ->
      ReadsAs (fun more => more.head? ≠ some .both) (conjunction part) item := by
    intro item hitem more hmore
    rw [← List.map_cons, List.mem_map] at hitem
    rcases hitem with ⟨inner, hinner, rfl⟩
    exact conjunction_of_part hmore (hparts inner hinner more trivial)
  have hjoint : forall more : List Token, (.either :: more).head? ≠ some .both := by
    intro more h
    cases h
  have hchain := chain_parts (fun a b => a || b) hjoint hclosed.left hclosed.right hitems
  rw [← List.map_cons, List.map_map, foldl_or, List.any_map] at hchain
  rw [disjunction_eq_chain, partsTokens_eq_map, Formula.holds_any, List.any_cons]
  exact hchain

theorem length_le_intercalate {joint : Token} {pieces : List (List Token)} {piece : List Token}
    (h : piece ∈ pieces) : piece.length <= ([joint].intercalate pieces).length := by
  cases pieces with
  | nil => cases h
  | cons first others =>
      rw [intercalate_cons, List.length_append]
      rcases List.mem_cons.mp h with rfl | hother
      · exact Nat.le_add_right _ _
      · have hmem : piece.Sublist (others.flatMap (fun other => joint :: other)) :=
          (List.sublist_cons_self joint piece).trans
            (List.sublist_flatten_of_mem (List.mem_map.mpr ⟨piece, hother, rfl⟩))
        have := hmem.length_le
        omega

theorem part_parenthesized {depth : Nat} {inner rest : List Token} {found : Bool}
    (h : disjunction (part parameters depth) (inner ++ .rightParen :: rest)
      = .ok (found, .rightParen :: rest)) :
    part parameters (depth + 1) ((.leftParen :: inner ++ [.rightParen]) ++ rest)
      = .ok (found, rest) := by
  rw [List.append_assoc, List.cons_append, List.singleton_append, part, h]
  rfl

/-- A formula is read as a part with parentheses around it, or as it stands. -/
def ReadAtDepths (parameters : Parameters) (paths : List String)
    (value : String -> Option Float) (formula : Formula Test) : Prop :=
  (forall depth rest, (formulaTokens paths false formula).length <= depth ->
    part parameters depth (formulaTokens paths false formula ++ rest)
      = .ok (formula.holds (testHolds value), rest)) ∧
  (forall depth rest, (formulaTokens paths true formula).length <= depth -> Closed rest ->
    disjunction (part parameters depth) (formulaTokens paths true formula ++ rest)
      = .ok (formula.holds (testHolds value), rest))

theorem readAtDepths_of_junction {formula : Formula Test} (inner : List Token)
    (htokens : forall outermost, formulaTokens paths outermost formula
      = encloseTokens outermost inner)
    (hinner : forall depth rest, inner.length <= depth -> Closed rest ->
      disjunction (part parameters depth) (inner ++ rest)
        = .ok (formula.holds (testHolds value), rest)) :
    ReadAtDepths parameters paths value formula := by
  constructor
  · intro depth rest hdepth
    rw [htokens] at hdepth ⊢
    simp only [encloseTokens, Bool.false_eq_true, if_false, List.length_append, List.length_cons,
      List.length_nil] at hdepth ⊢
    obtain ⟨depth, rfl⟩ : exists n, depth = n + 1 := ⟨depth - 1, by omega⟩
    exact part_parenthesized (hinner depth _ (by omega) (closed_rightParen rest))
  · intro depth rest hdepth hclosed
    rw [htokens] at hdepth ⊢
    exact hinner depth rest hdepth hclosed

theorem readAtDepths_of_part {formula : Formula Test}
    (htokens : formulaTokens paths true formula = formulaTokens paths false formula)
    (hpart : forall depth rest, (formulaTokens paths false formula).length <= depth ->
      part parameters depth (formulaTokens paths false formula ++ rest)
        = .ok (formula.holds (testHolds value), rest)) :
    ReadAtDepths parameters paths value formula := by
  refine ⟨hpart, ?_⟩
  intro depth rest hdepth hclosed
  rw [htokens] at hdepth ⊢
  exact disjunction_of_conjunction hclosed.right
    (conjunction_of_part hclosed.left (hpart depth rest hdepth))

theorem readsAs_part {joint : Token} {parts : List (Formula Test)} {depth : Nat}
    (hparts : forall inner, inner ∈ parts -> ReadAtDepths parameters paths value inner)
    (hdepth : ([joint].intercalate (partsTokens paths parts)).length <= depth) :
    forall inner, inner ∈ parts ->
      ReadsAs (fun _ => True) (part parameters depth) (partItem paths value inner) := by
  intro inner hinner more _
  have hmem : formulaTokens paths false inner ∈ partsTokens paths parts := by
    rw [partsTokens_eq_map]
    exact List.mem_map.mpr ⟨inner, hinner, rfl⟩
  exact (hparts inner hinner).left depth more
    (Nat.le_trans (length_le_intercalate hmem) hdepth)

theorem readAtDepths_formula (hbinds : Binds parameters paths value) {formula : Formula Test}
    (h : formula.WellFormed 1 1 (NumberedTest paths)) :
    ReadAtDepths parameters paths value formula := by
  induction h with
  | @all parts size inner ih =>
      refine readAtDepths_of_junction ([Token.both].intercalate (partsTokens paths parts))
        (fun _ => by rw [formulaTokens]) ?_
      intro depth rest hdepth hclosed
      exact disjunction_of_conjunction hclosed.right
        (conjunction_parts (List.ne_nil_of_length_pos size) hclosed.left
          (readsAs_part ih hdepth))
  | @any parts size inner ih =>
      refine readAtDepths_of_junction ([Token.either].intercalate (partsTokens paths parts))
        (fun _ => by rw [formulaTokens]) ?_
      intro depth rest hdepth hclosed
      exact disjunction_parts (List.ne_nil_of_length_pos size) hclosed (readsAs_part ih hdepth)
  | @negation inner _ ih =>
      refine readAtDepths_of_part (by rw [formulaTokens, formulaTokens]) ?_
      intro depth rest hdepth
      rw [formulaTokens] at hdepth ⊢
      simp only [List.length_append, List.length_cons, List.length_nil,
        List.cons_append] at hdepth ⊢
      -- A negation takes one step for its sign and one for the parenthesis behind it.
      obtain ⟨depth, rfl⟩ : exists n, depth = n + 2 := ⟨depth - 2, by omega⟩
      have hinner := part_parenthesized
        (ih.right depth (.rightParen :: rest) (by omega) (closed_rightParen rest))
      rw [part]
      rw [List.cons_append, List.cons_append] at hinner
      rw [hinner, ok_bind, Formula.holds_negation]
      rfl
  | leaf here =>
      refine readAtDepths_of_part (by rw [formulaTokens, formulaTokens]) ?_
      intro depth rest _
      rw [formulaTokens, Formula.holds_leaf]
      exact part_test hbinds here depth rest

theorem evaluate_formulaScript (hbinds : Binds parameters paths value) {formula : Formula Test}
    (h : formula.WellFormed 1 1 (NumberedTest paths)) :
    evaluate (Plan.formulaScript paths true formula) parameters
      = .ok (formula.holds (testHolds value)) := by
  have hgood : formula.WellFormed 1 1 GoodTest :=
    h.mono (Nat.le_refl 1) (Nat.le_refl 1) (fun _ htest => htest.left)
  have hread := (readAtDepths_formula hbinds h).right _ [] (Nat.le_refl _) closed_nil
  rw [List.append_nil] at hread
  rw [evaluate, tokens_formulaScript paths hgood, ok_bind, hread, ok_bind]
  exact if_pos rfl

end Formulas

end Script
end Rollup
