import Rollup.Proofs.Sql.Movement
import Rollup.Proofs.Sql.Nesting

/-!
# Progress of the parsers

The parsers of the grammar are listed with the number of lexemes each takes at least.
Every item of a list takes one or more, so the rounds that the lists are given are never
used up, and a parser ends at a place of the lexemes that it was given.
-/

namespace Rollup
namespace Sql

variable {alpha : Type}

namespace Cursor

/-- The cursor stands behind the first `index` lexemes. -/
structure IsOn (tokens : List Lexeme) (index : Nat) (cur : Cursor) : Prop where
  index_le : index <= tokens.length
  rest_eq : cur.rest = tokens.drop index
  previous_eq : cur.previous = (tokens.take index).getLast?

variable {tokens : List Lexeme} {index : Nat} {cur after : Cursor}

theorem isOn_start (tokens : List Lexeme) (finish : Nat) :
    IsOn tokens 0 { previous := none, rest := tokens, finish := finish } :=
  ⟨Nat.zero_le _, rfl, rfl⟩

theorem IsOn.passes {least : Nat} (h : cur.IsOn tokens index) (hpasses : cur.Passes least after) :
    exists last, index + least <= last ∧ after.IsOn tokens last := by
  rcases hpasses with ⟨taken, hleast, hrest, hprevious, _⟩
  have hdrop : tokens.drop index = taken ++ after.rest := h.rest_eq.symm.trans hrest
  have hlength := congrArg List.length hdrop
  rw [List.length_drop, List.length_append] at hlength
  have hindex := h.index_le
  refine ⟨index + taken.length, by omega, by omega, ?_, ?_⟩
  · rw [<- List.drop_drop, hdrop, List.drop_left]
  · rw [List.take_add, hdrop, List.take_left, List.getLast?_append, hprevious, h.previous_eq]

theorem IsOn.next (h : cur.IsOn tokens index) :
    cur.next.IsOn tokens (min (index + 1) tokens.length) := by
  rcases Nat.lt_or_ge index tokens.length with hinside | hend
  · rw [Nat.min_eq_left hinside]
    have hrest := h.rest_eq.trans (List.drop_eq_getElem_cons hinside)
    have hnext : cur.next = { cur with
        previous := some tokens[index], rest := tokens.drop (index + 1) } := by
      unfold Cursor.next
      rw [hrest]
    refine ⟨hinside, ?_, ?_⟩
    · rw [hnext]
    · rw [hnext, List.take_add_one, List.getElem?_eq_getElem hinside, Option.toList_some,
        List.getLast?_concat]
  · have hindex : index = tokens.length := Nat.le_antisymm h.index_le hend
    have hnext : cur.next = cur := by
      unfold Cursor.next
      rw [h.rest_eq, List.drop_of_length_le hend]
    rw [Nat.min_eq_right (Nat.le_succ_of_le hend), hnext, <- hindex]
    exact h

end Cursor

/-!
# The parsers of the grammar
-/

/-- The parsers, with the number of lexemes each takes at least. -/
inductive Takes : {alpha : Type} -> Nat -> Parser alpha -> Prop
  | name : Takes 1 name
  | indexName : Takes 1 indexName
  | literal : Takes 1 literal
  | label : Takes 0 label
  | parameterValue : Takes 1 parameterValue
  | callArgument (call : Call) : Takes 1 (callArgument call)
  | callArguments (rounds : Nat) (call : Call) : Takes 1 (callArguments rounds call)
  | call : Takes 2 call
  | separated (isSeparator : Cursor -> Bool) {alpha : Type} {item : Parser alpha}
      (h : Takes 1 item) : Takes 1 (separated isSeparator item)
  | conjunction {alpha : Type} {part : Parser (Formula alpha)} (h : Takes 1 part) :
      Takes 1 (conjunction part)
  | disjunction {alpha : Type} {part : Parser (Formula alpha)} (h : Takes 1 part) :
      Takes 1 (disjunction part)
  | formulaPart {alpha : Type} {leaf : Parser alpha} (h : Takes 1 leaf) (levels : Nat) :
      Takes 1 (formulaPart leaf levels)
  | rangePredicate (field : String) (negated : Bool) : Takes 0 (rangePredicate field negated)
  | predicate : Takes 1 predicate
  | columnRef : Takes 1 columnRef
  | threshold : Takes 1 threshold
  | selectItem : Takes 1 selectItem
  | source : Takes 1 source
  | groupTerm : Takes 1 groupTerm
  | orderItem : Takes 1 orderItem
  | limit : Takes 1 limit
  | clause (keyword : String) {alpha : Type} {body : Parser alpha} {least : Nat}
      (h : Takes least body) : Takes 0 (clause? keyword body)
  | listBy {alpha : Type} {item : Parser alpha} (h : Takes 1 item) : Takes 2 (listBy item)

theorem Takes.moves {least : Nat} {parser : Parser alpha} (h : Takes least parser) (cur : Cursor) :
    Moves least cur (parser cur) := by
  induction h generalizing cur with
  | name => exact moves_name cur
  | indexName => exact moves_indexName cur
  | literal => exact moves_literal cur
  | label => exact moves_label cur
  | parameterValue => exact moves_parameterValue cur
  | callArgument call => exact moves_callArgument cur call
  | callArguments rounds call => exact moves_callArguments cur rounds call
  | call => exact moves_call cur
  | separated isSeparator _ ih => exact moves_separatedWithin ih _ cur
  | conjunction _ ih => exact moves_conjunction ih cur
  | disjunction _ ih => exact moves_disjunction ih cur
  | formulaPart _ levels ih => exact moves_formulaPart ih levels cur
  | rangePredicate field negated => exact moves_rangePredicate cur field negated
  | predicate => exact moves_predicate cur
  | columnRef => exact moves_columnRef cur
  | threshold => exact moves_threshold cur
  | selectItem => exact moves_selectItem cur
  | source => exact moves_source cur
  | groupTerm => exact moves_groupTerm cur
  | orderItem => exact moves_orderItem cur
  | limit => exact moves_limit cur
  | clause keyword _ ih => exact moves_clause cur ih keyword
  | listBy _ ih => exact moves_listBy cur ih

/-!
# Lists

A separator and the item behind it take two lexemes or more.
-/

/-- The tests by which a list goes on. -/
inductive IsSeparatorTest : (Cursor -> Bool) -> Prop
  | symbol (token : Token) : IsSeparatorTest (fun cur => cur.isAt token)
  | keyword (word : String) : IsSeparatorTest (fun cur => cur.isAtKeyword word)

theorem IsSeparatorTest.passes {isSeparator : Cursor -> Bool} (h : IsSeparatorTest isSeparator)
    {cur : Cursor} (hat : isSeparator cur = true) : cur.Passes 1 cur.next := by
  cases h with
  | symbol token => exact Cursor.passes_next (Cursor.token?_of_isAt hat)
  | keyword word => exact Cursor.passes_keyword hat

theorem Cursor.Passes.length_le {least : Nat} {cur after : Cursor} (h : cur.Passes least after) :
    after.rest.length + least <= cur.rest.length := by
  rcases h with ⟨taken, hleast, hrest, _⟩
  rw [hrest, List.length_append]
  omega

section

variable {isSeparator : Cursor -> Bool} {item : Parser alpha} {cur : Cursor}

theorem separatedWithin_of_error {e : SyntaxError} (h : item cur = .error e) (rounds : Nat) :
    separatedWithin isSeparator item rounds cur = .error e := by
  cases rounds with
  | zero =>
      unfold separatedWithin
      rw [h]
      rfl
  | succ rounds =>
      unfold separatedWithin
      rw [h]
      rfl

theorem separatedWithin_eq (hitem : forall cur, Moves 1 cur (item cur)) {rounds more : Nat}
    (h : cur.rest.length <= rounds) (hmore : cur.rest.length <= more) :
    separatedWithin isSeparator item rounds cur = separatedWithin isSeparator item more cur := by
  induction rounds generalizing more cur with
  | zero =>
      cases hfirst : item cur with
      | error e => rw [separatedWithin_of_error hfirst, separatedWithin_of_error hfirst]
      | ok found =>
          -- Where no lexeme is left, no item is read.
          have hless := ((hitem cur).passes found hfirst).length_le
          omega
  | succ rounds ih =>
      cases hfirst : item cur with
      | error e => rw [separatedWithin_of_error hfirst, separatedWithin_of_error hfirst]
      | ok found =>
          rcases found with ⟨value, after⟩
          have hless := ((hitem cur).passes _ hfirst).length_le
          have hnext := after.stays_next.length_le
          dsimp only at hless
          cases more with
          | zero => omega
          | succ more =>
              have hrest : separatedWithin isSeparator item rounds after.next =
                  separatedWithin isSeparator item more after.next :=
                ih (by omega) (by omega)
              unfold separatedWithin
              rw [hfirst, ok_bind, ok_bind]
              dsimp only
              rw [hrest]

end

theorem callArguments_eq {rounds more : Nat} {cur : Cursor} (h : cur.rest.length < rounds)
    (hmore : cur.rest.length < more) (call : Call) :
    callArguments rounds call cur = callArguments more call cur := by
  induction rounds generalizing more cur call with
  | zero => omega
  | succ rounds ih =>
      cases more with
      | zero => omega
      | succ more =>
          cases hfirst : callArgument call cur with
          | error e =>
              unfold callArguments
              rw [hfirst]
              rfl
          | ok found =>
              rcases found with ⟨found, after⟩
              have hless := ((moves_callArgument cur call).passes _ hfirst).length_le
              have hnext := after.stays_next.length_le
              dsimp only at hless
              have hrest : callArguments rounds found after.next =
                  callArguments more found after.next :=
                ih (by omega) (by omega) found
              unfold callArguments
              rw [hfirst, ok_bind, ok_bind]
              dsimp only
              rw [hrest]

/-!
# Progress
-/

/-- Wherever the parser starts among the lexemes, it ends among them, `least` or more
further on. -/
def Advances (tokens : List Lexeme) (least : Nat) (parser : Parser alpha) : Prop :=
  forall index cur value after, cur.IsOn tokens index -> parser cur = .ok (value, after) ->
    exists last, index + least <= last ∧ after.IsOn tokens last

theorem Takes.advances {least : Nat} {parser : Parser alpha} (h : Takes least parser)
    (tokens : List Lexeme) : Advances tokens least parser := by
  intro _ cur _ _ hcur hok
  exact hcur.passes ((h.moves cur).passes _ hok)

/-- How the parsers move over the lexemes of a text, and how deep they go. -/
structure MakesProgress (tokens : List Lexeme) : Prop where
  start : forall finish,
    Cursor.IsOn tokens 0 { previous := none, rest := tokens, finish := finish }
  next : forall {index : Nat} {cur : Cursor}, cur.IsOn tokens index ->
    cur.next.IsOn tokens (min (index + 1) tokens.length)
  within : forall {alpha : Type} {least : Nat} {parser : Parser alpha}, Takes least parser ->
    Advances tokens least parser
  selectItem : Advances tokens 1 selectItem
  callArgument : forall call, Advances tokens 1 (callArgument call)
  groupTerm : Advances tokens 1 groupTerm
  orderItem : Advances tokens 1 orderItem
  condition : Advances tokens 1 (formula predicate)
  having : Advances tokens 1 (formula threshold)
  round : forall {alpha : Type} {isSeparator : Cursor -> Bool} {item : Parser alpha}
    {index : Nat} {cur after : Cursor} {value : alpha},
    IsSeparatorTest isSeparator -> Takes 1 item -> cur.IsOn tokens index ->
    isSeparator cur = true -> item cur.next = .ok (value, after) ->
    exists last, index + 2 <= last ∧ after.IsOn tokens last
  list : forall {alpha : Type} {isSeparator : Cursor -> Bool} {item : Parser alpha}
    {index rounds : Nat} {cur : Cursor},
    Takes 1 item -> cur.IsOn tokens index -> tokens.length <= index + rounds ->
    separatedWithin isSeparator item rounds cur = separated isSeparator item cur
  arguments : forall {index rounds : Nat} {cur : Cursor}, cur.IsOn tokens index ->
    tokens.length < index + rounds -> forall call,
    callArguments rounds call cur = callArguments (cur.rest.length + 1) call cur
  depth : forall {alpha : Type} {leaf : Parser alpha} {rule : Rule} {standing after : Standing}
    {found : Formula alpha}, standing.depth <= maxNesting ->
    counted leaf stackLimit rule standing = .ok (found, after) -> after.depth = standing.depth
  stack : forall {alpha : Type} {leaf : Parser alpha} {rule : Rule} {standing : Standing},
    standing.depth <= maxNesting -> counted leaf stackLimit rule standing ≠ .error .overflow
  /-- What counts levels is the parser itself: at depth 0 the disjunction is `formula`. -/
  counting : forall {alpha : Type} {leaf : Parser alpha} {rule : Rule} {standing : Standing},
    standing.depth <= maxNesting -> counted leaf stackLimit rule standing =
      lifted standing.depth (rule.parser leaf (maxNesting - standing.depth) standing.cursor)

theorem parsers_makeProgress (tokens : List Lexeme) : MakesProgress tokens where
  start := Cursor.isOn_start tokens
  next := Cursor.IsOn.next
  within h := h.advances tokens
  selectItem := Takes.selectItem.advances tokens
  callArgument call := (Takes.callArgument call).advances tokens
  groupTerm := Takes.groupTerm.advances tokens
  orderItem := Takes.orderItem.advances tokens
  condition := (Takes.disjunction (.formulaPart .predicate maxNesting)).advances tokens
  having := (Takes.disjunction (.formulaPart .threshold maxNesting)).advances tokens
  round := by
    intro _ _ _ _ cur _ _ hsep hitem hcur hat hok
    exact hcur.passes ((hsep.passes hat).trans ((hitem.moves cur.next).passes _ hok))
  list := by
    intro _ _ _ index rounds cur hitem hcur hrounds
    have hlength : cur.rest.length <= rounds := by
      rw [hcur.rest_eq, List.length_drop]
      omega
    exact separatedWithin_eq hitem.moves hlength (Nat.le_refl _)
  arguments := by
    intro index rounds cur hcur hrounds call
    have hindex := hcur.index_le
    have hlength : cur.rest.length < rounds := by
      rw [hcur.rest_eq, List.length_drop]
      omega
    exact callArguments_eq hlength (Nat.lt_succ_self _) call
  depth := by
    intro _ leaf rule standing _ _ hdepth hok
    rw [counted_stackLimit leaf rule hdepth standing.cursor] at hok
    exact (lifted_eq_ok hok).1
  stack := by
    intro _ leaf rule standing hdepth
    rw [counted_stackLimit leaf rule hdepth standing.cursor]
    exact lifted_ne_overflow _ _
  counting := by
    intro _ leaf rule standing hdepth
    exact counted_stackLimit leaf rule hdepth standing.cursor

def nestedTokens : List Lexeme :=
  [ ⟨.word "NOT", 0⟩, ⟨.leftParen, 4⟩, ⟨.word "city", 5⟩, ⟨.word "IN", 10⟩, ⟨.leftParen, 13⟩
  , ⟨.quotedText "a", 14⟩, ⟨.comma, 17⟩, ⟨.quotedText "b", 19⟩, ⟨.rightParen, 22⟩
  , ⟨.word "OR", 24⟩, ⟨.word "age", 27⟩, ⟨.comparison .gt, 31⟩, ⟨.number "3", 33⟩
  , ⟨.rightParen, 34⟩ ]

def nestedStart : Cursor :=
  { previous := none, rest := nestedTokens, finish := 35 }

def nestedEnd : Cursor :=
  { previous := some ⟨.rightParen, 34⟩, rest := [], finish := 35 }

def nestedCondition : Formula Predicate :=
  .negation (.any
    [ .leaf (.member "city" [.text "a", .text "b"] false)
    , .leaf (.compare "age" .gt (.number "3")) ])

theorem parsers_makeProgress_nested :
    formula predicate nestedStart = .ok (nestedCondition, nestedEnd)
      ∧ (exists last, 0 + 1 <= last ∧ nestedEnd.IsOn nestedTokens last)
      ∧ counted predicate stackLimit .disjunction { cursor := nestedStart, depth := 0 }
        = .ok (nestedCondition, { cursor := nestedEnd, depth := 0 }) := by
  have hread : formula predicate nestedStart = .ok (nestedCondition, nestedEnd) := by
    rfl
  have hprogress := parsers_makeProgress nestedTokens
  refine ⟨hread, hprogress.condition _ _ _ _ (hprogress.start 35) hread, ?_⟩
  rw [hprogress.counting (Nat.zero_le _)]
  exact congrArg (lifted 0) hread

end Sql
end Rollup
