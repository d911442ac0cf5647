import Rollup.Proofs.Sql.Calls

/-!
# Parsing canonical texts

Every part of a well-formed statement is read back from its canonical tokens, and so is
the statement from its canonical text.
-/

namespace Rollup
namespace Sql

/-!
# Calls in their places
-/

theorem toAggregate_written (call : AggregateCall) (position : Nat) :
    Call.toAggregate { call.written with position := position } = { call with label := none } :=
  rfl

theorem splitField_eq_ok (call : Call) (field : Option String)
    {parameters : List (String × Literal)}
    (h : forall parameter, parameter ∈ parameters ->
      Text.eqIgnoreAsciiCase parameter.1 "field" = false) :
    call.splitField field parameters = .ok (field, parameters) := by
  induction parameters with
  | nil => rfl
  | cons parameter rest ih =>
      rcases parameter with ⟨key, value⟩
      show (if Text.eqIgnoreAsciiCase key "field" then _ else _) = _
      rw [h (key, value) List.mem_cons_self]
      show (call.splitField field rest >>= _) = _
      rw [ih (fun parameter hparameter => h parameter (List.mem_cons_of_mem _ hparameter))]
      rfl

theorem toBucket_written {bucket : BucketCall} (position : Nat)
    (h : forall parameter, parameter ∈ bucket.parameters ->
      Text.eqIgnoreAsciiCase parameter.1 "field" = false) :
    Call.toBucket { bucket.written with position := position } = .ok bucket := by
  rcases bucket with ⟨function, field, parameters, boundaries⟩
  cases field with
  | none =>
      show (Call.splitField _ none parameters >>= _) = _
      rw [splitField_eq_ok _ _ h]
      rfl
  | some field =>
      show (Call.splitField _ (some field) parameters >>= _) = _
      rw [splitField_eq_ok _ _ h]
      rfl

theorem atCall_tokens {written : Call} {cur : Cursor} {rest : List Token}
    (h : cur.tokens = written.tokens ++ rest) : atCall cur = true := by
  rw [atCall, Cursor.token?_eq_head?, Cursor.second?_eq_head?, h]
  rfl

theorem atCall_eq_false {cur : Cursor} {token : Token} {rest : List Token}
    (h : cur.tokens = token :: rest) (htoken : forall text, token ≠ .word text) :
    atCall cur = false := by
  rw [atCall, Cursor.token?_eq_head?, h]
  cases token with
  | word text => exact absurd rfl (htoken text)
  | _ => rfl

theorem reads_columnRef {ref : ColumnRef} (h : ref.WellFormed) :
    Reads columnRef ref.tokens ref (fun _ => True) := by
  intro cur rest htokens _
  cases ref with
  | name text =>
      refine ⟨cur.next, ?_, by rw [Cursor.tokens_next, htokens]; rfl⟩
      rw [columnRef, atCall_eq_false htokens (fun _ => by simp), Cursor.token?_eq_head?, htokens]
      rfl
  | aggregate call =>
      rcases h with ⟨hcall, hlabel⟩
      rcases call_eq_ok hcall htokens with ⟨after, hread, hafter⟩
      refine ⟨after, ?_, hafter⟩
      rw [columnRef, atCall_tokens htokens, if_pos rfl, hread, ok_bind]
      show Except.ok (ColumnRef.aggregate _, after) = _
      rw [toAggregate_written, <- hlabel]

theorem reads_groupTerm {term : GroupTerm} (h : term.WellFormed) :
    Reads groupTerm term.tokens term (fun _ => True) := by
  intro cur rest htokens _
  cases term with
  | plain field =>
      rcases reads_name field cur rest htokens trivial with ⟨after, hread, hafter⟩
      refine ⟨after, ?_, hafter⟩
      rw [groupTerm, atCall_eq_false htokens (fun _ => by simp), if_neg Bool.false_ne_true, hread]
      rfl
  | call bucket =>
      rcases h with ⟨hcall, hfield⟩
      rcases call_eq_ok hcall htokens with ⟨after, hread, hafter⟩
      refine ⟨after, ?_, hafter⟩
      rw [groupTerm, atCall_tokens htokens, if_pos rfl, hread, ok_bind]
      show (Call.toBucket _ >>= _) = _
      rw [toBucket_written cur.position hfield]
      rfl

theorem reads_orderItem {item : OrderItem} (h : item.target.WellFormed) :
    Reads orderItem item.tokens item (fun _ => True) := by
  intro cur rest htokens _
  rw [OrderItem.tokens, List.append_assoc] at htokens
  rcases reads_columnRef h cur _ htokens trivial with ⟨after, hread, hafter⟩
  refine ⟨after.next, ?_, by rw [Cursor.tokens_next, hafter]; rfl⟩
  rw [orderItem, hread, ok_bind]
  simp only [Cursor.isAtKeyword_eq, hafter]
  rcases item with ⟨target, direction⟩
  cases direction <;> rfl

/-!
# Conditions
-/

theorem comparison?_eq_some {cur : Cursor} {op : Comparison} {rest : List Token}
    (h : cur.tokens = .comparison op :: rest) : comparison? cur = some op := by
  rw [comparison?, Cursor.token?_eq_head?, h]
  rfl

theorem comparison?_eq_none {cur : Cursor} {text : String} {rest : List Token}
    (h : cur.tokens = .word text :: rest) : comparison? cur = none := by
  rw [comparison?, Cursor.token?_eq_head?, h]
  rfl

theorem reads_threshold {threshold : Threshold} (h : threshold.WellFormed) :
    Reads Sql.threshold threshold.tokens threshold (fun _ => True) := by
  intro cur rest htokens _
  rw [Threshold.tokens, List.append_assoc] at htokens
  rcases reads_columnRef h.left cur _ htokens trivial with ⟨mid, htarget, hmid⟩
  rcases reads_literal threshold.value mid.next rest
      (by rw [Cursor.tokens_next, hmid]; rfl) trivial
    with ⟨after, hvalue, hafter⟩
  refine ⟨after, ?_, hafter⟩
  rw [Sql.threshold, htarget, ok_bind]
  simp only [comparison?_eq_some hmid]
  show (literal mid.next >>= _) = _
  rw [hvalue]
  rfl

theorem reads_values {values : List Literal} (hne : values ≠ []) :
    Reads (commaSeparated literal) (commaTokens (values.map (fun value => [value.token]))) values
      (fun rest => rest.head? = some .rightParen) :=
  reads_commaSeparated hne (fun rest hrest => by simp [hrest])
    (fun value _ => (reads_literal value).mono (fun _ _ => trivial))

theorem reads_like (field pattern : String) (negated : Bool) :
    Reads (rangePredicate field negated) [.word "LIKE", .quotedText pattern]
      (.like field pattern negated) (fun _ => True) := by
  intro cur rest htokens _
  refine ⟨cur.next.next, ?_, by rw [Cursor.tokens_next, Cursor.tokens_next, htokens]; rfl⟩
  simp only [rangePredicate, Cursor.isAtKeyword_eq, Cursor.token?_eq_head?, Cursor.tokens_next,
    htokens]
  rfl

theorem reads_member (field : String) {values : List Literal} (hne : values ≠ [])
    (negated : Bool) :
    Reads (rangePredicate field negated)
      (.word "IN" :: .leftParen
        :: (commaTokens (values.map (fun value => [value.token])) ++ [.rightParen]))
      (.member field values negated) (fun _ => True) := by
  intro cur rest htokens _
  have hopen : cur.next.expect .leftParen = .ok cur.next.next :=
    Cursor.expect_eq_ok (by rw [Cursor.tokens_next, htokens]; rfl)
  rcases reads_values hne cur.next.next (.rightParen :: rest)
      (by rw [Cursor.tokens_next, Cursor.tokens_next, htokens]; simp) rfl
    with ⟨after, hvalues, hafter⟩
  refine ⟨after.next, ?_, by rw [Cursor.tokens_next, hafter]; rfl⟩
  simp only [rangePredicate, Cursor.isAtKeyword_eq, htokens]
  show (cur.next.expect .leftParen >>= _) = _
  rw [hopen, ok_bind, hvalues, ok_bind]
  show (after.expect .rightParen >>= _) = _
  rw [Cursor.expect_eq_ok hafter]
  rfl

theorem reads_between (field : String) (low high : Literal) (negated : Bool) :
    Reads (rangePredicate field negated)
      [.word "BETWEEN", low.token, .word "AND", high.token]
      (.between field low high negated) (fun _ => True) := by
  intro cur rest htokens _
  rcases reads_literal low cur.next (.word "AND" :: high.token :: rest)
      (by rw [Cursor.tokens_next, htokens]; rfl) trivial
    with ⟨mid, hlow, hmid⟩
  rcases reads_literal high mid.next rest (by rw [Cursor.tokens_next, hmid]; rfl) trivial
    with ⟨after, hhigh, hafter⟩
  refine ⟨after, ?_, hafter⟩
  simp only [rangePredicate, Cursor.isAtKeyword_eq, htokens]
  show (literal cur.next >>= _) = _
  rw [hlow, ok_bind]
  show (mid.expectKeyword "AND" >>= _) = _
  rw [Cursor.expectKeyword_eq_ok hmid rfl, ok_bind, hhigh]
  rfl

theorem reads_ranged {field keyword : String} {negated : Bool} {tokens : List Token}
    {test : Predicate}
    (h : Reads (rangePredicate field negated) (.word keyword :: tokens) test (fun _ => True))
    (his : Text.eqIgnoreAsciiCase keyword "IS" = false)
    (hnot : Text.eqIgnoreAsciiCase keyword "NOT" = false) :
    Reads predicate (.quotedName field :: (notTokens negated ++ .word keyword :: tokens)) test
      (fun _ => True) := by
  intro cur rest htokens _
  rcases reads_name field cur _ htokens trivial with ⟨mid, hname, hmid⟩
  rw [predicate, hname, ok_bind]
  cases negated with
  | false =>
      rcases h mid rest hmid trivial with ⟨after, htest, hafter⟩
      refine ⟨after, ?_, hafter⟩
      simp only [comparison?_eq_none hmid, Cursor.isAtKeyword_eq, hmid]
      show (if Text.eqIgnoreAsciiCase keyword "IS" then _
        else if Text.eqIgnoreAsciiCase keyword "NOT" then _ else _) = _
      rw [his, hnot]
      exact htest
  | true =>
      rcases h mid.next rest (by rw [Cursor.tokens_next, hmid]; rfl) trivial
        with ⟨after, htest, hafter⟩
      refine ⟨after, ?_, hafter⟩
      simp only [comparison?_eq_none hmid, Cursor.isAtKeyword_eq, hmid]
      exact htest

theorem reads_isNull (field : String) (negated : Bool) :
    Reads predicate (.quotedName field :: .word "IS" :: (notTokens negated ++ [.word "NULL"]))
      (.isNull field negated) (fun _ => True) := by
  intro cur rest htokens _
  rcases reads_name field cur _ htokens trivial with ⟨mid, hname, hmid⟩
  rw [predicate, hname, ok_bind]
  simp only [comparison?_eq_none hmid]
  have his : mid.isAtKeyword "IS" = true := by
    rw [Cursor.isAtKeyword_eq, hmid]
    rfl
  rw [his, if_pos rfl]
  cases negated with
  | false =>
      have hnull : mid.next.tokens = .word "NULL" :: rest := by
        rw [Cursor.tokens_next, hmid]
        rfl
      have hnot : mid.next.isAtKeyword "NOT" = false := by
        rw [Cursor.isAtKeyword_eq, hnull]
        rfl
      have hpass : mid.next.expectKeyword "NULL" = .ok mid.next.next :=
        Cursor.expectKeyword_eq_ok hnull rfl
      refine ⟨mid.next.next, ?_, by rw [Cursor.tokens_next, hnull]; rfl⟩
      simp only [hnot, hpass]
      rfl
  | true =>
      have hnot : mid.next.isAtKeyword "NOT" = true := by
        rw [Cursor.isAtKeyword_eq, Cursor.tokens_next, hmid]
        rfl
      have hnull : mid.next.next.tokens = .word "NULL" :: rest := by
        rw [Cursor.tokens_next, Cursor.tokens_next, hmid]
        rfl
      have hpass : mid.next.next.expectKeyword "NULL" = .ok mid.next.next.next :=
        Cursor.expectKeyword_eq_ok hnull rfl
      refine ⟨mid.next.next.next, ?_, by rw [Cursor.tokens_next, hnull]; rfl⟩
      simp only [hnot, hpass]
      rfl

theorem reads_compare (field : String) (op : Comparison) (value : Literal) :
    Reads predicate [.quotedName field, .comparison op, value.token] (.compare field op value)
      (fun _ => True) := by
  intro cur rest htokens _
  rcases reads_name field cur _ htokens trivial with ⟨mid, hname, hmid⟩
  have hnext : mid.next.tokens = [value.token] ++ rest := by
    rw [Cursor.tokens_next, hmid]
    rfl
  have hnull : mid.next.isAtKeyword "NULL" = false := by
    rw [Cursor.isAtKeyword_eq, hnext]
    cases value with
    | bool value => cases value <;> rfl
    | _ => rfl
  rcases reads_literal value mid.next rest hnext trivial with ⟨after, hvalue, hafter⟩
  refine ⟨after, ?_, hafter⟩
  rw [predicate, hname, ok_bind]
  simp only [comparison?_eq_some hmid, hnull]
  show (literal mid.next >>= _) = _
  rw [hvalue]
  rfl

theorem reads_predicate {test : Predicate} (h : test.WellFormed) :
    Reads predicate test.tokens test (fun _ => True) := by
  cases test with
  | compare field op value => exact reads_compare field op value
  | like field pattern negated => exact reads_ranged (reads_like field pattern negated) rfl rfl
  | member field values negated =>
      exact reads_ranged (reads_member field h.right.left negated) rfl rfl
  | between field low high negated =>
      exact reads_ranged (reads_between field low high negated) rfl rfl
  | isNull field negated => exact reads_isNull field negated

theorem isKeyword_of_unreserved {word keyword : String} (h : isReserved word = false)
    (hkeyword : keyword ∈ reservedWords) : (Token.word word).isKeyword keyword = false := by
  rw [isReserved, List.any_eq_false] at h
  have hne := h keyword hkeyword
  rw [Text.eqIgnoreAsciiCase, beq_iff_eq] at hne
  rw [Token.isKeyword, Text.eqIgnoreAsciiCase, beq_eq_false_iff_ne]
  exact fun heq => hne heq.symm

theorem reads_predicateLeaf {test : Predicate} (h : test.WellFormed) (levels : Nat) :
    Reads (formulaPart predicate levels) test.tokens (.leaf test) (fun _ => True) := by
  refine (reads_predicate h).formulaLeaf ?_ ?_
  · cases test <;> exact List.cons_ne_nil _ _
  · cases test <;> rfl

theorem reads_thresholdLeaf {test : Threshold} (h : test.WellFormed) (levels : Nat) :
    Reads (formulaPart threshold levels) test.tokens (.leaf test) (fun _ => True) := by
  rcases test with ⟨target, op, value⟩
  refine (reads_threshold h).formulaLeaf ?_ ?_
  · cases target <;> exact List.cons_ne_nil _ _
  · cases target with
    | name text => rfl
    | aggregate call =>
        have hnot : (Token.word call.function).isKeyword "NOT" = false :=
          isKeyword_of_unreserved h.left.left.unreserved (by decide)
        show ((Token.word call.function).isKeyword "NOT" || false) = false
        rw [hnot]
        rfl

/-!
# Clauses
-/

theorem reads_label_some (text : String) :
    Reads label (labelTokens (some text)) (some text) (fun _ => True) := by
  intro cur rest htokens _
  refine ⟨cur.next.next, ?_, by rw [Cursor.tokens_next, Cursor.tokens_next, htokens]; rfl⟩
  simp only [label, Cursor.isAtKeyword_eq, Cursor.token?_eq_head?, Cursor.tokens_next, htokens]
  rfl

/-- The next item or the FROM clause comes next. -/
def EndsItem (rest : List Token) : Prop :=
  rest.head? = some (.word "FROM") ∨ rest.head? = some .comma

theorem reads_label (label? : Option String) :
    Reads label (labelTokens label?) label? EndsItem := by
  cases label? with
  | some text => exact (reads_label_some text).mono (fun _ _ => trivial)
  | none =>
      intro cur rest htokens hrest
      refine ⟨cur, ?_, htokens⟩
      rw [labelTokens, List.nil_append] at htokens
      simp only [label, Cursor.isAtKeyword_eq, Cursor.token?_eq_head?, htokens]
      rcases hrest with hrest | hrest <;> rw [hrest] <;> rfl

theorem reads_selectItem {item : SelectItem} (h : item.WellFormed) :
    Reads selectItem item.tokens item EndsItem := by
  intro cur rest htokens hrest
  cases item with
  | star =>
      refine ⟨cur.next, ?_, by rw [Cursor.tokens_next, htokens]; rfl⟩
      rw [selectItem, Cursor.isAt_eq, htokens]
      rfl
  | field name label? =>
      rcases reads_name name cur _ htokens trivial with ⟨mid, hname, hmid⟩
      rcases reads_label label? mid rest hmid hrest with ⟨after, hlabel, hafter⟩
      refine ⟨after, ?_, hafter⟩
      have hcall : atCall cur = false := atCall_eq_false htokens (fun _ => by simp)
      simp only [selectItem, Cursor.isAt_eq, hcall, Cursor.token?_eq_head?, htokens]
      show (Sql.name cur >>= _) = _
      rw [hname, ok_bind, hlabel]
      rfl
  | aggregate call =>
      rw [SelectItem.tokens, List.append_assoc] at htokens
      rcases call_eq_ok h htokens with ⟨mid, hread, hmid⟩
      rcases reads_label call.label mid rest hmid hrest with ⟨after, hlabel, hafter⟩
      refine ⟨after, ?_, hafter⟩
      simp only [selectItem, Cursor.isAt_eq, atCall_tokens htokens, htokens]
      show (Sql.call cur >>= _) = _
      rw [hread, ok_bind, hlabel]
      rfl

theorem reads_source (origin : Source) :
    Reads source origin.tokens origin (fun rest => rest.head? ≠ some .slash) := by
  intro cur rest htokens hrest
  rcases origin with ⟨index, docType⟩
  rcases reads_indexName index cur _ htokens trivial with ⟨mid, hindex, hmid⟩
  have hstar : cur.isAt .star = false := by
    rw [Cursor.isAt_eq, htokens]
    rfl
  rw [source, hstar, if_neg Bool.false_ne_true, hindex, ok_bind]
  cases docType with
  | none =>
      have hslash : mid.isAt .slash = false := by
        rw [Cursor.isAt_eq, hmid]
        simpa using hrest
      refine ⟨mid, ?_, hmid⟩
      simp only [hslash]
      rfl
  | some docType =>
      have hslash : mid.isAt .slash = true := by
        rw [Cursor.isAt_eq, hmid]
        rfl
      rcases reads_indexName docType mid.next rest (by rw [Cursor.tokens_next, hmid]; rfl) trivial
        with ⟨after, htype, hafter⟩
      refine ⟨after, ?_, hafter⟩
      simp only [hslash, htype]
      rfl

theorem reads_limit {n : Nat} (h : n < 2 ^ 64) :
    Reads limit [.number (toString n)] n (fun _ => True) := by
  intro cur rest htokens _
  refine ⟨cur.next, ?_, by rw [Cursor.tokens_next, htokens]; rfl⟩
  have hread : Number.readUInt64? (toString n) = some n := Number.readNat?_toString h
  simp only [limit, Cursor.token?_eq_head?, htokens, List.singleton_append, List.head?_cons, hread]

/-- Nothing or one of the keywords comes next. -/
def Announced (keywords : List String) (rest : List Token) : Prop :=
  rest = [] ∨ exists keyword, keyword ∈ keywords ∧ rest.head? = some (.word keyword)

theorem Announced.without {keywords : List String} {rest : List Token}
    (h : Announced keywords rest) {stop : Token -> Bool}
    (hstop : forall keyword, keyword ∈ keywords -> stop (.word keyword) = false) :
    Without stop rest := by
  rcases h with rfl | ⟨keyword, hmem, hhead⟩
  · rfl
  · rw [Without, hhead]
    exact hstop keyword hmem

theorem Announced.head?_ne {keywords : List String} {rest : List Token}
    (h : Announced keywords rest) {token : Token} (htoken : forall text, token ≠ .word text) :
    rest.head? ≠ some token := by
  rcases h with rfl | ⟨keyword, _, hhead⟩
  · simp
  · rw [hhead]
    exact fun heq => htoken keyword (Option.some.inj heq).symm

theorem announced_clause {alpha : Type} (keyword : String) (body : alpha -> List Token)
    (value? : Option alpha) {keywords : List String} {rest : List Token}
    (h : Announced keywords rest) :
    Announced (keyword :: keywords) (clauseTokens keyword body value? ++ rest) := by
  cases value? with
  | none =>
      rcases h with rfl | ⟨word, hmem, hhead⟩
      · exact .inl rfl
      · exact .inr ⟨word, List.mem_cons_of_mem _ hmem, hhead⟩
  | some value => exact .inr ⟨keyword, List.mem_cons_self, rfl⟩

theorem reads_clause {alpha : Type} {keyword : String} {parser : Parser alpha}
    {body : alpha -> List Token} {value? : Option alpha} {follow : List Token -> Prop}
    (hbody : forall value, value? = some value -> Reads parser (body value) value follow)
    (hfollow : forall rest, follow rest -> Without (Token.isKeyword keyword) rest) :
    Reads (clause? keyword parser) (clauseTokens keyword body value?) value? follow := by
  intro cur rest htokens hrest
  cases value? with
  | none =>
      have habsent : cur.isAtKeyword keyword = false := by
        rw [Cursor.isAtKeyword_eq, htokens]
        exact hfollow rest hrest
      refine ⟨cur, ?_, htokens⟩
      rw [clause?, habsent]
      rfl
  | some value =>
      have hat : cur.isAtKeyword keyword = true := by
        rw [Cursor.isAtKeyword_eq, htokens]
        exact beq_self_eq_true _
      rcases hbody value rfl cur.next rest (by rw [Cursor.tokens_next, htokens]; rfl) hrest
        with ⟨after, hvalue, hafter⟩
      refine ⟨after, ?_, hafter⟩
      rw [clause?, hat, if_pos rfl, hvalue]
      rfl

theorem reads_listBy {alpha : Type} {item : Parser alpha} {print : alpha -> List Token}
    {values : List alpha} (hne : values ≠ []) {follow : List Token -> Prop}
    (hfollow : forall rest, follow rest -> rest.head? ≠ some .comma)
    (hitem : forall value, value ∈ values -> Reads item (print value) value (fun _ => True)) :
    Reads (listBy item) (byTokens print values) values follow := by
  intro cur rest htokens hrest
  have hby : cur.expectKeyword "BY" = .ok cur.next := Cursor.expectKeyword_eq_ok htokens rfl
  rw [listBy, hby, ok_bind]
  exact reads_commaSeparated hne hfollow
    (fun value hvalue => (hitem value hvalue).mono (fun _ _ => trivial)) cur.next rest
    (by rw [Cursor.tokens_next, htokens]; rfl) hrest

/-!
# Statements
-/

theorem reads_formula {alpha : Type} {leaf : Parser alpha} {print : alpha -> List Token}
    {good : alpha -> Prop} (hleaf : forall value, good value -> forall levels,
      Reads (formulaPart leaf levels) (print value) (.leaf value) (fun _ => True))
    {condition : Formula alpha} (h : condition.WellFormed 2 2 good)
    (hnesting : condition.nesting true <= maxNesting) {keywords : List String}
    (hkeywords : forall word, word ∈ keywords ->
      (Token.word word).isKeyword "AND" = false ∧ (Token.word word).isKeyword "OR" = false) :
    Reads (formula leaf) (condition.tokens print true) condition (Announced keywords) := by
  refine ((reads_formula_tokens hleaf h).right maxNesting hnesting).mono ?_
  intro rest hrest
  exact ⟨hrest.without (fun word hword => (hkeywords word hword).left),
    hrest.without (fun word hword => (hkeywords word hword).right)⟩

theorem getD_nonempty? {alpha : Type} (values : List alpha) :
    (nonempty? values).getD [] = values := by
  cases values <;> rfl

theorem reads_listClause {alpha : Type} {keyword : String} {item : Parser alpha}
    {print : alpha -> List Token} {values : List alpha} {keywords : List String}
    (hitem : forall value, value ∈ values -> Reads item (print value) value (fun _ => True))
    (hkeywords : forall word, word ∈ keywords -> (Token.word word).isKeyword keyword = false) :
    Reads (clause? keyword (listBy item)) (clauseTokens keyword (byTokens print) (nonempty? values))
      (nonempty? values) (Announced keywords) := by
  refine reads_clause ?_ (fun rest hrest => hrest.without hkeywords)
  intro list hlist
  have heq : list = values := by
    rw [<- getD_nonempty? values, hlist]
    rfl
  have hne : list ≠ [] := by
    rintro rfl
    rw [<- heq] at hlist
    cases hlist
  subst heq
  exact reads_listBy hne (fun rest hrest => hrest.head?_ne (fun _ => by simp)) hitem

section

variable {query : Statement} (h : query.WellFormed)
include h

theorem reads_select :
    Reads (commaSeparated selectItem) (commaTokens (query.select.map SelectItem.tokens))
      query.select (fun rest => rest.head? = some (.word "FROM")) :=
  reads_commaSeparated h.select_ne_nil (fun rest hrest => by simp [hrest])
    (fun item hitem => reads_selectItem (h.select item hitem))

theorem reads_where :
    Reads (clause? "WHERE" (formula predicate))
      (clauseTokens "WHERE" (Formula.tokens Predicate.tokens true) query.filter) query.filter
      (Announced ["GROUP", "HAVING", "ORDER", "LIMIT"]) := by
  refine reads_clause ?_ (fun rest hrest => hrest.without (by decide))
  intro condition hcondition
  rcases h.filter condition hcondition with ⟨hformed, hnesting⟩
  exact reads_formula (fun test htest => reads_predicateLeaf htest) hformed hnesting (by decide)

theorem reads_having :
    Reads (clause? "HAVING" (formula threshold))
      (clauseTokens "HAVING" (Formula.tokens Threshold.tokens true) query.having) query.having
      (Announced ["ORDER", "LIMIT"]) := by
  refine reads_clause ?_ (fun rest hrest => hrest.without (by decide))
  intro condition hcondition
  rcases h.having condition hcondition with ⟨hformed, hnesting⟩
  exact reads_formula (fun test htest => reads_thresholdLeaf htest) hformed hnesting (by decide)

theorem reads_limitClause :
    Reads (clause? "LIMIT" limit)
      (clauseTokens "LIMIT" (fun n => [Token.number (toString n)]) query.limit) query.limit
      (Announced []) := by
  refine reads_clause ?_ (fun rest hrest => hrest.without (by decide))
  intro n hn
  exact (reads_limit (h.limit n hn)).mono (fun _ _ => trivial)

theorem statement_eq_ok {cur : Cursor} (htokens : cur.tokens = query.tokens) :
    statement cur = .ok query := by
  have hlimit := announced_clause "LIMIT" (fun n => [Token.number (toString n)]) query.limit
    (.inl rfl : Announced [] [])
  rw [List.append_nil] at hlimit
  have horder := announced_clause "ORDER" (byTokens OrderItem.tokens) (nonempty? query.order) hlimit
  have hhaving := announced_clause "HAVING" (Formula.tokens Threshold.tokens true) query.having
    horder
  have hgroups := announced_clause "GROUP" (byTokens GroupTerm.tokens) (nonempty? query.groups)
    hhaving
  have hwhere := announced_clause "WHERE" (Formula.tokens Predicate.tokens true) query.filter
    hgroups
  have hstart : cur.expectKeyword "SELECT" = .ok cur.next :=
    Cursor.expectKeyword_eq_ok htokens rfl
  rcases reads_select h cur.next _ (by rw [Cursor.tokens_next, htokens]; rfl) rfl
    with ⟨atFrom, hselect, hatFrom⟩
  have hfrom : atFrom.isAtKeyword "FROM" = true := by
    rw [Cursor.isAtKeyword_eq, hatFrom]
    rfl
  rcases reads_source query.source atFrom.next _ (by rw [Cursor.tokens_next, hatFrom]; rfl)
      (hwhere.head?_ne (fun _ => by simp))
    with ⟨atWhere, hsource, hatWhere⟩
  rcases reads_where h atWhere _ hatWhere hgroups with ⟨atGroups, hfilter, hatGroups⟩
  rcases reads_listClause (fun term hterm => reads_groupTerm (h.groups term hterm)) (by decide)
      atGroups _ hatGroups hhaving
    with ⟨atHaving, hterms, hatHaving⟩
  rcases reads_having h atHaving _ hatHaving horder with ⟨atOrder, hcondition, hatOrder⟩
  rcases reads_listClause (fun item hitem => reads_orderItem (h.order item hitem)) (by decide)
      atOrder _ hatOrder hlimit
    with ⟨atLimit, hitems, hatLimit⟩
  rcases reads_limitClause h atLimit [] (by rw [hatLimit, List.append_nil]) (.inl rfl)
    with ⟨last, hcount, hlast⟩
  have hend : last.isAt .semicolon = false := by
    rw [Cursor.isAt_eq, hlast]
    rfl
  have hnone : last.token? = none := by
    rw [Cursor.token?_eq_head?, hlast]
    rfl
  simp only [statement, hstart, hselect, hfrom, hsource, hfilter, hterms, hcondition, hitems,
    hcount, hend, hnone, ok_bind, getD_nonempty?, Bool.not_true, Bool.false_eq_true, if_false]

end

/-!
# Texts
-/

theorem mem_dropWhile_of_eq_false {p : Char -> Bool} {c : Char} (hc : p c = false)
    {cs : List Char} (h : c ∈ cs) : c ∈ cs.dropWhile p := by
  induction cs with
  | nil => cases h
  | cons d rest ih =>
      rw [List.dropWhile_cons]
      split
      · rename_i hd
        rcases List.mem_cons.mp h with rfl | hrest
        · rw [hc] at hd
          cases hd
        · exact ih hrest
      · exact h

theorem trimChars_ne_nil {c : Char} (hc : Text.isBlank c = false) {cs : List Char} (h : c ∈ cs) :
    Text.trimChars cs ≠ [] := by
  have hmem : c ∈ Text.trimChars cs := by
    rw [Text.trimChars, Text.trimEnd, List.mem_reverse]
    refine mem_dropWhile_of_eq_false hc ?_
    rw [List.mem_reverse, Text.trimStart]
    exact mem_dropWhile_of_eq_false hc h
  exact List.ne_nil_of_mem hmem

theorem parse_of_spells {query : Statement} (h : query.WellFormed) {text : String}
    (htext : Spells query.tokens text.toList) : parse text = .ok query := by
  have hselect : Token.word "SELECT" ∈ query.tokens := List.mem_cons_self
  have hletter : 'S' ∈ text.toList := mem_of_spells htext hselect (by decide)
  have hblank : (Text.trimChars text.toList == []) = false :=
    beq_eq_false_iff_ne.mpr (trimChars_ne_nil rfl hletter)
  rcases lexemesFrom_of_spells htext 0 with ⟨found, hfound, htokens⟩
  rw [parse, hblank, if_neg Bool.false_ne_true, lexemes, hfound, ok_bind]
  exact statement_eq_ok h htokens

theorem spells_canonicalText {query : Statement} (h : query.WellFormed) :
    Spells query.tokens query.canonicalText.toList := by
  rw [Statement.canonicalText, String.toList_ofList]
  exact spells_layout (Statement.allWritable_tokens h)

/-- The canonical text of a well-formed statement is parsed as exactly that statement, and so
is every other layout of the canonical tokens. -/
theorem parse_canonicalText {query : Statement} (h : query.WellFormed) :
    parse query.canonicalText = .ok query
      ∧ forall text : String, Spells query.tokens text.toList -> parse text = .ok query :=
  ⟨parse_of_spells h (spells_canonicalText h), fun _ htext => parse_of_spells h htext⟩

def distinctUsers : AggregateCall :=
  { function := "COUNT"
    argument := some (.field "user")
    distinct := true
    parameters := [("precision", .number "40")]
    positional := []
    label := some "it's" }

def ageRanges : BucketCall :=
  { function := "range"
    field := some "age"
    parameters := []
    boundaries := [.number "20", .number "30"] }

def usersByAge : Statement :=
  { source := { index := "logs-*", docType := some "event" }
    select := [.aggregate distinctUsers]
    filter := some
      (.any
        [.negation
          (.all
            [.leaf (.compare "age" .gte (.number "18")),
              .leaf (.member "city" [.text "Rome", .text "Oslo"] true)]),
          .leaf (.compare "ok" .eq (.bool true))])
    groups := [.call ageRanges]
    having := some (.leaf { target := .name "it's", op := .lt, value := .number "-2.5" })
    order := [{ target := .name "it's", direction := .desc }]
    limit := some 10 }

theorem wellFormed_distinctUsers : distinctUsers.written.WellFormed where
  word := isWord_of_hasWordShape rfl
  unreserved := rfl
  field := by
    intro name hname
    cases hname
    decide
  distinct := fun _ => ⟨"user", rfl⟩
  named := by
    intro parameter hparameter
    cases List.mem_singleton.mp hparameter
    exact .unsigned (.whole (by decide))
  positional := fun _ hvalue => by cases hvalue

theorem wellFormed_ageRanges : ageRanges.written.WellFormed where
  word := isWord_of_hasWordShape rfl
  unreserved := rfl
  field := by
    intro name hname
    cases hname
    decide
  distinct := fun h => by cases h
  named := fun _ hparameter => by cases hparameter
  positional := by
    show forall value, value ∈ [Literal.number "20", .number "30"] -> _
    rw [List.forall_mem_cons, List.forall_mem_singleton]
    exact ⟨⟨.unsigned (.whole (by decide)), rfl⟩, .unsigned (.whole (by decide)), rfl⟩

theorem wellFormed_usersByAge : usersByAge.WellFormed where
  select_ne_nil := by decide
  select := by
    intro item hitem
    cases List.mem_singleton.mp hitem
    exact wellFormed_distinctUsers
  source :=
    { index := by decide
      docType := by
        intro docType hdocType
        cases hdocType
        decide }
  filter := by
    intro condition hcondition
    cases hcondition
    refine ⟨?_, by decide⟩
    have hage : (Predicate.compare "age" .gte (.number "18")).WellFormed :=
      ⟨by decide, .unsigned (.whole (by decide))⟩
    have hcity : (Predicate.member "city" [.text "Rome", .text "Oslo"] true).WellFormed := by
      refine ⟨by decide, by decide, ?_⟩
      rw [List.forall_mem_cons, List.forall_mem_singleton]
      exact ⟨trivial, trivial⟩
    have hflag : (Predicate.compare "ok" .eq (.bool true)).WellFormed := ⟨by decide, trivial⟩
    simp [hage, hcity, hflag]
  groups := by
    intro term hterm
    cases List.mem_singleton.mp hterm
    exact ⟨wellFormed_ageRanges, fun _ hparameter => by cases hparameter⟩
  having := by
    intro condition hcondition
    cases hcondition
    refine ⟨.leaf ⟨trivial, ?_⟩, by decide⟩
    exact .negative (.fraction (by decide) (by decide) : Number.IsUnsigned (['2'] ++ '.' :: ['5']))
  order := by
    intro item hitem
    cases List.mem_singleton.mp hitem
    trivial
  limit := by
    intro n hn
    cases hn
    decide

theorem parse_canonicalText_usersByAge :
    usersByAge.WellFormed
      ∧ usersByAge.canonicalText = "SELECT COUNT(DISTINCT \"user\", 'precision'=40) AS 'it''s' "
        ++ "FROM \"logs-*\"/\"event\" WHERE NOT (\"age\">=18 AND \"city\" NOT IN ('Rome', 'Oslo')) "
        ++ "OR \"ok\"=true GROUP BY range(\"age\", 20, 30) HAVING 'it''s'<-2.5 "
        ++ "ORDER BY 'it''s' DESC LIMIT 10"
      ∧ parse usersByAge.canonicalText = .ok usersByAge :=
  ⟨wellFormed_usersByAge, by decide +kernel, (parse_canonicalText wellFormed_usersByAge).left⟩

end Sql
end Rollup
