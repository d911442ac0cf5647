import Rollup.Proofs.Sql.Canonical

/-!
# Reading calls

Each argument takes the call read so far one step further. The steps of the arguments in
canonical order lead from the empty call to the whole one.
-/

namespace Rollup
namespace Sql

/-!
# Literals and names
-/

theorem reads_literal (value : Literal) : Reads literal [value.token] value (fun _ => True) := by
  intro cur rest htokens _
  refine ⟨cur.next, ?_, by rw [Cursor.tokens_next, htokens]; rfl⟩
  rw [literal, Cursor.token?_eq_head?, htokens]
  cases value with
  | number raw => rfl
  | text value => rfl
  | bool value => cases value <;> rfl

theorem reads_parameterValue (value : Literal) :
    Reads parameterValue [value.token] value (fun _ => True) := by
  intro cur rest htokens _
  refine ⟨cur.next, ?_, by rw [Cursor.tokens_next, htokens]; rfl⟩
  rw [parameterValue, Cursor.token?_eq_head?, htokens]
  cases value with
  | number raw => rfl
  | text value => rfl
  | bool value => cases value <;> rfl

theorem reads_name (text : String) : Reads name [.quotedName text] text (fun _ => True) := by
  intro cur rest htokens _
  refine ⟨cur.next, ?_, by rw [Cursor.tokens_next, htokens]; rfl⟩
  rw [name, Cursor.token?_eq_head?, htokens]
  rfl

theorem reads_indexName (text : String) :
    Reads indexName [.quotedName text] text (fun _ => True) := by
  intro cur rest htokens _
  refine ⟨cur.next, ?_, by rw [Cursor.tokens_next, htokens]; rfl⟩
  rw [indexName, Cursor.token?_eq_head?, htokens]
  rfl

/-!
# Arguments
-/

/-- A comma or the closing parenthesis comes next. -/
def EndsArgument (rest : List Token) : Prop :=
  rest.head? = some .comma ∨ rest.head? = some .rightParen

theorem reads_named (call : Call) (parameter : String × Literal) :
    Reads (callArgument call) (parameterTokens parameter)
      { call with named := call.named ++ [parameter] } (fun _ => True) := by
  intro cur rest htokens _
  have hsecond : cur.second? = some (.comparison .eq) := by
    rw [Cursor.second?_eq_head?, htokens]
    rfl
  rcases reads_parameterValue parameter.2 cur.next.next rest
      (by rw [Cursor.tokens_next, Cursor.tokens_next, htokens]; rfl) trivial
    with ⟨after, hvalue, hafter⟩
  refine ⟨after, ?_, hafter⟩
  rw [callArgument, hsecond, beq_self_eq_true, if_pos rfl, namedArgument, Cursor.token?_eq_head?,
    htokens]
  show (parameterValue cur.next.next >>= _) = _
  rw [hvalue]
  rfl

theorem callArgument_eq_plain (call : Call) {cur : Cursor} {token : Token} {rest : List Token}
    (htokens : cur.tokens = [token] ++ rest) (hrest : EndsArgument rest) :
    callArgument call cur = plainArgument call cur := by
  have hsecond : (cur.second? == some (.comparison .eq)) = false := by
    rw [Cursor.second?_eq_head?, htokens]
    rcases hrest with hrest | hrest <;> simp [hrest]
  rw [callArgument, hsecond]
  rfl

theorem reads_positional (call : Call) {value : Literal} (h : value.isPositional = true) :
    Reads (callArgument call) [value.token]
      { call with positional := call.positional ++ [value] } EndsArgument := by
  intro cur rest htokens hrest
  refine ⟨cur.next, ?_, by rw [Cursor.tokens_next, htokens]; rfl⟩
  rw [callArgument_eq_plain call htokens hrest, plainArgument, Cursor.token?_eq_head?, htokens]
  cases value with
  | number raw => rfl
  | text value => rfl
  | bool value => cases h

theorem reads_argument {call : Call} (hnone : call.argument = none)
    (hpositional : call.positional = []) {argument : Argument}
    (hdistinct : call.distinct = true -> exists name, argument = .field name) :
    Reads (callArgument call) argument.tokens { call with argument := some argument }
      EndsArgument := by
  intro cur rest htokens hrest
  cases argument with
  | star =>
      have hplain : call.distinct = false := by
        rw [Bool.eq_false_iff]
        intro h
        rcases hdistinct h with ⟨name, heq⟩
        cases heq
      refine ⟨cur.next, ?_, by rw [Cursor.tokens_next, htokens]; rfl⟩
      rw [callArgument_eq_plain call htokens hrest, plainArgument, Cursor.token?_eq_head?, htokens]
      show (if _ then _ else _) = _
      rw [hnone, hpositional, hplain]
      rfl
  | field name =>
      refine ⟨cur.next, ?_, by rw [Cursor.tokens_next, htokens]; rfl⟩
      rw [callArgument_eq_plain call htokens hrest, plainArgument, Cursor.token?_eq_head?, htokens]
      show (call.withField name cur.position >>= _) = _
      rw [Call.withField, hnone]
      rfl

/-- The arguments lead from one call to the other, one after the other. -/
inductive Feeds : Call -> List (List Token) -> Call -> Prop
  | done (call : Call) : Feeds call [] call
  | step {first next last : Call} {part : List Token} {parts : List (List Token)}
      (here : Reads (callArgument first) part next EndsArgument) (more : Feeds next parts last) :
      Feeds first (part :: parts) last

theorem Feeds.trans {first next last : Call} {parts others : List (List Token)}
    (h : Feeds first parts next) (hothers : Feeds next others last) :
    Feeds first (parts ++ others) last := by
  induction h with
  | done _ => exact hothers
  | step here _ ih => exact .step here (ih hothers)

theorem Feeds.eq_of_nil {first last : Call} (h : Feeds first [] last) : first = last := by
  cases h
  rfl

theorem feeds_named (call : Call) (parameters : List (String × Literal)) :
    Feeds call (parameters.map parameterTokens)
      { call with named := call.named ++ parameters } := by
  induction parameters generalizing call with
  | nil =>
      rw [List.append_nil]
      exact .done call
  | cons parameter rest ih =>
      have hrest := ih { call with named := call.named ++ [parameter] }
      rw [List.append_assoc, List.singleton_append] at hrest
      exact .step ((reads_named call parameter).mono (fun _ _ => trivial)) hrest

theorem feeds_positional (call : Call) {values : List Literal}
    (h : forall value, value ∈ values -> value.isPositional = true) :
    Feeds call (values.map (fun value => [value.token]))
      { call with positional := call.positional ++ values } := by
  induction values generalizing call with
  | nil =>
      rw [List.append_nil]
      exact .done call
  | cons value rest ih =>
      have hrest := ih { call with positional := call.positional ++ [value] }
        (fun value hvalue => h value (List.mem_cons_of_mem _ hvalue))
      rw [List.append_assoc, List.singleton_append] at hrest
      exact .step (reads_positional call (h value List.mem_cons_self)) hrest

/-- The call before its arguments are read, at the place where it starts. -/
def Call.opened (call : Call) (position : Nat) : Call :=
  { function := call.function
    position := position
    distinct := call.distinct
    argument := none
    named := []
    positional := [] }

theorem feeds_argument {call : Call} (h : call.WellFormed) (position : Nat) :
    Feeds (call.opened position) (call.argument.toList.map Argument.tokens)
      { call.opened position with argument := call.argument } := by
  cases hargument : call.argument with
  | none => exact .done _
  | some argument =>
      refine .step (reads_argument rfl rfl ?_) (.done _)
      intro hdistinct
      rcases h.distinct hdistinct with ⟨name, hname⟩
      rw [hargument] at hname
      exact ⟨name, Option.some.inj hname⟩

theorem feeds_call {call : Call} (h : call.WellFormed) (position : Nat) :
    Feeds (call.opened position) call.argumentTokens { call with position := position } :=
  ((feeds_argument h position).trans (feeds_named _ call.named)).trans
    (feeds_positional _ (fun value hvalue => (h.positional value hvalue).right))

theorem reads_callArguments {first last : Call} {parts : List (List Token)}
    (h : Feeds first parts last) (hne : parts ≠ []) {rounds : Nat}
    (hrounds : parts.length <= rounds) :
    Reads (callArguments rounds first) (commaTokens parts ++ [.rightParen]) last
      (fun _ => True) := by
  induction h generalizing rounds with
  | done _ => exact absurd rfl hne
  | @step first next last part parts here more ih =>
      intro cur rest htokens _
      cases rounds with
      | zero => simp at hrounds
      | succ rounds =>
          cases parts with
          | nil =>
              cases more
              rw [commaTokens, List.intercalate_singleton, List.append_assoc] at htokens
              rcases here cur _ htokens (.inr rfl) with ⟨after, hcall, hafter⟩
              refine ⟨after.next, ?_, by rw [Cursor.tokens_next, hafter]; rfl⟩
              simp only [callArguments, hcall, ok_bind, Cursor.token?_eq_head?, hafter]
              rfl
          | cons second others =>
              rw [commaTokens, List.intercalate_cons_cons, List.append_assoc, List.append_assoc,
                List.append_assoc] at htokens
              rcases here cur _ htokens (.inl rfl) with ⟨after, hcall, hafter⟩
              rcases ih (by simp) (by simpa using hrounds) after.next rest
                  (by rw [Cursor.tokens_next, hafter, List.append_assoc]; rfl) trivial
                with ⟨last, hcalls, hlast⟩
              refine ⟨last, ?_, hlast⟩
              simp only [callArguments, hcall, ok_bind, Cursor.token?_eq_head?, hafter]
              exact hcalls

/-!
# Whole calls
-/

theorem argumentTokens_head {call : Call} {part : List Token} (h : part ∈ call.argumentTokens)
    (hpositional : forall value, value ∈ call.positional -> value.isPositional = true) :
    exists token more, part = token :: more ∧ token ≠ .rightParen
      ∧ token.isKeyword "DISTINCT" = false := by
  simp only [Call.argumentTokens, List.mem_append, List.mem_map] at h
  rcases h with (⟨argument, _, rfl⟩ | ⟨parameter, _, rfl⟩) | ⟨value, hvalue, rfl⟩
  · cases argument with
    | star => exact ⟨.star, [], rfl, by simp, rfl⟩
    | field name => exact ⟨.quotedName name, [], rfl, by simp, rfl⟩
  · exact ⟨.quotedText parameter.1, _, rfl, by simp, rfl⟩
  · have hplain := hpositional value hvalue
    cases value with
    | number raw => exact ⟨.number raw, [], rfl, by simp, rfl⟩
    | text value => exact ⟨.quotedText value, [], rfl, by simp, rfl⟩
    | bool value => cases hplain

theorem commaTokens_head {parts : List (List Token)} {part : List Token} (rest : List Token)
    (hpart : parts.head? = some part) {token : Token} {more : List Token}
    (h : part = token :: more) : exists tail, commaTokens parts ++ rest = token :: tail := by
  match parts, hpart with
  | [_], rfl => exact ⟨more ++ rest, by rw [commaTokens, List.intercalate_singleton, h]; rfl⟩
  | _ :: second :: others, rfl =>
      refine ⟨more ++ ([Token.comma] ++ commaTokens (second :: others)) ++ rest, ?_⟩
      rw [commaTokens, List.intercalate_cons_cons, h]
      simp [commaTokens]

theorem length_le_length_commaTokens (parts : List (List Token)) (rest : List Token) :
    parts.length <= (commaTokens parts ++ rest).length + 1 := by
  have hle := length_le_length_intercalate Token.comma parts
  rw [commaTokens, List.length_append]
  omega

theorem callArguments_eq_ok {call : Call} (h : call.WellFormed) (position : Nat)
    (hne : call.argumentTokens ≠ []) {cur : Cursor} {rest : List Token}
    (htokens : cur.tokens = commaTokens call.argumentTokens ++ [.rightParen] ++ rest) :
    exists after,
      callArguments (cur.rest.length + 1) (call.opened position) cur
        = .ok ({ call with position := position }, after)
      ∧ after.tokens = rest := by
  refine reads_callArguments (feeds_call h position) hne ?_ cur rest htokens trivial
  rw [<- Cursor.length_tokens, htokens, List.append_assoc]
  exact length_le_length_commaTokens _ _

section

variable {written : Call} {cur : Cursor} {rest : List Token}
  (htokens : cur.tokens = commaTokens written.argumentTokens ++ [.rightParen] ++ rest)

include htokens

theorem argument_starts (h : written.WellFormed) (hne : written.argumentTokens ≠ []) :
    cur.isAt .rightParen = false ∧ cur.isAtKeyword "DISTINCT" = false := by
  rcases List.exists_cons_of_ne_nil hne with ⟨part, parts, hparts⟩
  have hpart : part ∈ written.argumentTokens := by
    rw [hparts]
    exact List.mem_cons_self
  have hhead : written.argumentTokens.head? = some part := by
    rw [hparts]
    rfl
  rcases argumentTokens_head hpart (fun value hvalue => (h.positional value hvalue).right) with
    ⟨token, more, heq, hparen, hword⟩
  rcases commaTokens_head ([.rightParen] ++ rest) hhead heq with ⟨tail, htail⟩
  have hstart : cur.tokens = token :: tail := by
    rw [htokens, List.append_assoc, htail]
  constructor
  · rw [Cursor.isAt_eq, hstart]
    simpa using hparen
  · rw [Cursor.isAtKeyword_eq, hstart]
    exact hword

theorem token?_of_field {field : String} (hfield : written.argument = some (.field field)) :
    written.argumentTokens ≠ [] ∧ cur.token? = some (.quotedName field) := by
  have hhead : written.argumentTokens.head? = some [.quotedName field] := by
    rw [Call.argumentTokens, hfield]
    rfl
  rcases commaTokens_head ([.rightParen] ++ rest) hhead rfl with ⟨tail, htail⟩
  constructor
  · intro hnil
    rw [hnil] at hhead
    cases hhead
  · rw [Cursor.token?_eq_head?, htokens, List.append_assoc, htail]
    rfl

end

theorem call_eq_ok {written : Call} (h : written.WellFormed) {cur : Cursor} {rest : List Token}
    (htokens : cur.tokens = written.tokens ++ rest) :
    exists after, call cur = .ok ({ written with position := cur.position }, after)
      ∧ after.tokens = rest := by
  have hfunction : cur.token? = some (.word written.function) := by
    rw [Cursor.token?_eq_head?, htokens]
    rfl
  have hopen : cur.next.expect .leftParen = .ok cur.next.next :=
    Cursor.expect_eq_ok (by rw [Cursor.tokens_next, htokens]; rfl)
  have hinner : cur.next.next.tokens
      = (if written.distinct then [.word "DISTINCT"] else [])
        ++ commaTokens written.argumentTokens ++ [.rightParen] ++ rest := by
    rw [Cursor.tokens_next, Cursor.tokens_next, htokens]
    rfl
  simp only [call, hfunction, hopen, ok_bind]
  generalize cur.next.next = inner at hinner
  cases hdistinct : written.distinct with
  | true =>
      -- DISTINCT stands in front of the field, which is the first argument.
      rcases h.distinct hdistinct with ⟨field, hfield⟩
      rw [hdistinct] at hinner
      have hnext : inner.next.tokens
          = commaTokens written.argumentTokens ++ [.rightParen] ++ rest := by
        rw [Cursor.tokens_next, hinner]
        rfl
      have hclose : inner.isAt .rightParen = false := by
        rw [Cursor.isAt_eq, hinner]
        rfl
      have hkeyword : inner.isAtKeyword "DISTINCT" = true := by
        rw [Cursor.isAtKeyword_eq, hinner]
        rfl
      rcases token?_of_field hnext hfield with ⟨hne, hname⟩
      have hread := callArguments_eq_ok h cur.position hne hnext
      rw [Call.opened, hdistinct] at hread
      simpa only [hclose, hkeyword, hname, Bool.false_eq_true, if_false, if_true] using hread
  | false =>
      rw [hdistinct, if_neg Bool.false_ne_true, List.nil_append] at hinner
      by_cases hparts : written.argumentTokens = []
      · have hclose : inner.isAt .rightParen = true := by
          rw [Cursor.isAt_eq, hinner, hparts]
          rfl
        have hcall := feeds_call h cur.position
        rw [hparts] at hcall
        have hopened := hcall.eq_of_nil
        rw [Call.opened, hdistinct] at hopened
        refine ⟨inner.next, ?_, by rw [Cursor.tokens_next, hinner, hparts]; rfl⟩
        rw [hclose, if_pos rfl, hopened]
      · rcases argument_starts hinner h hparts with ⟨hclose, hkeyword⟩
        have hread := callArguments_eq_ok h cur.position hparts hinner
        rw [Call.opened, hdistinct] at hread
        simpa only [hclose, hkeyword, Bool.false_eq_true, if_false] using hread

end Sql
end Rollup
