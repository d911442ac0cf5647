import Rollup.Proofs.Outcome
import Rollup.Sql.Parser

/-!
# Movement of cursors

One statement for each parser says how many lexemes it passes at least where it succeeds,
and that it reports an error at a place of the text where it fails: a lexeme from the
cursor on, the lexeme taken last, or the end.
-/

namespace Rollup
namespace Sql

variable {alpha beta : Type}

namespace Cursor

/-- The second cursor stands `least` lexemes or more behind the first one. -/
def Passes (least : Nat) (cur after : Cursor) : Prop :=
  exists taken : List Lexeme, least <= taken.length ∧ cur.rest = taken ++ after.rest
    ∧ after.previous = taken.getLast?.or cur.previous ∧ after.finish = cur.finish

/-- Where an error can be reported from this cursor on. -/
def IsPlace (cur : Cursor) (position : Nat) : Prop :=
  position = cur.finish
    ∨ exists lexeme, (lexeme ∈ cur.rest ∨ cur.previous = some lexeme) ∧ position = lexeme.start

theorem Passes.refl (cur : Cursor) : cur.Passes 0 cur :=
  ⟨[], Nat.le_refl 0, rfl, rfl, rfl⟩

theorem Passes.trans {m n : Nat} {cur middle after : Cursor} (h : cur.Passes m middle)
    (hlater : middle.Passes n after) : cur.Passes (m + n) after := by
  rcases h with ⟨taken, hlength, hrest, hprevious, hfinish⟩
  rcases hlater with ⟨more, hmore, hrest', hprevious', hfinish'⟩
  refine ⟨taken ++ more, ?_, ?_, ?_, ?_⟩
  · rw [List.length_append]
    omega
  · rw [hrest, hrest', List.append_assoc]
  · rw [hprevious', hprevious, List.getLast?_append, Option.or_assoc]
  · rw [hfinish', hfinish]

theorem Passes.mono {less least : Nat} {cur after : Cursor} (h : cur.Passes least after)
    (hle : less <= least) : cur.Passes less after := by
  rcases h with ⟨taken, hlength, hsame⟩
  exact ⟨taken, Nat.le_trans hle hlength, hsame⟩

theorem Passes.isPlace {least : Nat} {cur after : Cursor} (h : cur.Passes least after)
    {position : Nat} (hplace : after.IsPlace position) : cur.IsPlace position := by
  rcases h with ⟨taken, _, hrest, hprevious, hfinish⟩
  rcases hplace with rfl | ⟨lexeme, hlexeme, rfl⟩
  · exact .inl hfinish
  refine .inr ⟨lexeme, ?_, rfl⟩
  rw [hrest, List.mem_append]
  rcases hlexeme with hahead | hlast
  · exact .inl (.inr hahead)
  · rw [hprevious, Option.or_eq_some_iff] at hlast
    rcases hlast with htaken | ⟨_, hbefore⟩
    · exact .inl (.inl (List.mem_of_getLast? htaken))
    · exact .inr hbefore

theorem isPlace_position (cur : Cursor) : cur.IsPlace cur.position := by
  unfold position
  split
  · rename_i lexeme rest hrest
    exact .inr ⟨lexeme, .inl (by rw [hrest]; exact List.mem_cons_self), rfl⟩
  · exact .inl rfl

theorem isPlace_previousPosition (cur : Cursor) : cur.IsPlace cur.previousPosition := by
  unfold previousPosition
  split
  · rename_i lexeme hlexeme
    exact .inr ⟨lexeme, .inr hlexeme, rfl⟩
  · exact .inl rfl

/-!
# Steps
-/

theorem passes_next {cur : Cursor} {token : Token} (h : cur.token? = some token) :
    cur.Passes 1 cur.next := by
  rcases cur with ⟨previous, _ | ⟨lexeme, rest⟩, finish⟩
  · cases h
  · exact ⟨[lexeme], Nat.le_refl 1, rfl, rfl, rfl⟩

theorem stays_next (cur : Cursor) : cur.Passes 0 cur.next := by
  rcases cur with ⟨previous, _ | ⟨lexeme, rest⟩, finish⟩
  · exact .refl _
  · exact ⟨[lexeme], Nat.zero_le 1, rfl, rfl, rfl⟩

theorem passes_two {cur : Cursor} {token : Token} (h : cur.second? = some token) :
    cur.Passes 2 cur.next.next := by
  rcases cur with ⟨previous, _ | ⟨first, _ | ⟨second, rest⟩⟩, finish⟩
  · cases h
  · cases h
  · exact ⟨[first, second], Nat.le_refl 2, rfl, rfl, rfl⟩

theorem token?_of_isAt {cur : Cursor} {token : Token} (h : cur.isAt token = true) :
    cur.token? = some token :=
  beq_iff_eq.mp h

theorem token?_of_isAtKeyword {cur : Cursor} {keyword : String}
    (h : cur.isAtKeyword keyword = true) : exists token, cur.token? = some token := by
  unfold isAtKeyword at h
  split at h
  · exact ⟨_, by assumption⟩
  · cases h

theorem passes_keyword {cur : Cursor} {keyword : String} (h : cur.isAtKeyword keyword = true) :
    cur.Passes 1 cur.next := by
  rcases token?_of_isAtKeyword h with ⟨token, htoken⟩
  exact passes_next htoken

end Cursor

/-!
# Outcomes
-/

def FailsAt (cur : Cursor) (x : Except SyntaxError alpha) : Prop :=
  forall e, x = .error e -> cur.IsPlace e.position

/-- The computation ends `least` lexemes or more behind the cursor, or it fails at a place
of the cursor. -/
structure Goes (view : alpha -> Cursor) (least : Nat) (cur : Cursor)
    (x : Except SyntaxError alpha) : Prop where
  passes : forall a, x = .ok a -> cur.Passes least (view a)
  failsAt : FailsAt cur x

theorem Goes.still {cur : Cursor} {x : Except SyntaxError alpha} (h : FailsAt cur x) :
    Goes (fun _ => cur) 0 cur x :=
  ⟨fun _ _ => .refl cur, h⟩

theorem FailsAt.ok (cur : Cursor) (a : alpha) : FailsAt cur (.ok a) := by
  rintro _ ⟨⟩

theorem FailsAt.failed {cur : Cursor} {position : Nat} (h : cur.IsPlace position)
    (fault : Fault) :
    FailsAt cur (.error { position := position, fault := fault } : Except SyntaxError alpha) := by
  rintro _ ⟨⟩
  exact h

theorem FailsAt.fail (cur : Cursor) (fault : Fault) :
    FailsAt cur (cur.fail fault : Except SyntaxError alpha) :=
  .failed cur.isPlace_position fault

theorem FailsAt.later {least : Nat} {cur after : Cursor} {x : Except SyntaxError alpha}
    (hpasses : cur.Passes least after) (h : FailsAt after x) : FailsAt cur x :=
  fun e he => hpasses.isPlace (h e he)

section

variable {view : alpha -> Cursor} {final : beta -> Cursor} {m n least : Nat} {cur : Cursor}
  {x : Except SyntaxError alpha} {f : alpha -> Except SyntaxError beta}

theorem FailsAt.bind (hx : Goes view m cur x)
    (hf : forall a, cur.Passes m (view a) -> FailsAt (view a) (f a)) : FailsAt cur (x >>= f) := by
  intro e he
  rcases bind_eq_error_iff.mp he with hfails | ⟨a, ha, hfails⟩
  · exact hx.failsAt e hfails
  · exact (hf a (hx.passes a ha)).later (hx.passes a ha) e hfails

namespace Goes

theorem ok {a : alpha} (h : cur.Passes least (view a)) : Goes view least cur (.ok a) := by
  refine ⟨?_, .ok cur a⟩
  rintro _ ⟨⟩
  exact h

theorem failed {position : Nat} (h : cur.IsPlace position) (fault : Fault) :
    Goes view least cur (.error { position := position, fault := fault }) := by
  refine ⟨?_, .failed h fault⟩
  rintro _ ⟨⟩

theorem fail (fault : Fault) : Goes view least cur (cur.fail fault) :=
  failed cur.isPlace_position fault

theorem failBefore (fault : Fault) : Goes view least cur (cur.failBefore fault) :=
  failed cur.isPlace_previousPosition fault

theorem mono (h : Goes view n cur x) (hle : least <= n) : Goes view least cur x :=
  ⟨fun a ha => (h.passes a ha).mono hle, h.failsAt⟩

theorem later {after : Cursor} (hpasses : cur.Passes m after)
    (h : Goes view (least - m) after x) : Goes view least cur x :=
  ⟨fun a ha => (hpasses.trans (h.passes a ha)).mono (by omega), h.failsAt.later hpasses⟩

theorem bind (hx : Goes view m cur x)
    (hf : forall a, cur.Passes m (view a) -> Goes final (least - m) (view a) (f a)) :
    Goes final least cur (x >>= f) := by
  refine ⟨?_, .bind hx (fun a ha => (hf a ha).failsAt)⟩
  intro b hb
  rcases bind_eq_ok_iff.mp hb with ⟨a, ha, hfa⟩
  have hpasses := hx.passes a ha
  exact (hpasses.trans ((hf a hpasses).passes b hfa)).mono (by omega)

end Goes

end

abbrev Moves (least : Nat) (cur : Cursor) (x : Except SyntaxError (alpha × Cursor)) : Prop :=
  Goes Prod.snd least cur x

section

variable (cur : Cursor)

theorem goes_expect (token : Token) : Goes id 1 cur (cur.expect token) := by
  unfold Cursor.expect
  split
  · rename_i hat
    exact .ok (Cursor.passes_next (Cursor.token?_of_isAt hat))
  · exact .fail _

theorem goes_expectKeyword (keyword : String) : Goes id 1 cur (cur.expectKeyword keyword) := by
  unfold Cursor.expectKeyword
  split
  · rename_i hat
    exact .ok (Cursor.passes_keyword hat)
  · exact .fail _

/-!
# Names and literals
-/

theorem failsAt_bareName (word : String) : FailsAt cur (bareName word cur.position) := by
  unfold bareName
  split
  · exact .failed cur.isPlace_position _
  · exact .ok cur word

theorem moves_name : Moves 1 cur (name cur) := by
  unfold name
  split
  · rename_i word hword
    split
    · exact .fail _
    · exact .bind (.still (failsAt_bareName cur word))
        (fun _ _ => .ok (Cursor.passes_next hword))
  · rename_i text htext
    exact .ok (Cursor.passes_next htext)
  · exact .fail _

theorem moves_indexName : Moves 1 cur (indexName cur) := by
  unfold indexName
  split
  · rename_i word hword
    split
    · exact .fail _
    · exact .ok (Cursor.passes_next hword)
  · rename_i text htext
    exact .ok (Cursor.passes_next htext)
  · exact .fail _

theorem moves_literal : Moves 1 cur (literal cur) := by
  unfold literal
  split
  · rename_i raw hraw
    exact .ok (Cursor.passes_next hraw)
  · rename_i text htext
    exact .ok (Cursor.passes_next htext)
  · rename_i word hword
    split
    · exact .ok (Cursor.passes_next hword)
    · exact .fail _
  · exact .fail _

theorem moves_label : Moves 0 cur (label cur) := by
  unfold label
  split
  · dsimp only
    split
    · exact .ok (cur.stays_next.trans cur.next.stays_next)
    · exact .ok (cur.stays_next.trans cur.next.stays_next)
    · exact .ok (cur.stays_next.trans cur.next.stays_next)
    · exact .later (cur.stays_next.trans cur.next.stays_next) (.failBefore _)
  · split
    · split
      · exact .ok (.refl cur)
      · exact .bind (.still (failsAt_bareName cur _)) (fun _ _ => .ok cur.stays_next)
    · exact .ok cur.stays_next
    · exact .ok (.refl cur)

/-!
# Calls
-/

theorem moves_parameterValue : Moves 1 cur (parameterValue cur) := by
  unfold parameterValue
  split
  · rename_i raw hraw
    exact .ok (Cursor.passes_next hraw)
  · rename_i text htext
    exact .ok (Cursor.passes_next htext)
  · rename_i text htext
    exact .ok (Cursor.passes_next htext)
  · rename_i word hword
    exact .ok (Cursor.passes_next hword)
  · exact .fail _

theorem moves_namedArgument {token : Token} (h : cur.second? = some token) (call : Call) :
    Moves 3 cur (namedArgument call cur) := by
  have hvalue : forall key, Moves 3 cur
      (parameterValue cur.next.next >>= fun found =>
        Except.ok ({ call with named := call.named ++ [(key, found.1)] }, found.2)) := by
    intro key
    refine .later (Cursor.passes_two h) ?_
    exact .bind (moves_parameterValue _) (fun found _ => .ok (.refl found.2))
  unfold namedArgument
  dsimp only
  split
  · exact hvalue _
  · exact hvalue _
  · exact hvalue _
  · exact .fail _
  · exact .fail _

theorem failsAt_withField (call : Call) (word : String) :
    FailsAt cur (call.withField word cur.position) := by
  unfold Call.withField
  split
  · exact .failed cur.isPlace_position _
  · exact .ok cur _

theorem moves_plainArgument (call : Call) : Moves 1 cur (plainArgument call cur) := by
  have hfield : forall {token : Token} (word : String), cur.token? = some token ->
      Moves 1 cur (call.withField word cur.position >>= fun found => Except.ok (found, cur.next)) :=
    fun word htoken => .bind (.still (failsAt_withField cur call word))
      (fun _ _ => .ok (Cursor.passes_next htoken))
  unfold plainArgument
  split
  · rename_i hstar
    split
    · exact .fail _
    · exact .ok (Cursor.passes_next hstar)
  · rename_i word hword
    exact .bind (.still (failsAt_bareName cur word)) (fun field _ => hfield field hword)
  · rename_i text htext
    exact hfield text htext
  · rename_i raw hraw
    exact .ok (Cursor.passes_next hraw)
  · rename_i text htext
    exact .ok (Cursor.passes_next htext)
  · exact .fail _
  · exact .fail _

theorem moves_callArgument (call : Call) : Moves 1 cur (callArgument call cur) := by
  unfold callArgument
  split
  · rename_i hnamed
    exact (moves_namedArgument cur (beq_iff_eq.mp hnamed) call).mono (by decide)
  · exact moves_plainArgument cur call

theorem moves_callArguments (rounds : Nat) (call : Call) :
    Moves 1 cur (callArguments rounds call cur) := by
  induction rounds generalizing call cur with
  | zero => exact .fail _
  | succ rounds ih =>
      refine .bind (moves_callArgument cur call) ?_
      rintro ⟨call, after⟩ _
      dsimp only
      split
      · exact .later after.stays_next ((ih after.next call).mono (Nat.zero_le 1))
      · exact .ok after.stays_next
      · exact .fail _
      · exact .fail _

theorem moves_call : Moves 2 cur (call cur) := by
  unfold call
  split
  · rename_i function hfunction
    refine .later (Cursor.passes_next hfunction) ?_
    refine .bind (goes_expect cur.next .leftParen) (fun inside _ => ?_)
    dsimp only
    split
    · exact .ok inside.stays_next
    split
    · split
      · exact .later inside.stays_next ((moves_callArguments _ _ _).mono (Nat.zero_le 1))
      · exact .later inside.stays_next ((moves_callArguments _ _ _).mono (Nat.zero_le 1))
      · exact .later inside.stays_next (.fail _)
    · exact (moves_callArguments _ _ _).mono (Nat.zero_le 1)
  · exact .fail _

/-!
# Where a call starts

Faults of a call as a whole are reported at its name, so this place is kept.
-/

theorem position_withField (call : Call) (word : String) (position : Nat) :
    Ensures (fun found => found.position = call.position) (call.withField word position) := by
  unfold Call.withField
  split
  · exact .failed _
  · exact .ok rfl

theorem position_callArgument (call : Call) :
    Ensures (fun found => found.1.position = call.position) (callArgument call cur) := by
  have hvalue : forall key, Ensures (fun found : Call × Cursor => found.1.position = call.position)
      (parameterValue cur.next.next >>= fun found =>
        Except.ok ({ call with named := call.named ++ [(key, found.1)] }, found.2)) :=
    fun key => .bind (.unconditional _) (fun _ _ => .ok rfl)
  have hfield : forall word, Ensures (fun found => found.1.position = call.position)
      (call.withField word cur.position >>= fun found => Except.ok (found, cur.next)) :=
    fun word => .bind (position_withField call word cur.position) (fun _ hfound => .ok hfound)
  unfold callArgument
  split
  · unfold namedArgument
    dsimp only
    split <;> exact .bind (.unconditional _) (fun key _ => hvalue key)
  · unfold plainArgument
    split
    · split
      · exact .failed _
      · exact .ok rfl
    · exact .bind (.unconditional _) (fun word _ => hfield word)
    · exact hfield _
    · exact .ok rfl
    · exact .ok rfl
    · exact .failed _
    · exact .failed _

theorem position_callArguments (rounds : Nat) (call : Call) :
    Ensures (fun found => found.1.position = call.position) (callArguments rounds call cur) := by
  induction rounds generalizing call cur with
  | zero => exact .failed _
  | succ rounds ih =>
      refine .bind (position_callArgument cur call) ?_
      rintro ⟨next, after⟩ hnext
      dsimp only at hnext ⊢
      split
      · rw [<- hnext]
        exact ih after.next next
      · exact .ok hnext
      · exact .failed _
      · exact .failed _

theorem position_call : Ensures (fun found => found.1.position = cur.position) (call cur) := by
  unfold call
  split
  · refine .bind (.unconditional _) (fun inside _ => ?_)
    dsimp only
    split
    · exact .ok rfl
    split
    · split
      · exact position_callArguments _ _ _
      · exact position_callArguments _ _ _
      · exact .failed _
    · exact position_callArguments _ _ _
  · exact .failed _

variable {cur}

theorem failsAt_splitField {call : Call} (h : cur.IsPlace call.position) (field : Option String)
    (named : List (String × Literal)) : FailsAt cur (call.splitField field named) := by
  induction named generalizing field with
  | nil => exact .ok cur _
  | cons first rest ih =>
      rcases first with ⟨key, value⟩
      unfold Call.splitField
      split
      · split
        · exact .failed h _
        · exact ih _
      · exact .bind (.still (ih field)) (fun _ _ => .ok cur _)

theorem failsAt_toBucket {call : Call} (h : cur.IsPlace call.position) :
    FailsAt cur call.toBucket := by
  have hbucket : forall field, FailsAt cur
      (call.splitField field call.named >>= fun found =>
        Except.ok
          ({ function := call.function
             field := found.1
             parameters := found.2
             boundaries := call.positional } : BucketCall)) :=
    fun field => .bind (.still (failsAt_splitField h field call.named)) (fun _ _ => .ok cur _)
  unfold Call.toBucket
  split
  · exact .failed h _
  · dsimp only
    split
    · exact hbucket _
    · exact .failed h _
    · exact hbucket none

/-!
# Lists and formulas
-/

theorem moves_separatedWithin {isSeparator : Cursor -> Bool} {item : Parser alpha}
    (hitem : forall cur, Moves 1 cur (item cur)) (rounds : Nat) (cur : Cursor) :
    Moves 1 cur (separatedWithin isSeparator item rounds cur) := by
  induction rounds generalizing cur with
  | zero => exact .bind (hitem cur) (fun found _ => .ok (.refl found.2))
  | succ rounds ih =>
      refine .bind (hitem cur) ?_
      rintro ⟨value, after⟩ _
      dsimp only
      split
      · refine .later after.stays_next ?_
        exact .bind (ih after.next) (fun found _ => .ok (.refl found.2))
      · exact .ok (.refl after)

theorem moves_conjunction {part : Parser (Formula alpha)}
    (hpart : forall cur, Moves 1 cur (part cur)) (cur : Cursor) :
    Moves 1 cur (conjunction part cur) :=
  .bind (moves_separatedWithin hpart _ cur) (fun found _ => .ok (.refl found.2))

theorem moves_disjunction {part : Parser (Formula alpha)}
    (hpart : forall cur, Moves 1 cur (part cur)) (cur : Cursor) :
    Moves 1 cur (disjunction part cur) :=
  .bind (moves_separatedWithin (moves_conjunction hpart) _ cur)
    (fun found _ => .ok (.refl found.2))

theorem moves_formulaPart {leaf : Parser alpha} (hleaf : forall cur, Moves 1 cur (leaf cur))
    (levels : Nat) (cur : Cursor) : Moves 1 cur (formulaPart leaf levels cur) := by
  have hvalue : forall cur, Moves 1 cur
      (leaf cur >>= fun value => Except.ok (Formula.leaf value.1, value.2)) :=
    fun cur => .bind (hleaf cur) (fun found _ => .ok (.refl found.2))
  induction levels generalizing cur with
  | zero =>
      unfold formulaPart
      split
      · exact .later cur.stays_next (.failBefore _)
      split
      · exact .later cur.stays_next (.failBefore _)
      · exact hvalue cur
  | succ levels ih =>
      unfold formulaPart
      split
      · refine .later cur.stays_next ?_
        exact .bind (ih cur.next) (fun found _ => .ok (.refl found.2))
      split
      · refine .later cur.stays_next ?_
        refine .bind (moves_disjunction ih cur.next) (fun found _ => ?_)
        exact .bind (goes_expect found.2 .rightParen)
          (fun after _ => .ok (.refl after))
      · exact hvalue cur

theorem moves_formula {leaf : Parser alpha} (hleaf : forall cur, Moves 1 cur (leaf cur))
    (cur : Cursor) : Moves 1 cur (formula leaf cur) :=
  moves_disjunction (moves_formulaPart hleaf maxNesting) cur

/-!
# Predicates and thresholds
-/

variable (cur)

theorem moves_rangePredicate (field : String) (negated : Bool) :
    Moves 0 cur (rangePredicate field negated cur) := by
  unfold rangePredicate
  split
  · dsimp only
    refine .later cur.stays_next ?_
    split
    · exact .ok cur.next.stays_next
    · exact .fail _
  split
  · refine .later cur.stays_next ?_
    refine .bind (goes_expect _ _) (fun inside _ => ?_)
    refine .bind (moves_separatedWithin moves_literal _ inside)
      (fun values _ => ?_)
    exact .bind (goes_expect _ _) (fun after _ => .ok (.refl after))
  split
  · refine .later cur.stays_next ?_
    refine .bind (moves_literal _) (fun low _ => ?_)
    refine .bind (goes_expectKeyword _ _) (fun between _ => ?_)
    exact .bind (moves_literal _) (fun high _ => .ok (.refl high.2))
  · exact .fail _

theorem moves_predicate : Moves 1 cur (predicate cur) := by
  unfold predicate
  refine .bind (moves_name cur) ?_
  rintro ⟨field, after⟩ _
  dsimp only
  split
  · refine .later after.stays_next ?_
    split
    · exact .fail _
    · exact .bind (moves_literal _) (fun value _ => .ok (.refl value.2))
  split
  · refine .later after.stays_next ?_
    split
    · refine .later after.next.stays_next ?_
      exact .bind (goes_expectKeyword _ _) (fun last _ => .ok (.refl last))
    · exact .bind (goes_expectKeyword _ _) (fun last _ => .ok (.refl last))
  split
  · exact .later after.stays_next (moves_rangePredicate _ _ _)
  · exact moves_rangePredicate _ _ _

theorem moves_columnRef : Moves 1 cur (columnRef cur) := by
  unfold columnRef
  split
  · exact .bind (moves_call cur) (fun found _ => .ok (.refl found.2))
  · split
    · rename_i text htext
      exact .ok (Cursor.passes_next htext)
    · exact .bind (moves_name cur) (fun found _ => .ok (.refl found.2))

theorem moves_threshold : Moves 1 cur (threshold cur) := by
  unfold threshold
  refine .bind (moves_columnRef cur) ?_
  rintro ⟨target, after⟩ _
  dsimp only
  split
  · refine .later after.stays_next ?_
    exact .bind (moves_literal _) (fun value _ => .ok (.refl value.2))
  · exact .fail _

/-!
# Clauses
-/

theorem moves_selectItem : Moves 1 cur (selectItem cur) := by
  have hfield : Moves 1 cur
      (name cur >>= fun field => label field.2 >>= fun label? =>
        Except.ok (SelectItem.field field.1 label?.1, label?.2)) :=
    .bind (moves_name cur) (fun field _ =>
      .bind (moves_label field.2) (fun label? _ => .ok (.refl label?.2)))
  unfold selectItem
  split
  · rename_i hstar
    exact .ok (Cursor.passes_next (Cursor.token?_of_isAt hstar))
  split
  · refine .bind (moves_call cur) (fun found _ => ?_)
    exact .bind (moves_label found.2) (fun label? _ => .ok (.refl label?.2))
  · split
    · exact hfield
    · exact hfield
    · exact .fail _

theorem moves_source : Moves 1 cur (source cur) := by
  have htype : forall (index : String) (after : Cursor), Moves 0 after
      (if after.isAt .slash then
        indexName after.next >>= fun found =>
          Except.ok (({ index := index, docType := some found.1 } : Source), found.2)
      else
        .ok ({ index := index, docType := none }, after)) := by
    intro index after
    split
    · refine .later after.stays_next ?_
      exact .bind (moves_indexName _) (fun found _ => .ok (.refl found.2))
    · exact .ok (.refl after)
  unfold source
  dsimp only
  split
  · rename_i hstar
    exact .later (Cursor.passes_next (Cursor.token?_of_isAt hstar)) (htype "*" cur.next)
  · exact .bind (moves_indexName cur) (fun found _ => htype found.1 found.2)

theorem moves_groupTerm : Moves 1 cur (groupTerm cur) := by
  unfold groupTerm
  split
  · -- What is wrong with the call as a whole is reported at its name.
    cases hcall : call cur with
    | error e => exact .failed ((moves_call cur).failsAt e hcall) e.fault
    | ok found =>
        rcases found with ⟨found, after⟩
        have hplace : cur.IsPlace found.position := by
          rw [position_call cur _ hcall]
          exact cur.isPlace_position
        have hpasses := (moves_call cur).passes _ hcall
        show Moves 1 cur (found.toBucket >>= fun bucket => Except.ok (GroupTerm.call bucket, after))
        exact .bind (.still (failsAt_toBucket hplace)) (fun _ _ => .ok (hpasses.mono (by decide)))
  · exact .bind (moves_name cur) (fun found _ => .ok (.refl found.2))

theorem moves_orderItem : Moves 1 cur (orderItem cur) := by
  unfold orderItem
  refine .bind (moves_columnRef cur) ?_
  rintro ⟨target, after⟩ _
  dsimp only
  split
  · exact .ok after.stays_next
  split
  · exact .ok after.stays_next
  · exact .ok (.refl after)

theorem moves_limit : Moves 1 cur (limit cur) := by
  unfold limit
  split
  · rename_i raw hraw
    split
    · exact .ok (Cursor.passes_next hraw)
    · exact .fail _
  · exact .fail _

theorem moves_clause {body : Parser alpha} {least : Nat}
    (hbody : forall cur, Moves least cur (body cur)) (keyword : String) :
    Moves 0 cur (clause? keyword body cur) := by
  unfold clause?
  split
  · refine .later cur.stays_next ?_
    exact .bind (hbody cur.next) (fun found _ => .ok ((Cursor.Passes.refl found.2).mono (by omega)))
  · exact .ok (.refl cur)

theorem moves_listBy {item : Parser alpha} (hitem : forall cur, Moves 1 cur (item cur)) :
    Moves 2 cur (listBy item cur) :=
  .bind (goes_expectKeyword cur "BY") (fun after _ => moves_separatedWithin hitem _ after)

theorem failsAt_statement : FailsAt cur (statement cur) := by
  unfold statement
  refine .bind (goes_expectKeyword cur "SELECT") (fun start _ => ?_)
  refine .bind (moves_separatedWithin moves_selectItem _ start) ?_
  rintro ⟨select, cur⟩ _
  dsimp only
  split
  · exact .fail cur _
  refine .later cur.stays_next ?_
  refine .bind (moves_source cur.next) ?_
  rintro ⟨source, cur⟩ _
  refine .bind (moves_clause cur (moves_formula moves_predicate) "WHERE") ?_
  rintro ⟨filter, cur⟩ _
  refine .bind (moves_clause cur (fun cur => moves_listBy cur moves_groupTerm) "GROUP") ?_
  rintro ⟨groups?, cur⟩ _
  refine .bind (moves_clause cur (moves_formula moves_threshold) "HAVING") ?_
  rintro ⟨having, cur⟩ _
  refine .bind (moves_clause cur (fun cur => moves_listBy cur moves_orderItem) "ORDER") ?_
  rintro ⟨order?, cur⟩ _
  refine .bind (moves_clause cur moves_limit "LIMIT") ?_
  rintro ⟨limit, cur⟩ _
  have hend : cur.Passes 0 (if cur.isAt .semicolon then cur.next else cur) := by
    split
    · exact cur.stays_next
    · exact .refl cur
  refine .later hend ?_
  generalize (if cur.isAt .semicolon then cur.next else cur) = last
  dsimp only
  split
  · exact .fail last _
  · exact .ok last _

end

end Sql
end Rollup
