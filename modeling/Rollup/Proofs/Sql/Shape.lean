import Mathlib.Data.Bool.Basic
import Rollup.Proofs.Sql.RoundTrip

/-!
# Shape of parsed statements

Numbers of a text are numerals, and every parser takes them from the lexemes ahead as
they are. Main statement: in a statement that was parsed, junctions have two parts or more,
literals and calls are of the form that their place asks for, and conditions are of bounded
height, however long the text is.
-/

namespace Rollup
namespace Sql

/-!
# Lexemes
-/

theorem isDigits_takeWhile {cs : List Char} (h : cs.takeWhile Char.isDigit ≠ []) :
    Number.IsDigits (cs.takeWhile Char.isDigit) :=
  ⟨h, List.all_eq_true.mp (List.all_takeWhile ..)⟩

theorem isUnsigned_scanFraction {digits : List Char} (hdigits : Number.IsDigits digits)
    (cs : List Char) : Number.IsUnsigned (digits ++ (scanFraction cs).1) := by
  unfold scanFraction
  split
  · rename_i rest
    split
    · rw [List.append_nil]
      exact .whole hdigits
    · rename_i hplaces
      exact .fraction hdigits (isDigits_takeWhile hplaces)
  · rw [List.append_nil]
    exact .whole hdigits

theorem isNumeral_scanNumber {cs number rest : List Char}
    (h : scanNumber? cs = some (number, rest)) : Number.IsNumeral number := by
  unfold scanNumber? at h
  split at h
  rename_i sign unsigned hsplit
  dsimp only at h
  split at h
  · cases h
  · rename_i hdigits
    cases h
    have hunsigned := isUnsigned_scanFraction (isDigits_takeWhile hdigits)
      (unsigned.dropWhile Char.isDigit)
    rw [List.append_assoc]
    split at hsplit
    · cases hsplit
      exact .negative hunsigned
    · cases hsplit
      exact .unsigned hunsigned

/-- A token that is a number is written as a numeral. -/
def Token.IsSound (token : Token) : Prop :=
  forall raw, token = .number raw -> Number.IsNumeral raw.toList

theorem isSound_scan {cs rest : List Char} {token : Token} (h : scan? cs = some (token, rest)) :
    token.IsSound := by
  rintro raw rfl
  unfold scan? at h
  split at h
  · cases h
  split at h
  · simp at h
  split at h
  · simp at h
  split at h
  · rename_i found hnumeric
    cases h
    unfold scanNumeric? at hnumeric
    split at hnumeric
    · cases hnumeric
    · rename_i number after hnumber
      split at hnumeric
      · cases hnumeric
        rw [String.toList_ofList]
        exact isNumeral_scanNumber hnumber
      · cases hnumeric
  split at h
  · cases h
  · unfold scanSymbol? at h
    split at h <;> cases h

theorem isSound_lexemesFrom {start : Nat} {cs : List Char} {found : List Lexeme}
    (h : lexemesFrom start cs = .ok found) :
    forall lexeme, lexeme ∈ found -> lexeme.token.IsSound := by
  fun_induction lexemesFrom start cs generalizing found with
  | case1 =>
      cases h
      simp
  | case2 start c rest hseparator ih => exact ih h
  | case3 => cases h
  | case4 start c rest hseparator token after hscan hlength lexemes hlexemes ih =>
      cases h
      rw [hlexemes] at ih
      intro lexeme hlexeme
      rcases List.mem_cons.mp hlexeme with rfl | hlexeme
      · exact isSound_scan hscan
      · exact ih rfl lexeme hlexeme
  | case5 => cases h

/-!
# Parsers

A parser that starts before sound lexemes also stops before sound lexemes.
-/

namespace Cursor

def IsSound (cur : Cursor) : Prop :=
  forall lexeme, lexeme ∈ cur.rest -> lexeme.token.IsSound

theorem IsSound.next {cur : Cursor} (h : cur.IsSound) : cur.next.IsSound := by
  rcases cur with ⟨previous, _ | ⟨lexeme, rest⟩, finish⟩
  · exact h
  · exact fun other hother => h other (List.mem_cons_of_mem lexeme hother)

theorem IsSound.token {cur : Cursor} (h : cur.IsSound) {token : Token}
    (htoken : cur.token? = some token) : token.IsSound := by
  rcases cur with ⟨previous, _ | ⟨lexeme, rest⟩, finish⟩
  · cases htoken
  · cases htoken
    exact h lexeme List.mem_cons_self

theorem IsSound.expect {cur : Cursor} (h : cur.IsSound) (token : Token) :
    Ensures IsSound (cur.expect token) := by
  unfold Cursor.expect
  split
  · exact .ok h.next
  · exact .failed _

theorem IsSound.expectKeyword {cur : Cursor} (h : cur.IsSound) (keyword : String) :
    Ensures IsSound (cur.expectKeyword keyword) := by
  unfold Cursor.expectKeyword
  split
  · exact .ok h.next
  · exact .failed _

end Cursor

/-- A good value and a cursor before sound lexemes. -/
def Sound {alpha : Type} (good : alpha -> Prop) (found : alpha × Cursor) : Prop :=
  good found.1 ∧ found.2.IsSound

abbrev Passes {alpha : Type} : alpha × Cursor -> Prop :=
  Sound (fun _ => True)

def Literal.IsSound (value : Literal) : Prop :=
  forall raw, value = .number raw -> Number.IsNumeral raw.toList

theorem Literal.isSound_text (text : String) : (Literal.text text).IsSound := by
  rintro raw ⟨⟩

theorem isSound_of_boolLiteral {word : String} {value : Literal}
    (h : boolLiteral? word = some value) : value.IsSound := by
  rintro raw rfl
  unfold boolLiteral? at h
  split at h
  · cases h
  split at h <;> cases h

section

variable {cur : Cursor} (h : cur.IsSound)

include h

theorem Cursor.IsSound.number {raw : String} (htoken : cur.token? = some (.number raw)) :
    (Literal.number raw).IsSound := by
  rintro _ ⟨⟩
  exact h.token htoken raw rfl

theorem passes_name : Ensures Passes (name cur) := by
  unfold name
  split
  · split
    · exact .failed _
    · exact .bind (.unconditional _) (fun _ _ => .ok ⟨trivial, h.next⟩)
  · exact .ok ⟨trivial, h.next⟩
  · exact .failed _

theorem passes_indexName : Ensures Passes (indexName cur) := by
  unfold indexName
  split
  · split
    · exact .failed _
    · exact .ok ⟨trivial, h.next⟩
  · exact .ok ⟨trivial, h.next⟩
  · exact .failed _

theorem sound_literal : Ensures (Sound Literal.IsSound) (literal cur) := by
  unfold literal
  split
  · rename_i raw hraw
    exact .ok ⟨h.number hraw, h.next⟩
  · exact .ok ⟨Literal.isSound_text _, h.next⟩
  · split
    · rename_i word hword value hvalue
      exact .ok ⟨isSound_of_boolLiteral hvalue, h.next⟩
    · exact .failed _
  · exact .failed _

theorem passes_label : Ensures Passes (label cur) := by
  unfold label
  split
  · dsimp only
    split
    · exact .ok ⟨trivial, h.next.next⟩
    · exact .ok ⟨trivial, h.next.next⟩
    · exact .ok ⟨trivial, h.next.next⟩
    · exact .failed _
  · split
    · split
      · exact .ok ⟨trivial, h⟩
      · exact .bind (.unconditional _) (fun _ _ => .ok ⟨trivial, h.next⟩)
    · exact .ok ⟨trivial, h.next⟩
    · exact .ok ⟨trivial, h⟩

theorem sound_parameterValue : Ensures (Sound Literal.IsSound) (parameterValue cur) := by
  unfold parameterValue
  split
  · rename_i raw hraw
    exact .ok ⟨h.number hraw, h.next⟩
  · exact .ok ⟨Literal.isSound_text _, h.next⟩
  · exact .ok ⟨Literal.isSound_text _, h.next⟩
  · rename_i word hword
    refine .ok ⟨?_, h.next⟩
    cases hvalue : boolLiteral? word with
    | none => exact Literal.isSound_text word
    | some value => exact isSound_of_boolLiteral hvalue
  · exact .failed _

end

/-!
# Calls

Every round of the argument list leaves the call as it should be.
-/

/-- A literal that can be a positional argument: a bare truth value would be a field. -/
def Literal.IsPositional (value : Literal) : Prop :=
  value.IsSound ∧ value.isPositional = true

structure Call.HasShape (call : Call) : Prop where
  named : forall parameter, parameter ∈ call.named -> parameter.2.IsSound
  positional : forall value, value ∈ call.positional -> value.IsPositional
  distinct : call.distinct = true -> call.argument ≠ some .star

theorem hasShape_empty (function : String) (position : Nat) (distinct : Bool) :
    Call.HasShape
      { function := function
        position := position
        distinct := distinct
        argument := none
        named := []
        positional := [] } where
  named := fun _ hparameter => by cases hparameter
  positional := fun _ hvalue => by cases hvalue
  distinct := fun _ hstar => by cases hstar

namespace Call.HasShape

variable {call : Call} (hcall : call.HasShape)

include hcall

theorem withNamed (key : String) {value : Literal} (hvalue : value.IsSound) :
    Call.HasShape { call with named := call.named ++ [(key, value)] } where
  named := by
    rw [List.forall_mem_append, List.forall_mem_singleton]
    exact ⟨hcall.named, hvalue⟩
  positional := hcall.positional
  distinct := hcall.distinct

theorem withPositional {value : Literal} (hvalue : value.IsPositional) :
    Call.HasShape { call with positional := call.positional ++ [value] } where
  named := hcall.named
  positional := by
    rw [List.forall_mem_append, List.forall_mem_singleton]
    exact ⟨hcall.positional, hvalue⟩
  distinct := hcall.distinct

theorem withField (word : String) (position : Nat) :
    Ensures Call.HasShape (call.withField word position) := by
  unfold Call.withField
  split
  · exact .failed _
  · exact .ok
      { named := hcall.named
        positional := hcall.positional
        distinct := fun _ hstar => by cases hstar }

end Call.HasShape

section

variable {cur : Cursor} (h : cur.IsSound)

include h

theorem sound_namedArgument {call : Call} (hcall : call.HasShape) :
    Ensures (Sound Call.HasShape) (namedArgument call cur) := by
  have hnamed : forall key, Ensures (Sound Call.HasShape)
      (parameterValue cur.next.next >>= fun found =>
        Except.ok ({ call with named := call.named ++ [(key, found.1)] }, found.2)) := by
    intro key
    refine .bind (sound_parameterValue h.next.next) ?_
    rintro ⟨value, after⟩ ⟨hvalue, hafter⟩
    exact .ok ⟨hcall.withNamed key hvalue, hafter⟩
  unfold namedArgument
  dsimp only
  split <;> exact .bind (.unconditional _) (fun key _ => hnamed key)

theorem sound_plainArgument {call : Call} (hcall : call.HasShape) :
    Ensures (Sound Call.HasShape) (plainArgument call cur) := by
  have hfield : forall word, Ensures (Sound Call.HasShape)
      (call.withField word cur.position >>= fun found => Except.ok (found, cur.next)) :=
    fun word => .bind (hcall.withField word cur.position) (fun _ hfound => .ok ⟨hfound, h.next⟩)
  unfold plainArgument
  split
  · split
    · exact .failed _
    · rename_i hstar
      refine .ok ⟨⟨hcall.named, hcall.positional, ?_⟩, h.next⟩
      intro hdistinct
      rw [hdistinct, Bool.or_true] at hstar
      exact absurd rfl hstar
  · exact .bind (.unconditional _) (fun word _ => hfield word)
  · exact hfield _
  · rename_i raw hraw
    exact .ok ⟨hcall.withPositional ⟨h.number hraw, rfl⟩, h.next⟩
  · exact .ok ⟨hcall.withPositional ⟨Literal.isSound_text _, rfl⟩, h.next⟩
  · exact .failed _
  · exact .failed _

theorem sound_callArgument {call : Call} (hcall : call.HasShape) :
    Ensures (Sound Call.HasShape) (callArgument call cur) := by
  unfold callArgument
  split
  · exact sound_namedArgument h hcall
  · exact sound_plainArgument h hcall

omit h in
theorem sound_callArguments (rounds : Nat) {call : Call} (hcall : call.HasShape) {cur : Cursor}
    (h : cur.IsSound) : Ensures (Sound Call.HasShape) (callArguments rounds call cur) := by
  induction rounds generalizing call cur with
  | zero => exact .failed _
  | succ rounds ih =>
      refine .bind (sound_callArgument h hcall) ?_
      rintro ⟨call, after⟩ ⟨hcall, hafter⟩
      dsimp only
      split
      · exact ih hcall hafter.next
      · exact .ok ⟨hcall, hafter.next⟩
      · exact .failed _
      · exact .failed _

theorem sound_call : Ensures (Sound Call.HasShape) (call cur) := by
  unfold call
  split
  · refine .bind (h.next.expect .leftParen) (fun inside hinside => ?_)
    dsimp only
    split
    · exact .ok ⟨hasShape_empty _ _ _, hinside.next⟩
    split
    · split
      · exact sound_callArguments _ (hasShape_empty _ _ _) hinside.next
      · exact sound_callArguments _ (hasShape_empty _ _ _) hinside.next
      · exact .failed _
    · exact sound_callArguments _ (hasShape_empty _ _ _) hinside
  · exact .failed _

end

/-!
# Aggregate and bucket calls
-/

structure AggregateCall.HasShape (call : AggregateCall) : Prop where
  parameters : forall parameter, parameter ∈ call.parameters -> parameter.2.IsSound
  positional : forall value, value ∈ call.positional -> value.IsPositional
  distinct : call.distinct = true -> call.argument ≠ some .star

/-- The field of a bucket call is not among its parameters. -/
structure BucketCall.HasShape (bucket : BucketCall) : Prop where
  parameters : forall parameter, parameter ∈ bucket.parameters -> parameter.2.IsSound
  keys : forall parameter, parameter ∈ bucket.parameters ->
    Text.eqIgnoreAsciiCase parameter.1 "field" = false
  boundaries : forall value, value ∈ bucket.boundaries -> value.IsPositional

theorem Call.HasShape.toAggregate {call : Call} (hcall : call.HasShape) (label : Option String) :
    AggregateCall.HasShape { call.toAggregate with label := label } :=
  ⟨hcall.named, hcall.positional, hcall.distinct⟩

theorem splitField_spec (call : Call) (field : Option String) (named : List (String × Literal)) :
    Ensures (fun found => forall parameter, parameter ∈ found.2 ->
        parameter ∈ named ∧ Text.eqIgnoreAsciiCase parameter.1 "field" = false)
      (call.splitField field named) := by
  induction named generalizing field with
  | nil => exact .ok (fun _ hparameter => by cases hparameter)
  | cons first rest ih =>
      rcases first with ⟨key, value⟩
      have hlater : forall {found : Option String × List (String × Literal)},
          (forall parameter, parameter ∈ found.2 ->
            parameter ∈ rest ∧ Text.eqIgnoreAsciiCase parameter.1 "field" = false) ->
          forall parameter, parameter ∈ found.2 ->
            parameter ∈ (key, value) :: rest ∧ Text.eqIgnoreAsciiCase parameter.1 "field" = false :=
        fun hfound parameter hparameter =>
          (hfound parameter hparameter).imp_left (List.mem_cons_of_mem _)
      unfold Call.splitField
      split
      · split
        · exact .failed _
        · exact fun found hfound => hlater (ih _ found hfound)
      · rename_i hkey
        refine .bind (ih field) (fun found hfound => .ok ?_)
        intro parameter hparameter
        rcases List.mem_cons.mp hparameter with rfl | hparameter
        · exact ⟨List.mem_cons_self, Bool.eq_false_of_not_eq_true hkey⟩
        · exact hlater hfound parameter hparameter

theorem Call.HasShape.toBucket {call : Call} (hcall : call.HasShape) :
    Ensures BucketCall.HasShape call.toBucket := by
  have hbucket : forall field, Ensures BucketCall.HasShape
      (call.splitField field call.named >>= fun found =>
        Except.ok
          { function := call.function
            field := found.1
            parameters := found.2
            boundaries := call.positional }) := by
    intro field
    refine .bind (splitField_spec call field call.named) (fun found hfound => .ok ?_)
    constructor
    · exact fun parameter hparameter => hcall.named parameter (hfound parameter hparameter).left
    · exact fun parameter hparameter => (hfound parameter hparameter).right
    · exact hcall.positional
  unfold Call.toBucket
  split
  · exact .failed _
  · dsimp only
    split <;> exact .bind (.unconditional _) (fun field _ => hbucket field)

/-!
# Columns and thresholds
-/

/-- A call that refers to a column has no alias. -/
def ColumnRef.HasShape : ColumnRef -> Prop
  | .name _ => True
  | .aggregate call => call.HasShape ∧ call.label = none

structure Threshold.HasShape (threshold : Threshold) : Prop where
  target : threshold.target.HasShape
  value : threshold.value.IsSound

section

variable {cur : Cursor} (h : cur.IsSound)

include h

theorem sound_columnRef : Ensures (Sound ColumnRef.HasShape) (columnRef cur) := by
  unfold columnRef
  split
  · refine .bind (sound_call h) ?_
    rintro ⟨found, after⟩ ⟨hfound, hafter⟩
    exact .ok ⟨⟨hfound.toAggregate none, rfl⟩, hafter⟩
  · split
    · exact .ok ⟨trivial, h.next⟩
    · refine .bind (passes_name h) ?_
      rintro ⟨text, after⟩ ⟨_, hafter⟩
      exact .ok ⟨trivial, hafter⟩

theorem sound_threshold : Ensures (Sound Threshold.HasShape) (threshold cur) := by
  unfold threshold
  refine .bind (sound_columnRef h) ?_
  rintro ⟨target, after⟩ ⟨htarget, hafter⟩
  dsimp only
  split
  · refine .bind (sound_literal hafter.next) ?_
    rintro ⟨value, final⟩ ⟨hvalue, hfinal⟩
    exact .ok ⟨⟨htarget, hvalue⟩, hfinal⟩
  · exact .failed _

end

/-!
# Lists and formulas

A parser of parts that takes `levels` of nesting gives parts of a height that grows by two
with every level: parentheses can hold a disjunction of conjunctions.
-/

theorem sound_separatedWithin {alpha : Type} {isSeparator : Cursor -> Bool} {item : Parser alpha}
    {good : alpha -> Prop}
    (hitem : forall {cur : Cursor}, cur.IsSound -> Ensures (Sound good) (item cur))
    (rounds : Nat) {cur : Cursor} (h : cur.IsSound) :
    Ensures (Sound (fun values => values ≠ [] ∧ forall value, value ∈ values -> good value))
      (separatedWithin isSeparator item rounds cur) := by
  have hone : forall {value : alpha} {after : Cursor}, Sound good (value, after) ->
      Sound (fun values => values ≠ [] ∧ forall value, value ∈ values -> good value)
        ([value], after) := by
    rintro value after ⟨hvalue, hafter⟩
    exact ⟨⟨List.cons_ne_nil _ _, by simpa using hvalue⟩, hafter⟩
  induction rounds generalizing cur with
  | zero => exact .bind (hitem h) (fun _ hfound => .ok (hone hfound))
  | succ rounds ih =>
      refine .bind (hitem h) ?_
      rintro ⟨value, after⟩ hvalue
      dsimp only
      split
      · refine .bind (ih hvalue.right.next) ?_
        rintro ⟨values, final⟩ ⟨⟨_, hvalues⟩, hfinal⟩
        refine .ok ⟨⟨List.cons_ne_nil _ _, ?_⟩, hfinal⟩
        exact List.forall_mem_cons.mpr ⟨hvalue.left, hvalues⟩
      · exact .ok (hone hvalue)

/-- Junctions have two parts or more, leaves are good, and the height is limited. -/
structure Formula.IsBounded {alpha : Type} (good : alpha -> Prop) (limit : Nat)
    (formula : Formula alpha) : Prop where
  wellFormed : formula.WellFormed 2 2 good
  height : formula.height <= limit

section

variable {alpha : Type} {good : alpha -> Prop}

theorem Formula.IsBounded.mono {low high : Nat} {formula : Formula alpha}
    (h : formula.IsBounded good low) (hle : low <= high) : formula.IsBounded good high :=
  ⟨h.wellFormed, Nat.le_trans h.height hle⟩

theorem Formula.isBounded_leaf {value : alpha} (h : good value) :
    (Formula.leaf value).IsBounded good 1 where
  wellFormed := .leaf h
  height := by simp [Formula.height]

theorem Formula.IsBounded.negation {limit : Nat} {part : Formula alpha}
    (h : part.IsBounded good limit) : (Formula.negation part).IsBounded good (limit + 1) where
  wellFormed := .negation h.wellFormed
  height := by
    rw [Formula.height]
    exact Nat.succ_le_succ h.height

theorem Formula.isBounded_all {limit : Nat} {parts : List (Formula alpha)}
    (hsize : 2 <= parts.length) (h : forall part, part ∈ parts -> part.IsBounded good limit) :
    (Formula.all parts).IsBounded good (limit + 1) where
  wellFormed := .all hsize (fun part hpart => (h part hpart).wellFormed)
  height := by
    rw [Formula.height]
    exact Nat.succ_le_succ (Formula.heightOf_le (fun part hpart => (h part hpart).height))

theorem Formula.isBounded_any {limit : Nat} {parts : List (Formula alpha)}
    (hsize : 2 <= parts.length) (h : forall part, part ∈ parts -> part.IsBounded good limit) :
    (Formula.any parts).IsBounded good (limit + 1) where
  wellFormed := .any hsize (fun part hpart => (h part hpart).wellFormed)
  height := by
    rw [Formula.height]
    exact Nat.succ_le_succ (Formula.heightOf_le (fun part hpart => (h part hpart).height))

theorem isBounded_joined {join : List (Formula alpha) -> Formula alpha} {limit : Nat}
    (hjoin : forall {parts : List (Formula alpha)}, 2 <= parts.length ->
      (forall part, part ∈ parts -> part.IsBounded good limit) ->
      (join parts).IsBounded good (limit + 1))
    {parts : List (Formula alpha)} (hne : parts ≠ [])
    (h : forall part, part ∈ parts -> part.IsBounded good limit) :
    (joined join parts).IsBounded good (limit + 1) := by
  unfold joined
  split
  · exact (h _ List.mem_cons_self).mono (Nat.le_succ limit)
  · rename_i hmany
    refine hjoin ?_ h
    rcases parts with _ | ⟨first, _ | ⟨second, rest⟩⟩
    · exact absurd rfl hne
    · exact absurd rfl (hmany first)
    · exact Nat.le_add_left 2 rest.length

theorem sound_disjunction {limit : Nat} {part : Parser (Formula alpha)}
    (hpart : forall {cur : Cursor}, cur.IsSound ->
      Ensures (Sound (Formula.IsBounded good limit)) (part cur))
    {cur : Cursor} (h : cur.IsSound) :
    Ensures (Sound (Formula.IsBounded good (limit + 2))) (disjunction part cur) := by
  have hconjunction : forall {cur : Cursor}, cur.IsSound ->
      Ensures (Sound (Formula.IsBounded good (limit + 1))) (conjunction part cur) := by
    intro cur hcur
    refine .bind (sound_separatedWithin hpart _ hcur) ?_
    rintro ⟨parts, after⟩ ⟨⟨hne, hparts⟩, hafter⟩
    exact .ok ⟨isBounded_joined Formula.isBounded_all hne hparts, hafter⟩
  refine .bind (sound_separatedWithin hconjunction _ h) ?_
  rintro ⟨parts, after⟩ ⟨⟨hne, hparts⟩, hafter⟩
  exact .ok ⟨isBounded_joined Formula.isBounded_any hne hparts, hafter⟩

theorem sound_formulaPart {leaf : Parser alpha}
    (hleaf : forall {cur : Cursor}, cur.IsSound -> Ensures (Sound good) (leaf cur))
    (levels : Nat) {cur : Cursor} (h : cur.IsSound) :
    Ensures (Sound (Formula.IsBounded good (2 * levels + 1))) (formulaPart leaf levels cur) := by
  have hvalue : forall limit, forall {cur : Cursor}, cur.IsSound ->
      Ensures (Sound (Formula.IsBounded good (limit + 1)))
        (leaf cur >>= fun value => Except.ok (Formula.leaf value.1, value.2)) := by
    intro limit cur hcur
    refine .bind (hleaf hcur) ?_
    rintro ⟨value, after⟩ ⟨hvalue, hafter⟩
    exact .ok ⟨(Formula.isBounded_leaf hvalue).mono (Nat.le_add_left 1 limit), hafter⟩
  induction levels generalizing cur with
  | zero =>
      unfold formulaPart
      split
      · exact .failed _
      split
      · exact .failed _
      · exact hvalue 0 h
  | succ levels ih =>
      unfold formulaPart
      split
      · refine .bind (ih h.next) ?_
        rintro ⟨part, after⟩ ⟨hpart, hafter⟩
        exact .ok ⟨hpart.negation.mono (Nat.le_succ _), hafter⟩
      split
      · refine .bind (sound_disjunction ih h.next) ?_
        rintro ⟨part, after⟩ ⟨hpart, hafter⟩
        exact .bind (hafter.expect .rightParen) (fun final hfinal => .ok ⟨hpart, hfinal⟩)
      · exact hvalue (2 * (levels + 1)) h

theorem sound_formula {leaf : Parser alpha}
    (hleaf : forall {cur : Cursor}, cur.IsSound -> Ensures (Sound good) (leaf cur))
    {cur : Cursor} (h : cur.IsSound) :
    Ensures (Sound (Formula.IsBounded good (2 * maxNesting + 3))) (formula leaf cur) :=
  sound_disjunction (sound_formulaPart hleaf maxNesting) h

end

/-!
# Clauses
-/

def Predicate.HasShape : Predicate -> Prop
  | .compare _ _ value => value.IsSound
  | .like _ _ _ => True
  | .member _ values _ => values ≠ [] ∧ forall value, value ∈ values -> value.IsSound
  | .between _ low high _ => low.IsSound ∧ high.IsSound
  | .isNull _ _ => True

def SelectItem.HasShape : SelectItem -> Prop
  | .aggregate call => call.HasShape
  | _ => True

def GroupTerm.HasShape : GroupTerm -> Prop
  | .plain _ => True
  | .call bucket => bucket.HasShape

theorem sound_rangePredicate {cur : Cursor} (h : cur.IsSound) (field : String) (negated : Bool) :
    Ensures (Sound Predicate.HasShape) (rangePredicate field negated cur) := by
  unfold rangePredicate
  split
  · dsimp only
    split
    · exact .ok ⟨trivial, h.next.next⟩
    · exact .failed _
  split
  · refine .bind (h.next.expect .leftParen) (fun inside hinside => ?_)
    refine .bind (sound_separatedWithin sound_literal _ hinside) ?_
    rintro ⟨values, after⟩ ⟨hvalues, hafter⟩
    exact .bind (hafter.expect .rightParen) (fun final hfinal => .ok ⟨hvalues, hfinal⟩)
  split
  · refine .bind (sound_literal h.next) ?_
    rintro ⟨low, after⟩ ⟨hlow, hafter⟩
    refine .bind (hafter.expectKeyword "AND") (fun between hbetween => ?_)
    refine .bind (sound_literal hbetween) ?_
    rintro ⟨high, final⟩ ⟨hhigh, hfinal⟩
    exact .ok ⟨⟨hlow, hhigh⟩, hfinal⟩
  · exact .failed _

theorem sound_predicate {cur : Cursor} (h : cur.IsSound) :
    Ensures (Sound Predicate.HasShape) (predicate cur) := by
  unfold predicate
  refine .bind (passes_name h) ?_
  rintro ⟨field, after⟩ ⟨_, hafter⟩
  dsimp only
  split
  · split
    · exact .failed _
    · refine .bind (sound_literal hafter.next) ?_
      rintro ⟨value, final⟩ ⟨hvalue, hfinal⟩
      exact .ok ⟨hvalue, hfinal⟩
  split
  · split
    · exact .bind (hafter.next.next.expectKeyword "NULL") (fun _ hfinal => .ok ⟨trivial, hfinal⟩)
    · exact .bind (hafter.next.expectKeyword "NULL") (fun _ hfinal => .ok ⟨trivial, hfinal⟩)
  split
  · exact sound_rangePredicate hafter.next field true
  · exact sound_rangePredicate hafter field false

theorem sound_selectItem {cur : Cursor} (h : cur.IsSound) :
    Ensures (Sound SelectItem.HasShape) (selectItem cur) := by
  unfold selectItem
  split
  · exact .ok ⟨trivial, h.next⟩
  split
  · refine .bind (sound_call h) ?_
    rintro ⟨found, after⟩ ⟨hfound, hafter⟩
    refine .bind (passes_label hafter) ?_
    rintro ⟨label?, final⟩ ⟨_, hfinal⟩
    exact .ok ⟨hfound.toAggregate label?, hfinal⟩
  · have hfield : Ensures (Sound SelectItem.HasShape)
        (name cur >>= fun field => label field.2 >>= fun label? =>
          Except.ok (SelectItem.field field.1 label?.1, label?.2)) := by
      refine .bind (passes_name h) ?_
      rintro ⟨field, after⟩ ⟨_, hafter⟩
      refine .bind (passes_label hafter) ?_
      rintro ⟨label?, final⟩ ⟨_, hfinal⟩
      exact .ok ⟨trivial, hfinal⟩
    split
    · exact hfield
    · exact hfield
    · exact .failed _

theorem passes_source {cur : Cursor} (h : cur.IsSound) : Ensures Passes (source cur) := by
  have htype : forall index : String, forall {after : Cursor}, after.IsSound -> Ensures Passes
      (if after.isAt .slash then
        indexName after.next >>= fun found =>
          Except.ok (({ index := index, docType := some found.1 } : Source), found.2)
      else
        .ok ({ index := index, docType := none }, after)) := by
    intro index after hafter
    split
    · refine .bind (passes_indexName hafter.next) ?_
      exact fun found hfound => .ok ⟨trivial, hfound.right⟩
    · exact .ok ⟨trivial, hafter⟩
  unfold source
  dsimp only
  split
  · exact htype "*" h.next
  · exact .bind (passes_indexName h) (fun found hfound => htype found.1 hfound.right)

theorem sound_groupTerm {cur : Cursor} (h : cur.IsSound) :
    Ensures (Sound GroupTerm.HasShape) (groupTerm cur) := by
  unfold groupTerm
  split
  · refine .bind (sound_call h) ?_
    rintro ⟨found, after⟩ ⟨hfound, hafter⟩
    exact .bind hfound.toBucket (fun _ hbucket => .ok ⟨hbucket, hafter⟩)
  · refine .bind (passes_name h) ?_
    rintro ⟨field, after⟩ ⟨_, hafter⟩
    exact .ok ⟨trivial, hafter⟩

theorem sound_orderItem {cur : Cursor} (h : cur.IsSound) :
    Ensures (Sound (fun item => item.target.HasShape)) (orderItem cur) := by
  unfold orderItem
  refine .bind (sound_columnRef h) ?_
  rintro ⟨target, after⟩ ⟨htarget, hafter⟩
  dsimp only
  split
  · exact .ok ⟨htarget, hafter.next⟩
  split
  · exact .ok ⟨htarget, hafter.next⟩
  · exact .ok ⟨htarget, hafter⟩

theorem sound_clause {alpha : Type} {good : alpha -> Prop} {body : Parser alpha}
    (hbody : forall {cur : Cursor}, cur.IsSound -> Ensures (Sound good) (body cur))
    (keyword : String) {cur : Cursor} (h : cur.IsSound) :
    Ensures (Sound (fun value? => forall value, value? = some value -> good value))
      (clause? keyword body cur) := by
  unfold clause?
  split
  · refine .bind (hbody h.next) ?_
    rintro ⟨value, after⟩ ⟨hvalue, hafter⟩
    refine .ok ⟨?_, hafter⟩
    rintro _ ⟨⟩
    exact hvalue
  · exact .ok ⟨fun _ hnone => (nomatch hnone), h⟩

theorem sound_listClause {alpha : Type} {good : alpha -> Prop} {item : Parser alpha}
    (hitem : forall {cur : Cursor}, cur.IsSound -> Ensures (Sound good) (item cur))
    (keyword : String) {cur : Cursor} (h : cur.IsSound) :
    Ensures (Sound (fun values? => forall value, value ∈ values?.getD [] -> good value))
      (clause? keyword (listBy item) cur) := by
  have hlist : forall {cur : Cursor}, cur.IsSound ->
      Ensures (Sound (fun values => values ≠ [] ∧ forall value, value ∈ values -> good value))
        (listBy item cur) :=
    fun hcur => .bind (hcur.expectKeyword "BY")
      (fun _ hafter => sound_separatedWithin hitem _ hafter)
  rintro ⟨values?, after⟩ hfound
  rcases sound_clause hlist keyword h _ hfound with ⟨hvalues, hafter⟩
  refine ⟨?_, hafter⟩
  intro value hvalue
  cases values? with
  | none => cases hvalue
  | some values => exact (hvalues values rfl).right value hvalue

/-!
# Statements
-/

/-- What parsing makes sure of. The height of a condition is at most 2 * 128 + 3. -/
structure Statement.HasShape (statement : Statement) : Prop where
  select_ne_nil : statement.select ≠ []
  select : forall item, item ∈ statement.select -> item.HasShape
  filter : forall condition, statement.filter = some condition ->
    condition.IsBounded Predicate.HasShape 259
  groups : forall term, term ∈ statement.groups -> term.HasShape
  having : forall condition, statement.having = some condition ->
    condition.IsBounded Threshold.HasShape 259
  order : forall item, item ∈ statement.order -> item.target.HasShape

theorem hasShape_statement {cur : Cursor} (h : cur.IsSound) :
    Ensures Statement.HasShape (statement cur) := by
  unfold statement
  refine .bind (h.expectKeyword "SELECT") (fun start hstart => ?_)
  refine .bind (sound_separatedWithin sound_selectItem _ hstart) ?_
  rintro ⟨select, cur⟩ ⟨⟨hne, hselect⟩, hcur⟩
  dsimp only
  split
  · exact .failed _
  refine .bind (passes_source hcur.next) ?_
  rintro ⟨source, cur⟩ ⟨_, hcur⟩
  refine .bind (sound_clause (sound_formula sound_predicate) "WHERE" hcur) ?_
  rintro ⟨filter, cur⟩ ⟨hfilter, hcur⟩
  refine .bind (sound_listClause sound_groupTerm "GROUP" hcur) ?_
  rintro ⟨groups?, cur⟩ ⟨hgroups, hcur⟩
  refine .bind (sound_clause (sound_formula sound_threshold) "HAVING" hcur) ?_
  rintro ⟨having, cur⟩ ⟨hhaving, hcur⟩
  refine .bind (sound_listClause sound_orderItem "ORDER" hcur) ?_
  rintro ⟨order?, cur⟩ ⟨horder, hcur⟩
  refine .bind (.unconditional _) (fun limit _ => ?_)
  dsimp only
  split
  · exact .failed _
  · exact .ok ⟨hne, hselect, hfilter, hgroups, hhaving, horder⟩

theorem ensures_parse {wanted : Statement -> Prop}
    (h : forall {cur : Cursor}, cur.IsSound -> Ensures wanted (statement cur)) (text : String) :
    Ensures wanted (parse text) := by
  unfold parse
  split
  · exact .failed _
  · exact .bind (fun _ hfound => isSound_lexemesFrom hfound) (fun _ hfound => h hfound)

/-- Junctions of the conditions have a part, and thresholds compare with numerals. -/
structure Statement.IsSound (statement : Statement) : Prop where
  filter : forall condition, statement.filter = some condition ->
    condition.WellFormed 1 1 (fun _ => True)
  having : forall condition, statement.having = some condition ->
    condition.WellFormed 1 1 (fun threshold => threshold.value.IsSound)

theorem isSound_parse {text : String} : Ensures Statement.IsSound (parse text) := by
  intro statement hparse
  have hshape := ensures_parse hasShape_statement text statement hparse
  constructor
  · intro condition hcondition
    exact (hshape.filter condition hcondition).wellFormed.mono (by decide) (by decide)
      (fun _ _ => trivial)
  · intro condition hcondition
    exact (hshape.having condition hcondition).wellFormed.mono (by decide) (by decide)
      (fun _ hthreshold => hthreshold.value)

theorem hasShape_parse {text : String} {statement : Statement} (h : parse text = .ok statement) :
    statement.HasShape :=
  ensures_parse hasShape_statement text statement h

theorem hasShape_parse_usersByAge :
    parse usersByAge.canonicalText = .ok usersByAge ∧ usersByAge.HasShape := by
  have hparse : parse usersByAge.canonicalText = .ok usersByAge :=
    parse_of_spells wellFormed_usersByAge (spells_canonicalText wellFormed_usersByAge)
  exact ⟨hparse, hasShape_parse hparse⟩

end Sql
end Rollup
