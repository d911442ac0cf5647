import Mathlib.Algebra.Group.Nat.Defs
import Rollup.Proofs.Sql.Reading
import Rollup.Proofs.Sql.Spelling

/-!
# Canonical texts

The canonical text of a statement has its clauses in order. Field, index and type names
stand in double quotes, aliases and references to columns in single ones. The arguments of
a call are its field or star, then the parameters `'key'=value`, then the literals, and a
junction inside a formula stands in parentheses.
-/

namespace Rollup
namespace Sql

def Literal.token : Literal -> Token
  | .number raw => .number raw
  | .text value => .quotedText value
  | .bool true => .word "true"
  | .bool false => .word "false"

def commaTokens (parts : List (List Token)) : List Token :=
  [Token.comma].intercalate parts

/-!
# Calls
-/

def Argument.tokens : Argument -> List Token
  | .star => [.star]
  | .field name => [.quotedName name]

def parameterTokens (parameter : String × Literal) : List Token :=
  [.quotedText parameter.1, .comparison .eq, parameter.2.token]

namespace Call

def argumentTokens (call : Call) : List (List Token) :=
  call.argument.toList.map Argument.tokens ++ call.named.map parameterTokens
    ++ call.positional.map (fun value => [value.token])

def tokens (call : Call) : List Token :=
  .word call.function :: .leftParen
    :: ((if call.distinct then [.word "DISTINCT"] else []) ++ commaTokens call.argumentTokens
      ++ [.rightParen])

end Call

def AggregateCall.written (call : AggregateCall) : Call :=
  { function := call.function
    position := 0
    distinct := call.distinct
    argument := call.argument
    named := call.parameters
    positional := call.positional }

def BucketCall.written (bucket : BucketCall) : Call :=
  { function := bucket.function
    position := 0
    distinct := false
    argument := bucket.field.map Argument.field
    named := bucket.parameters
    positional := bucket.boundaries }

/-!
# Clauses
-/

def labelTokens : Option String -> List Token
  | none => []
  | some text => [.word "AS", .quotedText text]

def SelectItem.tokens : SelectItem -> List Token
  | .star => [.star]
  | .field name label => .quotedName name :: labelTokens label
  | .aggregate call => call.written.tokens ++ labelTokens call.label

def Source.tokens (source : Source) : List Token :=
  .quotedName source.index
    :: (source.docType.map (fun docType => [Token.slash, .quotedName docType])).getD []

def notTokens (negated : Bool) : List Token :=
  if negated then [.word "NOT"] else []

def Predicate.tokens : Predicate -> List Token
  | .compare field op value => [.quotedName field, .comparison op, value.token]
  | .like field pattern negated =>
      .quotedName field :: (notTokens negated ++ [.word "LIKE", .quotedText pattern])
  | .member field values negated =>
      .quotedName field :: (notTokens negated ++ .word "IN" :: .leftParen
        :: (commaTokens (values.map (fun value => [value.token])) ++ [.rightParen]))
  | .between field low high negated =>
      .quotedName field
        :: (notTokens negated ++ [.word "BETWEEN", low.token, .word "AND", high.token])
  | .isNull field negated =>
      .quotedName field :: .word "IS" :: (notTokens negated ++ [.word "NULL"])

def ColumnRef.tokens : ColumnRef -> List Token
  | .name text => [.quotedText text]
  | .aggregate call => call.written.tokens

def Threshold.tokens (threshold : Threshold) : List Token :=
  threshold.target.tokens ++ [.comparison threshold.op, threshold.value.token]

def GroupTerm.tokens : GroupTerm -> List Token
  | .plain field => [.quotedName field]
  | .call bucket => bucket.written.tokens

def Direction.token : Direction -> Token
  | .asc => .word "ASC"
  | .desc => .word "DESC"

def OrderItem.tokens (item : OrderItem) : List Token :=
  item.target.tokens ++ [item.direction.token]

def clauseTokens {alpha : Type} (keyword : String) (body : alpha -> List Token) :
    Option alpha -> List Token
  | none => []
  | some value => .word keyword :: body value

def nonempty? {alpha : Type} : List alpha -> Option (List alpha)
  | [] => none
  | values => some values

def byTokens {alpha : Type} (item : alpha -> List Token) (values : List alpha) : List Token :=
  .word "BY" :: commaTokens (values.map item)

namespace Statement

def tokens (statement : Statement) : List Token :=
  .word "SELECT" :: (commaTokens (statement.select.map SelectItem.tokens)
    ++ .word "FROM" :: (statement.source.tokens
    ++ (clauseTokens "WHERE" (Formula.tokens Predicate.tokens true) statement.filter
    ++ (clauseTokens "GROUP" (byTokens GroupTerm.tokens) (nonempty? statement.groups)
    ++ (clauseTokens "HAVING" (Formula.tokens Threshold.tokens true) statement.having
    ++ (clauseTokens "ORDER" (byTokens OrderItem.tokens) (nonempty? statement.order)
    ++ clauseTokens "LIMIT" (fun n => [Token.number (toString n)]) statement.limit))))))

def canonicalText (statement : Statement) : String :=
  String.ofList (layout statement.tokens)

end Statement

/-!
# Well-formed statements
-/

namespace Literal

def WellFormed : Literal -> Prop
  | .number raw => Number.IsNumeral raw.toList
  | _ => True

/-- Numbers and texts are positional arguments; a bare word would be a field. -/
def isPositional : Literal -> Bool
  | .bool _ => false
  | _ => true

end Literal

structure Call.WellFormed (call : Call) : Prop where
  word : IsWord call.function.toList
  unreserved : isReserved call.function = false
  field : forall name, call.argument = some (.field name) -> IsName name
  distinct : call.distinct = true -> exists name, call.argument = some (.field name)
  named : forall parameter, parameter ∈ call.named -> parameter.2.WellFormed
  positional : forall value, value ∈ call.positional ->
    value.WellFormed ∧ value.isPositional = true

def SelectItem.WellFormed : SelectItem -> Prop
  | .star => True
  | .field name _ => IsName name
  | .aggregate call => call.written.WellFormed

structure Source.WellFormed (source : Source) : Prop where
  index : IsName source.index
  docType : forall docType, source.docType = some docType -> IsName docType

def Predicate.WellFormed : Predicate -> Prop
  | .compare field _ value => IsName field ∧ value.WellFormed
  | .like field _ _ => IsName field
  | .member field values _ =>
      IsName field ∧ values ≠ [] ∧ forall value, value ∈ values -> value.WellFormed
  | .between field low high _ => IsName field ∧ low.WellFormed ∧ high.WellFormed
  | .isNull field _ => IsName field

def ColumnRef.WellFormed : ColumnRef -> Prop
  | .name _ => True
  | .aggregate call => call.written.WellFormed ∧ call.label = none

def Threshold.WellFormed (threshold : Threshold) : Prop :=
  threshold.target.WellFormed ∧ threshold.value.WellFormed

/-- A parameter named `field` would be taken for the field of the bucket function. -/
def GroupTerm.WellFormed : GroupTerm -> Prop
  | .plain field => IsName field
  | .call bucket =>
      bucket.written.WellFormed ∧ forall parameter, parameter ∈ bucket.parameters ->
        Text.eqIgnoreAsciiCase parameter.1 "field" = false

structure Statement.WellFormed (statement : Statement) : Prop where
  select_ne_nil : statement.select ≠ []
  select : forall item, item ∈ statement.select -> item.WellFormed
  source : statement.source.WellFormed
  filter : forall condition, statement.filter = some condition ->
    condition.WellFormed 2 2 Predicate.WellFormed ∧ condition.nesting true <= maxNesting
  groups : forall term, term ∈ statement.groups -> term.WellFormed
  having : forall condition, statement.having = some condition ->
    condition.WellFormed 2 2 Threshold.WellFormed ∧ condition.nesting true <= maxNesting
  order : forall item, item ∈ statement.order -> item.target.WellFormed
  limit : forall n, statement.limit = some n -> n < 2 ^ 64

/-!
# Canonical tokens are writable
-/

/-- Letters, digits and the like behind a first letter. -/
def hasWordShape : List Char -> Bool
  | [] => false
  | c :: rest => isWordStart c && rest.all isWordChar

theorem isWord_of_hasWordShape {cs : List Char} (h : hasWordShape cs = true) : IsWord cs := by
  cases cs with
  | nil => cases h
  | cons c rest =>
      rw [hasWordShape, Bool.and_eq_true, List.all_eq_true] at h
      exact .bare h.left h.right

theorem writable_keyword {keyword : String} (h : keyword ∈ reservedWords) :
    (Token.word keyword).Writable := by
  have hall : reservedWords.all (fun word => hasWordShape word.toList) = true := by
    decide
  exact isWord_of_hasWordShape (List.all_eq_true.mp hall keyword h)

def AllWritable (tokens : List Token) : Prop :=
  forall token, token ∈ tokens -> token.Writable

@[simp] theorem allWritable_nil : AllWritable [] :=
  fun _ h => by cases h

@[simp] theorem allWritable_cons (token : Token) (rest : List Token) :
    AllWritable (token :: rest) <-> token.Writable ∧ AllWritable rest :=
  List.forall_mem_cons

@[simp] theorem allWritable_append (tokens rest : List Token) :
    AllWritable (tokens ++ rest) <-> AllWritable tokens ∧ AllWritable rest :=
  List.forall_mem_append

theorem allWritable_intercalate {sep : Token} (hsep : sep.Writable) {parts : List (List Token)}
    (h : forall part, part ∈ parts -> AllWritable part) :
    AllWritable ([sep].intercalate parts) := by
  induction parts with
  | nil => simp
  | cons part rest ih =>
      have hpart := h part List.mem_cons_self
      have hrest := ih (fun part hpart => h part (List.mem_cons_of_mem _ hpart))
      cases rest with
      | nil => simpa using hpart
      | cons second others =>
          rw [List.intercalate_cons_cons]
          simp [hpart, hsep, hrest]

theorem allWritable_commaTokens {parts : List (List Token)}
    (h : forall part, part ∈ parts -> AllWritable part) : AllWritable (commaTokens parts) :=
  allWritable_intercalate Token.writable_comma h

theorem Literal.writable_token {value : Literal} (h : value.WellFormed) :
    value.token.Writable := by
  cases value with
  | number raw => exact h
  | text value => trivial
  | bool value => cases value <;> exact isWord_of_hasWordShape rfl

theorem allWritable_values {values : List Literal}
    (h : forall value, value ∈ values -> value.WellFormed) :
    forall part, part ∈ values.map (fun value => [value.token]) -> AllWritable part := by
  rw [List.forall_mem_map]
  intro value hvalue
  simp [Literal.writable_token (h value hvalue)]

theorem Call.allWritable_tokens {call : Call} (h : call.WellFormed) : AllWritable call.tokens := by
  have hargument : forall part, part ∈ call.argument.toList.map Argument.tokens ->
      AllWritable part := by
    rw [List.forall_mem_map]
    intro argument hargument
    cases argument with
    | star => simp [Argument.tokens]
    | field name =>
        have hname : IsName name := h.field name (Option.mem_toList.mp hargument)
        simp [Argument.tokens, hname]
  have hnamed : forall part, part ∈ call.named.map parameterTokens -> AllWritable part := by
    rw [List.forall_mem_map]
    intro parameter hparameter
    have hvalue := Literal.writable_token (h.named parameter hparameter)
    simp [parameterTokens, hvalue]
  have hpositional := allWritable_values
    (fun value hvalue => (h.positional value hvalue).left)
  have hparts : forall part, part ∈ call.argumentTokens -> AllWritable part := by
    intro part hpart
    rcases List.mem_append.mp hpart with hpart | hpart
    · rcases List.mem_append.mp hpart with hpart | hpart
      · exact hargument part hpart
      · exact hnamed part hpart
    · exact hpositional part hpart
  have hdistinct : AllWritable (if call.distinct then [.word "DISTINCT"] else []) := by
    cases call.distinct with
    | false => simp
    | true => simpa using writable_keyword (by decide)
  rw [Call.tokens]
  simp only [allWritable_cons, allWritable_append, allWritable_nil]
  exact ⟨h.word, trivial, ⟨hdistinct, allWritable_commaTokens hparts⟩, trivial, trivial⟩

theorem allWritable_labelTokens (label? : Option String) : AllWritable (labelTokens label?) := by
  cases label? with
  | none => simp [labelTokens]
  | some text =>
      have has : (Token.word "AS").Writable := writable_keyword (by decide)
      simp [labelTokens, has]

theorem SelectItem.allWritable_tokens {item : SelectItem} (h : item.WellFormed) :
    AllWritable item.tokens := by
  cases item with
  | star => simp [SelectItem.tokens]
  | field name label =>
      have hname : IsName name := h
      simp [SelectItem.tokens, hname, allWritable_labelTokens]
  | aggregate call =>
      simp [SelectItem.tokens, Call.allWritable_tokens h, allWritable_labelTokens]

theorem Source.allWritable_tokens {source : Source} (h : source.WellFormed) :
    AllWritable source.tokens := by
  rcases source with ⟨index, docType⟩
  have hindex : IsName index := h.index
  cases docType with
  | none => simp [Source.tokens, hindex]
  | some docType =>
      have htype : IsName docType := h.docType docType rfl
      simp [Source.tokens, hindex, htype]

theorem allWritable_notTokens (negated : Bool) : AllWritable (notTokens negated) := by
  have hnot : (Token.word "NOT").Writable := writable_keyword (by decide)
  cases negated <;> simp [notTokens, hnot]

theorem Predicate.allWritable_tokens {test : Predicate} (h : test.WellFormed) :
    AllWritable test.tokens := by
  cases test with
  | compare field op value =>
      rcases h with ⟨hfield, hvalue⟩
      simp [Predicate.tokens, hfield, Literal.writable_token hvalue]
  | like field pattern negated =>
      have hfield : IsName field := h
      have hlike : (Token.word "LIKE").Writable := writable_keyword (by decide)
      simp [Predicate.tokens, hfield, allWritable_notTokens, hlike]
  | member field values negated =>
      rcases h with ⟨hfield, _, hvalues⟩
      have hin : (Token.word "IN").Writable := writable_keyword (by decide)
      simp [Predicate.tokens, hfield, allWritable_notTokens, hin,
        allWritable_commaTokens (allWritable_values hvalues)]
  | between field low high negated =>
      rcases h with ⟨hfield, hlow, hhigh⟩
      have hbetween : (Token.word "BETWEEN").Writable := writable_keyword (by decide)
      have hand : (Token.word "AND").Writable := writable_keyword (by decide)
      simp [Predicate.tokens, hfield, allWritable_notTokens, hbetween, hand,
        Literal.writable_token hlow, Literal.writable_token hhigh]
  | isNull field negated =>
      have hfield : IsName field := h
      have his : (Token.word "IS").Writable := writable_keyword (by decide)
      have hnull : (Token.word "NULL").Writable := writable_keyword (by decide)
      simp [Predicate.tokens, hfield, allWritable_notTokens, his, hnull]

theorem ColumnRef.allWritable_tokens {ref : ColumnRef} (h : ref.WellFormed) :
    AllWritable ref.tokens := by
  cases ref with
  | name text => simp [ColumnRef.tokens]
  | aggregate call => exact Call.allWritable_tokens h.left

theorem Threshold.allWritable_tokens {test : Threshold} (h : test.WellFormed) :
    AllWritable test.tokens := by
  simp [Threshold.tokens, ColumnRef.allWritable_tokens h.left, Literal.writable_token h.right]

theorem GroupTerm.allWritable_tokens {term : GroupTerm} (h : term.WellFormed) :
    AllWritable term.tokens := by
  cases term with
  | plain field =>
      have hfield : IsName field := h
      simp [GroupTerm.tokens, hfield]
  | call bucket => exact Call.allWritable_tokens h.left

theorem OrderItem.allWritable_tokens {item : OrderItem} (h : item.target.WellFormed) :
    AllWritable item.tokens := by
  have hdirection : item.direction.token.Writable := by
    cases item.direction with
    | asc => exact writable_keyword (by decide)
    | desc => exact writable_keyword (by decide)
  simp [OrderItem.tokens, ColumnRef.allWritable_tokens h, hdirection]

theorem Formula.allWritable_tokens {alpha : Type} {print : alpha -> List Token}
    {good : alpha -> Prop} {conjuncts disjuncts : Nat}
    (hprint : forall value, good value -> AllWritable (print value)) {formula : Formula alpha}
    (h : formula.WellFormed conjuncts disjuncts good) (outermost : Bool) :
    AllWritable (formula.tokens print outermost) := by
  have henclosed : forall {inner : List Token}, AllWritable inner -> forall outermost,
      AllWritable (Formula.enclosed outermost inner) := by
    intro inner hinner outermost
    cases outermost <;> simp [Formula.enclosed, hinner]
  induction h generalizing outermost with
  | @all parts size inner ih =>
      rw [Formula.tokens, Formula.partsTokens_eq_map]
      refine henclosed (allWritable_intercalate (writable_keyword (by decide)) ?_) outermost
      rw [List.forall_mem_map]
      exact fun part hpart => ih part hpart false
  | @any parts size inner ih =>
      rw [Formula.tokens, Formula.partsTokens_eq_map]
      refine henclosed (allWritable_intercalate (writable_keyword (by decide)) ?_) outermost
      rw [List.forall_mem_map]
      exact fun part hpart => ih part hpart false
  | @negation part inner ih =>
      rw [Formula.tokens, allWritable_cons]
      exact ⟨writable_keyword (by decide), ih false⟩
  | @leaf value here =>
      rw [Formula.tokens]
      exact hprint value here

theorem allWritable_clauseTokens {alpha : Type} {keyword : String} {body : alpha -> List Token}
    {value? : Option alpha} (hkeyword : keyword ∈ reservedWords)
    (h : forall value, value? = some value -> AllWritable (body value)) :
    AllWritable (clauseTokens keyword body value?) := by
  cases value? with
  | none => simp [clauseTokens]
  | some value =>
      rw [clauseTokens, allWritable_cons]
      exact ⟨writable_keyword hkeyword, h value rfl⟩

theorem allWritable_listClause {alpha : Type} {keyword : String} {item : alpha -> List Token}
    {values : List alpha} (hkeyword : keyword ∈ reservedWords)
    (h : forall value, value ∈ values -> AllWritable (item value)) :
    AllWritable (clauseTokens keyword (byTokens item) (nonempty? values)) := by
  refine allWritable_clauseTokens hkeyword ?_
  intro list hlist
  have heq : list = values := by
    cases values with
    | nil => cases hlist
    | cons value rest => exact (Option.some.inj hlist).symm
  rw [byTokens, heq, allWritable_cons]
  refine ⟨writable_keyword (by decide), allWritable_commaTokens ?_⟩
  rw [List.forall_mem_map]
  exact h

theorem Statement.allWritable_tokens {statement : Statement} (h : statement.WellFormed) :
    AllWritable statement.tokens := by
  have hselect : AllWritable (commaTokens (statement.select.map SelectItem.tokens)) := by
    refine allWritable_commaTokens ?_
    rw [List.forall_mem_map]
    exact fun item hitem => SelectItem.allWritable_tokens (h.select item hitem)
  rw [Statement.tokens]
  simp only [allWritable_cons, allWritable_append]
  refine ⟨writable_keyword (by decide), hselect, writable_keyword (by decide),
    Source.allWritable_tokens h.source, ?_, ?_, ?_, ?_, ?_⟩
  · refine allWritable_clauseTokens (by decide) (fun condition hcondition => ?_)
    exact Formula.allWritable_tokens (fun test htest => Predicate.allWritable_tokens htest)
      (h.filter condition hcondition).left true
  · exact allWritable_listClause (by decide)
      (fun term hterm => GroupTerm.allWritable_tokens (h.groups term hterm))
  · refine allWritable_clauseTokens (by decide) (fun condition hcondition => ?_)
    exact Formula.allWritable_tokens (fun test htest => Threshold.allWritable_tokens htest)
      (h.having condition hcondition).left true
  · exact allWritable_listClause (by decide)
      (fun item hitem => OrderItem.allWritable_tokens (h.order item hitem))
  · refine allWritable_clauseTokens (by decide) (fun n _ => ?_)
    rw [allWritable_cons]
    exact ⟨Number.isNumeral_toString n, allWritable_nil⟩

end Sql
end Rollup
