import Rollup.Sql.Cursor
import Rollup.Sql.Lexemes
import Rollup.Sql.Statement
import Rollup.Text.Blank

/-!
# Parsing statements

Recursive descent over the lexemes of a text. Only conditions nest, and the levels
of nesting that are left are what the recursion goes by.
-/

namespace Rollup
namespace Sql

def reservedWords : List String :=
  ["SELECT", "FROM", "WHERE", "GROUP", "HAVING", "ORDER", "LIMIT", "BY", "AS", "AND", "OR",
    "NOT", "ASC", "DESC", "DISTINCT", "IN", "LIKE", "BETWEEN", "IS", "NULL"]

def isReserved (word : String) : Bool :=
  reservedWords.any (fun reserved => Text.eqIgnoreAsciiCase reserved word)

/-!
# Names and literals
-/

def bareName (word : String) (position : Nat) : Except SyntaxError String :=
  if word.toList.any (fun c => c == '-' || c == '*') then
    .error { position := position, fault := .invalidName word }
  else
    .ok word

def name (cur : Cursor) : Except SyntaxError (String × Cursor) :=
  match cur.token? with
  | some (.word word) =>
      if isReserved word then
        cur.fail (.expectedName (some (.word word)))
      else do
        let word ← bareName word cur.position
        .ok (word, cur.next)
  | some (.quotedName text) => .ok (text, cur.next)
  | found => cur.fail (.expectedName found)

/-- Index or type name, in which `-` and `*` are allowed bare. -/
def indexName (cur : Cursor) : Except SyntaxError (String × Cursor) :=
  match cur.token? with
  | some (.word word) =>
      if isReserved word then
        cur.fail (.expectedName (some (.word word)))
      else
        .ok (word, cur.next)
  | some (.quotedName text) => .ok (text, cur.next)
  | found => cur.fail (.expectedName found)

def boolLiteral? (word : String) : Option Literal :=
  if Text.eqIgnoreAsciiCase word "true" then some (.bool true)
  else if Text.eqIgnoreAsciiCase word "false" then some (.bool false)
  else none

def literal (cur : Cursor) : Except SyntaxError (Literal × Cursor) :=
  match cur.token? with
  | some (.number raw) => .ok (.number raw, cur.next)
  | some (.quotedText text) => .ok (.text text, cur.next)
  | some (.word word) =>
      match boolLiteral? word with
      | some value => .ok (value, cur.next)
      | none => cur.fail (.expectedLiteral (some (.word word)))
  | found => cur.fail (.expectedLiteral found)

def label (cur : Cursor) : Except SyntaxError (Option String × Cursor) :=
  if cur.isAtKeyword "AS" then
    let cur := cur.next
    match cur.token? with
    | some (.word text) => .ok (some text, cur.next)
    | some (.quotedName text) => .ok (some text, cur.next)
    | some (.quotedText text) => .ok (some text, cur.next)
    | _ => cur.next.failBefore .expectedAlias
  else
    match cur.token? with
    | some (.word word) =>
        if isReserved word then
          .ok (none, cur)
        else do
          let word ← bareName word cur.position
          .ok (some word, cur.next)
    | some (.quotedName text) => .ok (some text, cur.next)
    | _ => .ok (none, cur)

/-!
# Calls
-/

/-- A call as written, before it is known to be an aggregate or a bucket call. -/
structure Call where
  function : String
  position : Nat
  distinct : Bool
  argument : Option Argument
  named : List (String × Literal)
  positional : List Literal
deriving DecidableEq, Repr

namespace Call

def withField (call : Call) (word : String) (position : Nat) : Except SyntaxError Call :=
  match call.argument with
  | some _ => .error { position := position, fault := .secondField word call.function }
  | none => .ok { call with argument := some (.field word) }

def toAggregate (call : Call) : AggregateCall :=
  { function := call.function
    argument := call.argument
    distinct := call.distinct
    parameters := call.named
    positional := call.positional
    label := none }

/-- Splits the parameter `field` off the named arguments; it may be given only once. -/
def splitField (call : Call) :
    Option String -> List (String × Literal) ->
      Except SyntaxError (Option String × List (String × Literal))
  | field, [] => .ok (field, [])
  | field, (key, value) :: rest =>
      if Text.eqIgnoreAsciiCase key "field" then
        match field with
        | some _ => .error { position := call.position, fault := .fieldGivenTwice call.function }
        | none => splitField call (some value.render) rest
      else do
        let (field, parameters) ← splitField call field rest
        .ok (field, (key, value) :: parameters)

def toBucket (call : Call) : Except SyntaxError BucketCall :=
  if call.distinct then
    .error { position := call.position, fault := .distinctInBucket call.function }
  else do
    let field ←
      match call.argument with
      | some (.field field) => .ok (some field)
      | some .star => .error { position := call.position, fault := .starInBucket call.function }
      | none => .ok none
    let (field, parameters) ← call.splitField field call.named
    .ok
      { function := call.function
        field := field
        parameters := parameters
        boundaries := call.positional }

end Call

def atCall (cur : Cursor) : Bool :=
  match cur.token?, cur.second? with
  | some (.word _), some .leftParen => true
  | _, _ => false

def parameterValue (cur : Cursor) : Except SyntaxError (Literal × Cursor) :=
  match cur.token? with
  | some (.number raw) => .ok (.number raw, cur.next)
  | some (.quotedText text) => .ok (.text text, cur.next)
  | some (.quotedName text) => .ok (.text text, cur.next)
  | some (.word word) => .ok ((boolLiteral? word).getD (.text word), cur.next)
  | _ => cur.fail .expectedArgumentValue

def namedArgument (call : Call) (cur : Cursor) : Except SyntaxError (Call × Cursor) := do
  let key ←
    match cur.token? with
    | some (.word key) => .ok key
    | some (.quotedName key) => .ok key
    | some (.quotedText key) => .ok key
    | some token => cur.fail (.invalidArgumentName token)
    | none => cur.fail (.expected "argument" none)
  let (value, cur) ← parameterValue cur.next.next
  .ok ({ call with named := call.named ++ [(key, value)] }, cur)

def plainArgument (call : Call) (cur : Cursor) : Except SyntaxError (Call × Cursor) :=
  match cur.token? with
  | some .star =>
      if call.argument.isSome || call.positional != [] || call.distinct then
        cur.fail .starNotAlone
      else
        .ok ({ call with argument := some .star }, cur.next)
  | some (.word word) => do
      let word ← bareName word cur.position
      let call ← call.withField word cur.position
      .ok (call, cur.next)
  | some (.quotedName text) => do
      let call ← call.withField text cur.position
      .ok (call, cur.next)
  | some (.number raw) =>
      .ok ({ call with positional := call.positional ++ [.number raw] }, cur.next)
  | some (.quotedText text) =>
      .ok ({ call with positional := call.positional ++ [.text text] }, cur.next)
  | some token => cur.fail (.unexpectedArgument token call.function)
  | none => cur.fail (.unbalancedCall call.function)

def callArgument (call : Call) (cur : Cursor) : Except SyntaxError (Call × Cursor) :=
  if cur.second? == some (.comparison .eq) then namedArgument call cur
  else plainArgument call cur

def callArguments : Nat -> Call -> Parser Call
  | 0, call, cur => cur.fail (.unbalancedCall call.function)
  | rounds + 1, call, cur => do
      let (call, cur) ← callArgument call cur
      match cur.token? with
      | some .comma => callArguments rounds call cur.next
      | some .rightParen => .ok (call, cur.next)
      | some token => cur.fail (.expectedArgumentEnd call.function token)
      | none => cur.fail (.unbalancedCall call.function)

def call (cur : Cursor) : Except SyntaxError (Call × Cursor) :=
  match cur.token? with
  | some (.word function) => do
      let start := cur.position
      let cur ← cur.next.expect .leftParen
      let empty : Call :=
        { function := function
          position := start
          distinct := false
          argument := none
          named := []
          positional := [] }
      if cur.isAt .rightParen then
        .ok (empty, cur.next)
      else if cur.isAtKeyword "DISTINCT" then
        let cur := cur.next
        match cur.token? with
        | some (.word _) | some (.quotedName _) =>
            callArguments (cur.rest.length + 1) { empty with distinct := true } cur
        | _ => cur.fail .expectedFieldAfterDistinct
      else
        callArguments (cur.rest.length + 1) empty cur
  | _ => cur.fail .expectedFunctionName

/-!
# Conditions

OR binds weakest, then AND, then NOT. A list of one part is that part.
-/

def joined {alpha : Type} (join : List (Formula alpha) -> Formula alpha) :
    List (Formula alpha) -> Formula alpha
  | [part] => part
  | parts => join parts

def conjunction {alpha : Type} (part : Parser (Formula alpha)) (cur : Cursor) :
    Except SyntaxError (Formula alpha × Cursor) := do
  let (parts, cur) ← separated (fun cur => cur.isAtKeyword "AND") part cur
  .ok (joined .all parts, cur)

def disjunction {alpha : Type} (part : Parser (Formula alpha)) (cur : Cursor) :
    Except SyntaxError (Formula alpha × Cursor) := do
  let (parts, cur) ← separated (fun cur => cur.isAtKeyword "OR") (conjunction part) cur
  .ok (joined .any parts, cur)

/-- A negation, a formula in parentheses or a leaf, with `levels` of nesting left. -/
def formulaPart {alpha : Type} (leaf : Parser alpha) :
    Nat -> Parser (Formula alpha)
  | levels, cur =>
      if cur.isAtKeyword "NOT" then
        match levels with
        | 0 => cur.next.failBefore .nestedTooDeep
        | levels + 1 => do
            let (part, cur) ← formulaPart leaf levels cur.next
            .ok (.negation part, cur)
      else if cur.isAt .leftParen then
        match levels with
        | 0 => cur.next.failBefore .nestedTooDeep
        | levels + 1 => do
            let (part, cur) ← disjunction (formulaPart leaf levels) cur.next
            let cur ← cur.expect .rightParen
            .ok (part, cur)
      else do
        let (value, cur) ← leaf cur
        .ok (.leaf value, cur)

def formula {alpha : Type} (leaf : Parser alpha) : Parser (Formula alpha) :=
  disjunction (formulaPart leaf maxNesting)

def comparison? (cur : Cursor) : Option Comparison :=
  match cur.token? with
  | some (.comparison op) => some op
  | _ => none

def rangePredicate (field : String) (negated : Bool) (cur : Cursor) :
    Except SyntaxError (Predicate × Cursor) :=
  if cur.isAtKeyword "LIKE" then
    let cur := cur.next
    match cur.token? with
    | some (.quotedText pattern) => .ok (.like field pattern negated, cur.next)
    | _ => cur.fail .likeWithoutPattern
  else if cur.isAtKeyword "IN" then do
    let cur ← cur.next.expect .leftParen
    let (values, cur) ← commaSeparated literal cur
    let cur ← cur.expect .rightParen
    .ok (.member field values negated, cur)
  else if cur.isAtKeyword "BETWEEN" then do
    let (low, cur) ← literal cur.next
    let cur ← cur.expectKeyword "AND"
    let (high, cur) ← literal cur
    .ok (.between field low high negated, cur)
  else
    cur.fail (.expectedComparison field)

def predicate (cur : Cursor) : Except SyntaxError (Predicate × Cursor) := do
  let (field, cur) ← name cur
  match comparison? cur with
  | some op =>
      let cur := cur.next
      if cur.isAtKeyword "NULL" then
        cur.fail (.comparisonWithNull field)
      else
        let (value, cur) ← literal cur
        .ok (.compare field op value, cur)
  | none =>
      if cur.isAtKeyword "IS" then
        let cur := cur.next
        if cur.isAtKeyword "NOT" then
          let cur ← cur.next.expectKeyword "NULL"
          .ok (.isNull field true, cur)
        else
          let cur ← cur.expectKeyword "NULL"
          .ok (.isNull field false, cur)
      else if cur.isAtKeyword "NOT" then
        rangePredicate field true cur.next
      else
        rangePredicate field false cur

def columnRef (cur : Cursor) : Except SyntaxError (ColumnRef × Cursor) :=
  if atCall cur then do
    let (found, cur) ← call cur
    .ok (.aggregate found.toAggregate, cur)
  else
    match cur.token? with
    | some (.quotedText text) => .ok (.name text, cur.next)
    | _ => do
        let (text, cur) ← name cur
        .ok (.name text, cur)

def threshold (cur : Cursor) : Except SyntaxError (Threshold × Cursor) := do
  let (target, cur) ← columnRef cur
  match comparison? cur with
  | some op =>
      let (value, cur) ← literal cur.next
      .ok ({ target := target, op := op, value := value }, cur)
  | none => cur.fail .expectedHavingOperator

/-!
# Clauses
-/

def selectItem (cur : Cursor) : Except SyntaxError (SelectItem × Cursor) :=
  if cur.isAt .star then
    .ok (.star, cur.next)
  else if atCall cur then do
    let (found, cur) ← call cur
    let (label?, cur) ← label cur
    .ok (.aggregate { found.toAggregate with label := label? }, cur)
  else
    match cur.token? with
    | some (.word _) | some (.quotedName _) => do
        let (field, cur) ← name cur
        let (label?, cur) ← label cur
        .ok (.field field label?, cur)
    | found => cur.fail (.expectedSelectItem found)

def source (cur : Cursor) : Except SyntaxError (Source × Cursor) := do
  let (index, cur) ←
    if cur.isAt .star then .ok ("*", cur.next) else indexName cur
  if cur.isAt .slash then
    let (docType, cur) ← indexName cur.next
    .ok ({ index := index, docType := some docType }, cur)
  else
    .ok ({ index := index, docType := none }, cur)

def groupTerm (cur : Cursor) : Except SyntaxError (GroupTerm × Cursor) :=
  if atCall cur then do
    let (found, cur) ← call cur
    let bucket ← found.toBucket
    .ok (.call bucket, cur)
  else do
    let (field, cur) ← name cur
    .ok (.plain field, cur)

def orderItem (cur : Cursor) : Except SyntaxError (OrderItem × Cursor) := do
  let (target, cur) ← columnRef cur
  if cur.isAtKeyword "DESC" then
    .ok ({ target := target, direction := .desc }, cur.next)
  else if cur.isAtKeyword "ASC" then
    .ok ({ target := target, direction := .asc }, cur.next)
  else
    .ok ({ target := target, direction := .asc }, cur)

def limit (cur : Cursor) : Except SyntaxError (Nat × Cursor) :=
  match cur.token? with
  | some (.number raw) =>
      match Number.readUInt64? raw with
      | some n => .ok (n, cur.next)
      | none => cur.fail (.limitNotNumber (some raw))
  | _ => cur.fail (.limitNotNumber none)

def clause? {alpha : Type} (keyword : String) (body : Parser alpha) (cur : Cursor) :
    Except SyntaxError (Option alpha × Cursor) :=
  if cur.isAtKeyword keyword then do
    let (value, cur) ← body cur.next
    .ok (some value, cur)
  else
    .ok (none, cur)

def listBy {alpha : Type} (item : Parser alpha) (cur : Cursor) :
    Except SyntaxError (List alpha × Cursor) := do
  let cur ← cur.expectKeyword "BY"
  commaSeparated item cur

def statement (cur : Cursor) : Except SyntaxError Statement := do
  let cur ← cur.expectKeyword "SELECT"
  let (select, cur) ← commaSeparated selectItem cur
  if !cur.isAtKeyword "FROM" then
    cur.fail .missingFrom
  else
    let (source, cur) ← source cur.next
    let (filter, cur) ← clause? "WHERE" (formula predicate) cur
    let (groups?, cur) ← clause? "GROUP" (listBy groupTerm) cur
    let (having, cur) ← clause? "HAVING" (formula threshold) cur
    let (order?, cur) ← clause? "ORDER" (listBy orderItem) cur
    let (limit, cur) ← clause? "LIMIT" limit cur
    let cur := if cur.isAt .semicolon then cur.next else cur
    match cur.token? with
    | some token => cur.fail (.unexpectedToken token)
    | none =>
        .ok
          { source := source
            select := select
            filter := filter
            groups := groups?.getD []
            having := having
            order := order?.getD []
            limit := limit }

def parse (text : String) : Except SyntaxError Statement :=
  if Text.trimChars text.toList == [] then
    .error { position := 0, fault := .emptyQuery }
  else do
    let found ← lexemes text
    statement { previous := none, rest := found, finish := text.utf8ByteSize }

end Sql
end Rollup
