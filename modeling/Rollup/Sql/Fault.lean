import Rollup.Sql.Token

/-!
# Syntax faults

Every way in which a text fails to be a query, and the wording for each.
-/

namespace Rollup
namespace Sql

def maxNesting : Nat := 128

inductive Fault where
  | emptyQuery
  | unterminatedText
  | unterminatedName
  | unexpectedCharacter (c : Char)
  | expected (wanted : String) (found : Option Token)
  | expectedName (found : Option Token)
  | invalidName (word : String)
  | missingFrom
  | unexpectedToken (token : Token)
  | expectedSelectItem (found : Option Token)
  | expectedAlias
  | expectedFunctionName
  | expectedFieldAfterDistinct
  | expectedArgumentEnd (function : String) (found : Token)
  | unbalancedCall (function : String)
  | invalidArgumentName (token : Token)
  | starNotAlone
  | secondField (word : String) (function : String)
  | unexpectedArgument (token : Token) (function : String)
  | expectedArgumentValue
  | distinctInBucket (function : String)
  | starInBucket (function : String)
  | fieldGivenTwice (function : String)
  | limitNotNumber (found : Option String)
  | comparisonWithNull (field : String)
  | likeWithoutPattern
  | expectedComparison (field : String)
  | expectedLiteral (found : Option Token)
  | expectedHavingOperator
  | nestedTooDeep
deriving DecidableEq, Repr

/-- A fault and the byte of the text it is reported at. -/
structure SyntaxError where
  position : Nat
  fault : Fault
deriving DecidableEq, Repr

def foundText : Option Token -> String
  | some token => s!"'{token.describe}'"
  | none => "end of input"

def Fault.message : Fault -> String
  | .emptyQuery => "empty query"
  | .unterminatedText => "unterminated string literal"
  | .unterminatedName => "unterminated quoted identifier"
  | .unexpectedCharacter c => s!"unexpected character '{c}'"
  | .expected wanted found => s!"expected {wanted}, found {foundText found}"
  | .expectedName found => s!"expected name, found {foundText found}"
  | .invalidName word =>
      s!"'{word}' is not a valid name; quote names containing '-' or '*'"
  | .missingFrom => "missing FROM clause"
  | .unexpectedToken token => s!"unexpected token '{token.describe}'"
  | .expectedSelectItem none => "expected select item"
  | .expectedSelectItem (some token) => s!"expected select item, found '{token.describe}'"
  | .expectedAlias => "expected alias after AS"
  | .expectedFunctionName => "expected function name"
  | .expectedFieldAfterDistinct => "expected field after DISTINCT"
  | .expectedArgumentEnd function found =>
      s!"expected ',' or ')' in {function}(), found '{found.describe}'"
  | .unbalancedCall function => s!"unbalanced parentheses in {function}()"
  | .invalidArgumentName token => s!"invalid argument name '{token.describe}'"
  | .starNotAlone => "'*' must be the only argument"
  | .secondField word function => s!"unexpected identifier '{word}' in {function}()"
  | .unexpectedArgument token function => s!"unexpected '{token.describe}' in {function}()"
  | .expectedArgumentValue => "expected argument value after '='"
  | .distinctInBucket function => s!"DISTINCT is not allowed in {function}()"
  | .starInBucket function => s!"'*' is not allowed in {function}()"
  | .fieldGivenTwice function => s!"field given twice in {function}()"
  | .limitNotNumber none => "LIMIT expects a non-negative integer"
  | .limitNotNumber (some text) => s!"LIMIT expects a non-negative integer, found '{text}'"
  | .comparisonWithNull field => s!"use IS NULL to compare '{field}' with NULL"
  | .likeWithoutPattern => "LIKE expects a string pattern"
  | .expectedComparison field => s!"expected comparison after '{field}'"
  | .expectedLiteral none => "expected literal"
  | .expectedLiteral (some token) => s!"expected literal, found '{token.describe}'"
  | .expectedHavingOperator => "expected comparison operator in HAVING"
  | .nestedTooDeep => s!"conditions nested deeper than {maxNesting} levels"

end Sql
end Rollup
