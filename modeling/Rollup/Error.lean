import Rollup.Calendar.DateMath
import Rollup.Calendar.Interval
import Rollup.Calendar.Zone
import Rollup.Number.Layout
import Rollup.Script.Token
import Rollup.Sql.Fault

/-!
# Errors

Everything that can go wrong with a query, as its cause: in the text, in what the
text asks for, or in running the request. Each cause has its kind and its wording.
-/

namespace Rollup

inductive GroupingFault where
  | missingField (function : String)
  | unknownParameter (key function : String)
  | tooFewBoundaries (field : String) (count : Nat)
  | boundaryNotNumber (text : String)
  | boundariesNotIncreasing (text : String) (previous : Float)
  | unevenBoundaries (field : String) (count : Nat)
  | positionalArguments (field : String)
  | interval (fault : Calendar.IntervalFault)
  | countNotNumber (function text : String)
  | secondInterval (field : String)
  | missingInterval (field : String)
  | intervalNotPositive (text : String)
deriving DecidableEq, Repr

def GroupingFault.message : GroupingFault -> String
  | .missingField function => s!"{function}() requires a field"
  | .unknownParameter key function => s!"unknown parameter '{key}' for {function}()"
  | .tooFewBoundaries field count =>
      s!"range({field}) needs at least two boundaries, got {count}"
  | .boundaryNotNumber text => s!"range boundary '{text}' is not a number"
  | .boundariesNotIncreasing text previous =>
      let shown := Number.messageLayout.write previous
      s!"range boundaries must be strictly increasing ({text} after {shown})"
  | .unevenBoundaries field count =>
      s!"date_range({field}) needs an even number of boundaries (at least two), got {count}"
  | .positionalArguments field => s!"date_histogram({field}) takes no positional arguments"
  | .interval fault => fault.message
  | .countNotNumber function text =>
      s!"min_doc_count for {function}() must be a non-negative integer, got '{text}'"
  | .secondInterval field => s!"histogram({field}) takes at most one positional interval"
  | .missingInterval field => s!"histogram({field}) requires an interval"
  | .intervalNotPositive text => s!"histogram interval must be a positive number, got '{text}'"

/-- What is wrong with the arguments of an aggregate function or a clause. -/
inductive ArgumentFault where
  | distinctOutsideCount
  | starOutsideCount
  | extraArguments
  | missingArgument
  | missingField
  | namedPercents
  | notPercent (text : String)
  | unnamedArguments
  | notCount (key text : String)
  | sortDirection (key text : String)
  | notNumber (text : String)
  | emptyBucket (bucket : String)
deriving DecidableEq, Repr

def ArgumentFault.message : ArgumentFault -> String
  | .distinctOutsideCount => "DISTINCT is only valid in COUNT"
  | .starOutsideCount => "'*' is only valid in COUNT"
  | .extraArguments => "takes a single argument"
  | .missingArgument => "requires '*' or a field"
  | .missingField => "requires a field"
  | .namedPercents => "percents are given positionally"
  | .notPercent text => s!"'{text}' is not a percentile in [0, 100]"
  | .unnamedArguments => "takes only key=value arguments"
  | .notCount key text => s!"{key} must be a non-negative integer, got '{text}'"
  | .sortDirection key text =>
      s!"sort direction for '{key}' must be 'asc' or 'desc', got '{text}'"
  | .notNumber text => s!"'{text}' is not a number"
  | .emptyBucket bucket => s!"bucket '{bucket}' needs a size of at least 1"

/-- Queries that have a meaning but no request. -/
inductive Limitation where
  | havingWithoutGroups
  | havingMultiValue (metric : String)
  | orderMultiValue (metric : String)
  | orderOfRanges (bucket : String)
  | limitOfFunction (bucket : String)
deriving DecidableEq, Repr

def Limitation.message : Limitation -> String
  | .havingWithoutGroups => "HAVING requires GROUP BY"
  | .havingMultiValue metric => s!"HAVING cannot compare multi-value metric '{metric}'"
  | .orderMultiValue metric => s!"cannot order buckets by multi-value metric '{metric}'"
  | .orderOfRanges bucket => s!"bucket '{bucket}' cannot be ordered"
  | .limitOfFunction bucket =>
      s!"LIMIT applies to field buckets, innermost bucket is '{bucket}'"

/-!
# Errors of running a request
-/

def maxBuckets : Nat := 65536

inductive Rejection where
  | untyped (aggregation : String)
  | orderPath (path : String)
  | missingInterval
  | interval (fault : Calendar.IntervalFault)
  | date (fault : Calendar.DateFault)
  | patternLetter (letter : Char)
  | dateKey (key : Int)
  | histogramInterval (interval : Float)
  | tooManyBuckets
  | keyOverflow
deriving DecidableEq, Repr

def Rejection.message : Rejection -> String
  | .untyped aggregation => s!"aggregation '{aggregation}' has no type"
  | .orderPath path => s!"invalid aggregation order path [{path}]"
  | .missingInterval => "date_histogram requires an interval"
  | .interval fault => fault.message
  | .date fault => fault.message
  | .patternLetter letter => s!"unsupported date pattern letter '{letter}'"
  | .dateKey key => s!"date key {key} out of range"
  | .histogramInterval step =>
      let shown := Number.messageLayout.write step
      s!"histogram interval must be positive, got {shown}"
  | .tooManyBuckets => s!"too many buckets, limit is {maxBuckets}"
  | .keyOverflow => "bucket key overflow"

inductive Malformed where
  | noAggregations
  | noHits
  | badTotal
  | hitsNotList
  | missing (aggregation : String)
  | noStatsCount (aggregation : String)
  | noPercentiles (aggregation : String)
  | noTopHits (aggregation : String)
  | notNumber (aggregation : String)
  | noValue (aggregation : String)
  | noBuckets (aggregation : String)
  | noKey (aggregation : String)
  | noDocCount (aggregation : String)
  | other (text : String)
deriving DecidableEq, Repr

def Malformed.message : Malformed -> String
  | .noAggregations => "response has no 'aggregations'"
  | .noHits => "response has no 'hits'"
  | .badTotal => "'hits.total' is missing or malformed"
  | .hitsNotList => "'hits.hits' is not an array"
  | .missing aggregation => s!"missing aggregation '{aggregation}'"
  | .noStatsCount aggregation => s!"'{aggregation}' has no stats count"
  | .noPercentiles aggregation => s!"'{aggregation}' has no percentile values"
  | .noTopHits aggregation => s!"'{aggregation}' has no hits"
  | .notNumber aggregation => s!"'{aggregation}' value is not a number"
  | .noValue aggregation => s!"'{aggregation}' has no value"
  | .noBuckets aggregation => s!"'{aggregation}' has no bucket list"
  | .noKey aggregation => s!"bucket of '{aggregation}' has no key"
  | .noDocCount aggregation => s!"bucket of '{aggregation}' has no doc_count"
  | .other text => text

inductive Unsupported where
  | zone (fault : Calendar.ZoneFault)
  | selector (name : String) (fault : Script.Fault)
  | other (text : String)
deriving DecidableEq, Repr

def Unsupported.message : Unsupported -> String
  | .zone fault => fault.message
  | .selector name fault => s!"bucket_selector '{name}': {fault.message}"
  | .other text => text

inductive BackendError where
  | http (text : String)
  | timeout (text : String)
  | status (code : Nat) (body : String)
  | rejected (cause : Rejection)
  | indexNotFound (name : String)
  | malformed (cause : Malformed)
  | unsupported (cause : Unsupported)
  | aborted
deriving DecidableEq, Repr

namespace BackendError

def message : BackendError -> String
  | .http text => s!"HTTP error: {text}"
  | .timeout text => s!"Request timed out: {text}"
  | .status code body => s!"Backend returned {code}: {body}"
  | .rejected cause => s!"Backend returned 400: {cause.message}"
  | .indexNotFound name => s!"Index not found: {name}"
  | .malformed cause => s!"Malformed response: {cause.message}"
  | .unsupported cause => s!"Unsupported by backend: {cause.message}"
  | .aborted => "Evaluation aborted"

def isRetryable : BackendError -> Bool
  | .http _ => true
  | .timeout _ => true
  | .status code _ => 500 <= code || code = 429
  | _ => false

end BackendError

/-!
# All errors
-/

inductive Error where
  | syntactic (error : Sql.SyntaxError)
  | grouping (fault : GroupingFault)
  | unknownFunction (name : String)
  | invalidArgument (function : String) (fault : ArgumentFault)
  | unresolvedOrderTarget (name : String)
  | unresolvedReference (name : String)
  | duplicateName (name : String)
  | unsupported (limitation : Limitation)
  | backend (error : BackendError)
deriving DecidableEq, Repr

namespace Error

def kind : Error -> String
  | .syntactic _ => "syntax_error"
  | .grouping _ => "grouping_error"
  | .unknownFunction _ => "unknown_function_error"
  | .invalidArgument _ _ => "invalid_argument_error"
  | .unresolvedOrderTarget _ => "unresolved_order_target_error"
  | .unresolvedReference _ => "unresolved_reference_error"
  | .duplicateName _ => "duplicate_name_error"
  | .unsupported _ => "unsupported_error"
  | .backend _ => "backend_error"

def message : Error -> String
  | .syntactic error => s!"Syntax error at {error.position}: {error.fault.message}"
  | .grouping fault => s!"Grouping error: {fault.message}"
  | .unknownFunction name => s!"Unknown function: {name}"
  | .invalidArgument function fault => s!"Invalid argument for {function}: {fault.message}"
  | .unresolvedOrderTarget name => s!"ORDER BY target not found: {name}"
  | .unresolvedReference name => s!"Unresolved reference: {name}"
  | .duplicateName name => s!"Duplicate column name: {name}"
  | .unsupported limitation => s!"Unsupported: {limitation.message}"
  | .backend error => s!"Backend error: {error.message}"

def isRetryable : Error -> Bool
  | .backend error => error.isRetryable
  | _ => false

end Error
end Rollup
