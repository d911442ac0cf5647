import Rollup.Request.Filter
import Rollup.Sql.Statement
import Rollup.Text.Wildcard

/-!
# WHERE as a filter

A condition becomes the filter that holds of the same documents.
-/

namespace Rollup
namespace Plan

open Sql (Comparison Condition Formula Literal Predicate)
open Request (Bounds Filter)

def compareFilter (field : String) (op : Comparison) (value : Literal) : Filter :=
  let json := value.toJson
  match op with
  | .eq => .term [(field, json)]
  | .notEq => Filter.negate (.term [(field, json)])
  | .lt => .range [(field, { lt := some json })]
  | .lte => .range [(field, { lte := some json })]
  | .gt => .range [(field, { gt := some json })]
  | .gte => .range [(field, { gte := some json })]

def predicateFilter : Predicate -> Filter
  | .compare field op value => compareFilter field op value
  | .like field pattern negated =>
      Filter.negateIf negated (.wildcard [(field, Text.likeToWildcard pattern)])
  | .member field values negated =>
      Filter.negateIf negated (.terms [(field, values.map Literal.toJson)])
  | .between field low high negated =>
      Filter.negateIf negated
        (.range [(field, { gte := some low.toJson, lte := some high.toJson })])
  | .isNull field negated => Filter.negateIf (!negated) (.present field)

mutual

def conditionFilter : Condition -> Filter
  | .all parts => Filter.all (conditionFilters parts)
  | .any parts => Filter.any (conditionFilters parts)
  | .negation part => Filter.negate (conditionFilter part)
  | .leaf test => predicateFilter test

def conditionFilters : List Condition -> List Filter
  | [] => []
  | part :: rest => conditionFilter part :: conditionFilters rest

end

end Plan
end Rollup
