import Rollup.Proofs.Addressing
import Rollup.Proofs.Answer.Following
import Rollup.Proofs.Grouping.Runnable

/-!
# Percentiles of a search

Percentiles have a value or null for every percent, unless one of these is over one hundred
and there are two numbers or more. Its place is then beyond the last number, and the search
stops. A search stops for no other percentiles that it evaluates.
-/

namespace Rollup
namespace Store

open Calendar (Instant)
open Request (Aggregation Bucketing Kinds Metric Percentiles)

/-!
# What a search evaluates
-/

/-- The aggregation is one of percentiles. Buckets would come before them. -/
def Computes (node : Aggregation) (spec : Percentiles) : Prop :=
  node.kinds.bucketing? = none ∧ node.kinds.metric? = some (.percentiles spec)

/-- The aggregation stops by itself: its percentiles do, or buckets cannot be formed. -/
inductive Stops (now : Instant) (docs : List Document) (node : Aggregation) : Prop
  | percentiles {spec : Percentiles} (hspec : Computes node spec) (hbeyond : IsBeyond docs spec)
  | buckets {bucketing : Bucketing} (hbucketing : node.kinds.bucketing? = some bucketing)
      (h : formBuckets now bucketing docs = .error .aborted)

/-!
# Why a search stops
-/

end Store
end Rollup
