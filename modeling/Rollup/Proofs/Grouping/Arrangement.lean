import Rollup.Proofs.Answer.Mirror
import Rollup.Proofs.Grouping.DateHistogram
import Rollup.Proofs.Order.Values

/-!
# Buckets in order

Buckets hold documents of those that are divided, under keys that can be ordered. They
are arranged by counts, by keys or by the numbers of measures, which none of these orders
leaves undecided.
-/

namespace Rollup
namespace Store

open Calendar (Instant)
open Plan (Measure OrderTarget)
open Request (Aggregation Bucketing)
open Sql (Direction)

/-!
# Formed buckets
-/

theorem docs_of_groupByKey {keysOf : Document -> List Int} {docs : List Document}
    {group : Int × List Document} (h : group ∈ groupByKey keysOf docs) :
    group.2.Sublist docs := by
  rcases List.mem_map.mp h with ⟨key, _, rfl⟩
  have hsublist := (List.filter_sublist (l := docs.map (fun doc => (keysOf doc, doc)))
    (p := fun entry => entry.1.contains key)).map Prod.snd
  rw [List.map_map] at hsublist
  rw [show Prod.snd ∘ (fun doc => (keysOf doc, doc)) = id from rfl, List.map_id] at hsublist
  exact hsublist

theorem docs_of_fillGaps {next : Int -> Except BackendError Int}
    {groups filled : List (Int × List Document)} {docs : List Document}
    (hgroups : forall group, group ∈ groups -> group.2.Sublist docs)
    (h : fillGaps next groups = .ok filled) {group : Int × List Document}
    (hgroup : group ∈ filled) : group.2.Sublist docs := by
  unfold fillGaps at h
  split at h
  · rcases bind_eq_ok_iff.mp h with ⟨steps, _, heq⟩
    cases heq
    rcases List.mem_map.mp hgroup with ⟨key, _, rfl⟩
    dsimp only
    cases hlookup : groups.lookup key with
    | none => exact List.nil_sublist docs
    | some found =>
        rcases List.lookup_eq_some_iff.mp hlookup with ⟨before, after, hsplit, _⟩
        have hmem : (key, found) ∈ groups := by
          rw [hsplit]
          exact List.mem_append_right before List.mem_cons_self
        exact hgroups (key, found) hmem
  · cases h
    exact hgroups group hgroup

theorem docs_of_histogramGroups {next : Int -> Except BackendError Int} {minDocCount : Option Nat}
    {groups filled : List (Int × List Document)} {docs : List Document}
    (hgroups : forall group, group ∈ groups -> group.2.Sublist docs)
    (h : histogramGroups next minDocCount groups = .ok filled) {group : Int × List Document}
    (hgroup : group ∈ filled) : group.2.Sublist docs := by
  unfold histogramGroups at h
  dsimp only at h
  split at h
  · exact docs_of_fillGaps hgroups h hgroup
  · cases h
    exact hgroups group (List.mem_of_mem_filter hgroup)

theorem bucket_of_formBuckets {now : Instant} {bucketing : Bucketing} {docs : List Document}
    {buckets : List Bucket} (h : formBuckets now bucketing docs = .ok buckets) {bucket : Bucket}
    (hbucket : bucket ∈ buckets) :
    bucket.docs.Sublist docs
      ∧ ((forall doc, doc ∈ docs -> doc.source.isFinite = true) -> bucket.key.isFinite = true) := by
  cases bucketing with
  | terms spec =>
      have hterms : termBuckets spec docs = buckets := Except.ok.inj h
      rw [<- hterms, termBuckets_eq] at hbucket
      rcases List.mem_map.mp hbucket with ⟨⟨key, value⟩, hentry, rfl⟩
      constructor
      · rw [docs_termBucket]
        exact List.filter_sublist
      · intro hfinite
        rcases List.mem_flatMap.mp (mem_distinctValues hentry).right with ⟨doc, hdoc, hvalue⟩
        have hvalueFinite := isFinite_of_mem_values (hfinite doc hdoc) hvalue
        unfold termBucket
        split
        · rfl
        · rfl
        · exact hvalueFinite
  | range spec =>
      cases h
      rcases List.mem_map.mp hbucket with ⟨range, _, rfl⟩
      exact ⟨List.filter_sublist, fun _ => rfl⟩
  | dateRange spec =>
      rcases bind_eq_ok_iff.mp h with ⟨resolved, _, h⟩
      rcases exists_of_mem_mapM h hbucket with ⟨⟨low, high⟩, _, hformed⟩
      rcases bind_eq_ok_iff.mp hformed with ⟨lowText, _, hformed⟩
      rcases bind_eq_ok_iff.mp hformed with ⟨highText, _, heq⟩
      cases heq
      exact ⟨List.filter_sublist, fun _ => rfl⟩
  | dateHistogram spec =>
      rcases bind_eq_ok_iff.mp h with ⟨interval, hinterval, hrest⟩
      rcases bind_eq_ok_iff.mp hrest with ⟨offset, hzone, _⟩
      rcases groups_of_dateHistogramBuckets hinterval hzone h with ⟨groups, hgroups, hshows, _⟩
      rcases exists_left_of_mem hshows hbucket with ⟨group, hgroup, hshown⟩
      rw [hshown.docs, hshown.key]
      exact ⟨docs_of_histogramGroups (fun _ => docs_of_groupByKey) hgroups hgroup, fun _ => rfl⟩
  | histogram spec =>
      change histogramBuckets spec docs = .ok buckets at h
      unfold histogramBuckets at h
      split at h
      · cases h
      · rcases bind_eq_ok_iff.mp h with ⟨groups, hgroups, heq⟩
        cases heq
        rcases List.mem_map.mp hbucket with ⟨group, hgroup, rfl⟩
        exact ⟨docs_of_histogramGroups (fun _ => docs_of_groupByKey) hgroups hgroup,
          fun _ => Json.isFinite_ofFloat _⟩

/-!
# Orders of buckets
-/

/-- Order of two buckets by what an item of ORDER BY names: the numbers that the measure has
over their documents, or their keys. -/
def compareByTarget (target : OrderTarget) (a b : Bucket) : Ordering :=
  match target with
  | .measure measure =>
      compareValueOptions (measureValue a.docs measure) (measureValue b.docs measure)
  | .key _ => compareValues a.key b.key

def compareBuckets (targets : List (OrderTarget × Direction)) (a b : Bucket) : Ordering :=
  (firstDecided (targets.map (fun target =>
    orient target.2 (compareByTarget target.1 a b)))).then (compareValues a.key b.key)

/-- The bucket with more documents comes first, and of two with as many that of the lesser key. -/
def compareByCount (a b : Bucket) : Ordering :=
  (compare b.docs.length a.docs.length).then (compareValues a.key b.key)

theorem isNaN_value? {metric : Request.Metric} {docs : List Document} {result : MetricResult}
    (h : evaluateMetric metric docs = .ok result) {x : Float} (hx : result.value? = some x) :
    x.isNaN = false := by
  cases result with
  | count value =>
      cases hx
      exact Number.isNaN_ofNat value
  | number value =>
      have hfinite : FiniteOption value := isFinite_of_evaluateMetric h
      exact Number.isNaN_of_isFinite (hfinite x hx)
  | stats value => cases hx
  | percentiles values => cases hx
  | hits total listed => cases hx

theorem isNaN_measureValue {docs : List Document} {measure : Measure} {x : Float}
    (h : measureValue docs measure = some x) : x.isNaN = false := by
  unfold measureValue at h
  split at h
  · rename_i result hresult
    exact isNaN_value? hresult h
  · cases h

theorem compareValueOptions_eq {a b : Option Float}
    (ha : forall x, a = some x -> x.isNaN = false) (hb : forall y, b = some y -> y.isNaN = false) :
    compareValueOptions a b = missingFirst Number.floatOrder a b := by
  cases a with
  | none => cases b <;> rfl
  | some x =>
      cases b with
      | none => rfl
      | some y =>
          show compareFloats x y = (Number.floatOrder x y).swap.swap
          rw [Ordering.swap_swap]
          exact Number.compareFloats_eq_floatOrder (ha x rfl) (hb y rfl)

def targetOrder (target : OrderTarget) (a b : Bucket) : Ordering :=
  match target with
  | .measure measure =>
      missingFirst Number.floatOrder (measureValue a.docs measure) (measureValue b.docs measure)
  | .key _ => valueOrder a.key b.key

instance (target : OrderTarget) : Std.TransCmp (targetOrder target) := by
  cases target with
  | measure measure =>
      have := transCmp_missingFirst Number.floatOrder
      exact transCmp_key (missingFirst Number.floatOrder)
        (fun bucket : Bucket => measureValue bucket.docs measure)
  | key position => exact transCmp_key valueOrder (fun bucket : Bucket => bucket.key)

def bucketOrder (targets : List (OrderTarget × Direction)) : Bucket -> Bucket -> Ordering :=
  compareLex
    (fun a b => firstDecided ((targets.map (fun target (a b : Bucket) =>
      orient target.2 (targetOrder target.1 a b))).map (fun order => order a b)))
    (fun a b => valueOrder a.key b.key)

instance (targets : List (OrderTarget × Direction)) : Std.TransCmp (bucketOrder targets) := by
  have hkeys := transCmp_key valueOrder (fun bucket : Bucket => bucket.key)
  refine transCmp_decidedLast ?_ (fun a b : Bucket => valueOrder a.key b.key)
  intro order hmem
  obtain ⟨target, _, rfl⟩ := List.mem_map.mp hmem
  exact transCmp_orient (targetOrder target.1) target.2

def countOrder : Bucket -> Bucket -> Ordering :=
  compareLex (fun a b => (compare a.docs.length b.docs.length).swap)
    (fun a b => valueOrder a.key b.key)

instance : Std.TransCmp countOrder := by
  have hkeys := transCmp_key valueOrder (fun bucket : Bucket => bucket.key)
  have hcounts := transCmp_key (compare : Nat -> Nat -> Ordering)
    (fun bucket : Bucket => bucket.docs.length)
  have hswapped := transCmp_swap (fun a b : Bucket => compare a.docs.length b.docs.length)
  exact inferInstanceAs (Std.TransCmp (compareLex _ _))

section

variable {a b : Bucket} (ha : a.key.isFinite = true) (hb : b.key.isFinite = true)

include ha hb

theorem compareByTarget_eq_targetOrder (target : OrderTarget) :
    compareByTarget target a b = targetOrder target a b := by
  cases target with
  | key position => exact compareValues_eq_valueOrder ha hb
  | measure measure =>
      exact compareValueOptions_eq (fun _ => isNaN_measureValue) (fun _ => isNaN_measureValue)

theorem compareBuckets_eq_bucketOrder (targets : List (OrderTarget × Direction)) :
    compareBuckets targets a b = bucketOrder targets a b := by
  show _ = (firstDecided _).then (valueOrder a.key b.key)
  rw [compareBuckets, compareValues_eq_valueOrder ha hb, List.map_map]
  congr 2
  apply List.map_congr_left
  intro target _
  exact congrArg (orient target.2) (compareByTarget_eq_targetOrder ha hb target.1)

theorem compareByCount_eq_countOrder : compareByCount a b = countOrder a b := by
  show _ = (compare a.docs.length b.docs.length).swap.then (valueOrder a.key b.key)
  rw [compareByCount, compareValues_eq_valueOrder ha hb, Nat.compare_swap]

end

end Store
end Rollup
