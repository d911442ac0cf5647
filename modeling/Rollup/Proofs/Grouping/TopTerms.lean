import Rollup.Proofs.Grouping.Arrangement
import Rollup.Proofs.Grouping.Runnable

/-!
# The first buckets of terms

Buckets of terms are sorted by the sort keys in turn and at last by their own keys, and
the first of them are kept. Where no two of these keys are equal in the order of values,
no two buckets are equal in the order of buckets. Which buckets are kept, and in which
order, then does not depend on the order in which they were formed.
-/

namespace Rollup
namespace Store

open Calendar (Instant)
open Request (Aggregation Terms)
open Sql (Direction)

/-!
# Ranks of groups
-/

def HasNumber (group : Group) (name : String) (x : Float) : Prop :=
  exists result, group.2.lookup name = some (.metric result)
    ∧ (result = .number (some x) ∨ exists count, result = .count count ∧ x = Float.ofNat count)

def NamesResult (key : String) : Prop :=
  key ≠ "_count" ∧ key ≠ "_key" ∧ key ≠ "_term"

/-- The first group is below the second by a sort key. Groups without a number are the lowest. -/
inductive IsBelow (key : String) (a b : Group) : Prop
  | count (hkey : key = "_count") (h : a.1.docs.length < b.1.docs.length)
  | key (hkey : key = "_key" ∨ key = "_term") (h : compareValues a.1.key b.1.key = .lt)
  | number {x y : Float} (hkey : NamesResult key) (ha : HasNumber a key x) (hb : HasNumber b key y)
      (h : x < y)
  | missing {y : Float} (hkey : NamesResult key) (ha : forall x, ¬HasNumber a key x)
      (hb : HasNumber b key y)

/-- The sort key puts the first group before the second. -/
def Leads (key : String × Direction) (a b : Group) : Prop :=
  (key.2 = .asc ∧ IsBelow key.1 a b) ∨ (key.2 = .desc ∧ IsBelow key.1 b a)

/-- The first group comes before the second by the sort keys in turn and, where they do not decide,
by its own key. -/
inductive Outranks : List (String × Direction) -> Group -> Group -> Prop
  | decided {key : String × Direction} {keys : List (String × Direction)} {a b : Group}
      (h : Leads key a b) : Outranks (key :: keys) a b
  | later {key : String × Direction} {keys : List (String × Direction)} {a b : Group}
      (h : ¬Leads key a b) (hback : ¬Leads key b a) (hlater : Outranks keys a b) :
      Outranks (key :: keys) a b
  | last {a b : Group} (h : compareValues a.1.key b.1.key = .lt) : Outranks [] a b

/-!
# Orders of groups
-/

/-- The key of the group is finite and its results are no NaN, so that it has a place among
others. -/
structure IsComparable (group : Group) : Prop where
  key : group.1.key.isFinite = true
  values : forall name x, groupValue? group name = some x -> x.isNaN = false

def sortKeyOrder (key : String) : Group -> Group -> Ordering :=
  if key = "_count" then
    fun a b => compare a.1.docs.length b.1.docs.length
  else if key = "_key" || key = "_term" then
    fun a b => valueOrder a.1.key b.1.key
  else
    fun a b => missingFirst Number.floatOrder (groupValue? a key) (groupValue? b key)

instance (key : String) : Std.TransCmp (sortKeyOrder key) := by
  unfold sortKeyOrder
  split
  · exact transCmp_key compare (fun group : Group => group.1.docs.length)
  split
  · exact transCmp_key valueOrder (fun group : Group => group.1.key)
  · have := transCmp_missingFirst Number.floatOrder
    exact transCmp_key (missingFirst Number.floatOrder) (fun group : Group => groupValue? group key)

def groupOrder (keys : List (String × Direction)) : Group -> Group -> Ordering :=
  compareLex
    (fun a b => firstDecided ((keys.map (fun key (a b : Group) =>
      orient key.2 (sortKeyOrder key.1 a b))).map (fun order => order a b)))
    (fun a b => valueOrder a.1.key b.1.key)

instance (keys : List (String × Direction)) : Std.TransCmp (groupOrder keys) := by
  have hkeys := transCmp_key valueOrder (fun group : Group => group.1.key)
  apply transCmp_decidedLast
  intro order hmem
  obtain ⟨key, _, rfl⟩ := List.mem_map.mp hmem
  exact transCmp_orient (sortKeyOrder key.1) key.2

theorem groupOrder_nil (a b : Group) : groupOrder [] a b = valueOrder a.1.key b.1.key :=
  rfl

theorem groupOrder_cons (key : String × Direction) (keys : List (String × Direction))
    (a b : Group) :
    groupOrder (key :: keys) a b
      = (orient key.2 (sortKeyOrder key.1 a b)).then (groupOrder keys a b) :=
  Ordering.then_assoc _ _ _

theorem hasNumber_iff {group : Group} {name : String} {x : Float} :
    HasNumber group name x <-> groupValue? group name = some x := by
  unfold HasNumber groupValue?
  constructor
  · rintro ⟨result, hlookup, hresult⟩
    rw [hlookup, Option.bind_some]
    rcases hresult with rfl | ⟨count, rfl, rfl⟩ <;> rfl
  · intro h
    rcases Option.bind_eq_some_iff.mp h with ⟨found, hlookup, hvalue⟩
    cases found with
    | buckets groups => cases hvalue
    | metric result =>
        refine ⟨result, hlookup, ?_⟩
        cases result with
        | number value => exact Or.inl (congrArg MetricResult.number hvalue)
        | count count => exact Or.inr ⟨count, rfl, (Option.some.inj hvalue).symm⟩
        | _ => cases hvalue

theorem not_hasNumber_iff {group : Group} {name : String} :
    (forall x, ¬HasNumber group name x) <-> groupValue? group name = none := by
  simp only [hasNumber_iff]
  exact Option.eq_none_iff_forall_ne_some.symm

section

variable {a b : Group} (ha : IsComparable a) (hb : IsComparable b)

include ha hb

theorem compareByKey_eq_sortKeyOrder (key : String) :
    compareByKey key a b = sortKeyOrder key a b := by
  unfold compareByKey sortKeyOrder
  split
  · rfl
  split
  · exact compareValues_eq_valueOrder ha.key hb.key
  · exact compareValueOptions_eq (ha.values key) (hb.values key)

theorem isBelow_result_iff {key : String} (hkey : NamesResult key) :
    IsBelow key a b
      <-> missingFirst Number.floatOrder (groupValue? a key) (groupValue? b key) = .lt := by
  constructor
  · intro h
    cases h with
    | count hcount => exact absurd hcount hkey.left
    | key hother => exact absurd hother (not_or.mpr hkey.right)
    | number _ hx hy h =>
        rw [hasNumber_iff.mp hx, hasNumber_iff.mp hy]
        show (Number.floatOrder _ _).swap.swap = .lt
        rw [Ordering.swap_swap]
        exact (Number.lt_iff_floatOrder.mp h).right.right
    | missing _ hnone hy =>
        rw [not_hasNumber_iff.mp hnone, hasNumber_iff.mp hy]
        rfl
  · intro h
    cases hy : groupValue? b key with
    | none =>
        rw [hy] at h
        cases hx : groupValue? a key <;> rw [hx] at h <;> cases h
    | some y =>
        cases hx : groupValue? a key with
        | none => exact .missing hkey (not_hasNumber_iff.mpr hx) (hasNumber_iff.mpr hy)
        | some x =>
            have hless : (Number.floatOrder x y).swap.swap = .lt := by
              rw [hx, hy] at h
              exact h
            rw [Ordering.swap_swap] at hless
            exact .number hkey (hasNumber_iff.mpr hx) (hasNumber_iff.mpr hy)
              (Number.lt_iff_floatOrder.mpr ⟨ha.values key x hx, hb.values key y hy, hless⟩)

theorem isBelow_iff {key : String} : IsBelow key a b <-> sortKeyOrder key a b = .lt := by
  unfold sortKeyOrder
  split
  · rename_i hcount
    rw [Nat.compare_eq_lt]
    constructor
    · intro h
      cases h with
      | count _ h => exact h
      | key hother => rcases hother with rfl | rfl <;> exact absurd hcount (by decide)
      | number hkey => exact absurd hcount hkey.left
      | missing hkey => exact absurd hcount hkey.left
    · exact .count hcount
  rename_i hcount
  split
  · rename_i hown
    rw [Bool.or_eq_true, decide_eq_true_eq, decide_eq_true_eq] at hown
    show _ <-> valueOrder a.1.key b.1.key = .lt
    rw [<- compareValues_eq_valueOrder ha.key hb.key]
    constructor
    · intro h
      cases h with
      | count h => exact absurd h hcount
      | key _ h => exact h
      | number hkey => exact absurd hown (not_or.mpr hkey.right)
      | missing hkey => exact absurd hown (not_or.mpr hkey.right)
    · exact .key hown
  · rename_i hown
    rw [Bool.or_eq_true, decide_eq_true_eq, decide_eq_true_eq, not_or] at hown
    exact isBelow_result_iff ha hb ⟨hcount, hown⟩

theorem leads_iff {key : String × Direction} :
    Leads key a b <-> orient key.2 (sortKeyOrder key.1 a b) = .lt := by
  obtain ⟨name, direction⟩ := key
  cases direction with
  | asc => simp [Leads, orient, isBelow_iff ha hb]
  | desc =>
      simp [Leads, orient, isBelow_iff hb ha]
      exact Std.OrientedCmp.gt_iff_lt.symm

theorem not_leads_iff {key : String × Direction} :
    ¬Leads key a b ∧ ¬Leads key b a <-> orient key.2 (sortKeyOrder key.1 a b) = .eq := by
  have horder := transCmp_orient (sortKeyOrder key.1) key.2
  have hswap : orient key.2 (sortKeyOrder key.1 b a)
      = (orient key.2 (sortKeyOrder key.1 a b)).swap :=
    horder.eq_swap
  rw [leads_iff ha hb, leads_iff hb ha, hswap]
  cases orient key.2 (sortKeyOrder key.1 a b) <;> simp

theorem outranks_iff {keys : List (String × Direction)} :
    Outranks keys a b <-> groupOrder keys a b = .lt := by
  induction keys with
  | nil =>
      rw [groupOrder_nil, <- compareValues_eq_valueOrder ha.key hb.key]
      constructor
      · intro h
        cases h with
        | last h => exact h
      · exact .last
  | cons key rest ih =>
      rw [groupOrder_cons, Ordering.then_eq_lt, <- leads_iff ha hb, <- not_leads_iff ha hb, <- ih]
      constructor
      · intro h
        cases h with
        | decided h => exact Or.inl h
        | later h hback hlater => exact Or.inr ⟨⟨h, hback⟩, hlater⟩
      · rintro (h | ⟨⟨h, hback⟩, hlater⟩)
        · exact .decided h
        · exact .later h hback hlater

theorem compareGroups_eq_groupOrder (keys : List (String × Direction)) :
    compareGroups keys a b = groupOrder keys a b := by
  show _ = (firstDecided _).then (valueOrder a.1.key b.1.key)
  rw [compareGroups, compareValues_eq_valueOrder ha.key hb.key, List.map_map]
  congr 2
  apply List.map_congr_left
  intro key _
  exact congrArg (orient key.2) (compareByKey_eq_sortKeyOrder ha hb key.1)

end

/-!
# Groups that can be compared
-/

theorem metric_of_evaluate {now : Instant} {name : String} {docs : List Document}
    {aggregation : Aggregation} {result : MetricResult}
    (h : evaluate now name docs aggregation = .ok (.metric result)) :
    exists metric, evaluateMetric metric docs = .ok result := by
  cases hbucketing : aggregation.kinds.bucketing? with
  | some bucketing =>
      rw [evaluate_of_bucketing? hbucketing] at h
      rcases bind_eq_ok_iff.mp h with ⟨_, _, h⟩
      rcases bind_eq_ok_iff.mp h with ⟨_, _, h⟩
      rcases bind_eq_ok_iff.mp h with ⟨_, _, h⟩
      rcases bind_eq_ok_iff.mp h with ⟨_, _, h⟩
      cases h
  | none =>
      cases hmetric : aggregation.kinds.metric? with
      | none =>
          rw [evaluate_untyped hbucketing hmetric] at h
          cases h
      | some metric =>
          rw [evaluate_of_metric? hbucketing hmetric] at h
          rcases bind_eq_ok_iff.mp h with ⟨found, hfound, heq⟩
          cases heq
          exact ⟨metric, hfound⟩

theorem isComparable_of_evaluateAll {now : Instant} {subs : List (String × Aggregation)}
    {group : Group} (hkey : group.1.key.isFinite = true)
    (h : evaluateAll now group.1.docs subs = .ok group.2) : IsComparable group := by
  constructor
  · exact hkey
  · intro name x hx
    unfold groupValue? at hx
    rcases Option.bind_eq_some_iff.mp hx with ⟨result, hlookup, hvalue⟩
    rcases List.lookup_eq_some_iff.mp hlookup with ⟨before, after, hsplit, _⟩
    have hmem : (name, result) ∈ group.2 := by
      rw [hsplit]
      exact List.mem_append_right before List.mem_cons_self
    rcases exists_left_of_mem (evaluateAll_eq_ok_iff.mp h) hmem with ⟨sub, _, _, hresult⟩
    cases result with
    | buckets groups => cases hvalue
    | metric found =>
        rcases metric_of_evaluate hresult with ⟨metric, hmetric⟩
        exact isNaN_value? hmetric hvalue

/-!
# Ranking
-/

def termKeys (spec : Terms) : List (String × Direction) :=
  (spec.order.getD [[("_count", .desc)]]).flatten

/-- Evaluates what is inside buckets of terms, sorts them and keeps the first. -/
def rankBuckets (now : Instant) (spec : Terms) (subs : List (String × Aggregation))
    (buckets : List Bucket) : Except BackendError (List Group) := do
  let groups <- buckets.mapM (fun bucket => do
    let results <- evaluateAll now bucket.docs subs
    return (bucket, results))
  let ordered <- orderGroups (.terms spec) subs groups
  return cutGroups (.terms spec) ordered

/-- All buckets with the results inside them, each before those that come behind it by the
sort keys in turn and at last by key. -/
structure IsRanking (now : Instant) (keys : List (String × Direction))
    (subs : List (String × Aggregation)) (buckets : List Bucket) (arranged : List Group) :
    Prop where
  perm : (arranged.map Prod.fst).Perm buckets
  results : forall group, group ∈ arranged -> evaluateAll now group.1.docs subs = .ok group.2
  sorted : arranged.Pairwise (Outranks keys)

theorem IsRanking.outranks_of_take_of_drop {now : Instant} {keys : List (String × Direction)}
    {subs : List (String × Aggregation)} {buckets : List Bucket} {arranged : List Group}
    (h : IsRanking now keys subs buckets arranged) {size : Nat} {kept omitted : Group}
    (hkept : kept ∈ arranged.take size) (homitted : omitted ∈ arranged.drop size) :
    Outranks keys kept omitted := by
  have hsorted := h.sorted
  rw [<- List.take_append_drop size arranged] at hsorted
  exact (List.pairwise_append.mp hsorted).right.right kept hkept omitted homitted

theorem orderGroups_termKeys {spec : Terms} {subs : List (String × Aggregation)}
    (hpaths : forall key, key ∈ termKeys spec -> isOrderPath subs key.1 = true)
    (groups : List Group) :
    orderGroups (.terms spec) subs groups
      = .ok (groups.mergeSort (fun a b => compareGroups (termKeys spec) a b != .gt)) := by
  have hsorted : orderGroups (.terms spec) subs groups
      = sortGroups subs (spec.order.getD [[("_count", .desc)]]) groups := by
    obtain ⟨field, size, order⟩ := spec
    cases order <;> rfl
  have hnames : forall key,
      key ∈ (spec.order.getD [[("_count", .desc)]]).flatten.map Prod.fst ->
        isOrderPath subs key = true := by
    intro name hname
    rcases List.mem_map.mp hname with ⟨key, hkey, rfl⟩
    exact hpaths key hkey
  rcases exists_sortGroups hnames groups with ⟨ordered, hordered⟩
  rw [hsorted, hordered, eq_mergeSort_of_sortGroups hordered]
  rfl

section

variable {now : Instant} {spec : Terms} {subs : List (String × Aggregation)}

def groupOf (now : Instant) (subs : List (String × Aggregation)) (bucket : Bucket) : Group :=
  (bucket, (evaluateAll now bucket.docs subs).toOption.getD [])

theorem evaluateAll_groupOf {bucket : Bucket}
    (h : exists results, evaluateAll now bucket.docs subs = .ok results) :
    evaluateAll now bucket.docs subs = .ok (groupOf now subs bucket).2 := by
  rcases h with ⟨results, hresults⟩
  rw [groupOf, hresults]
  rfl

theorem IsRanking.eq_map_groupOf {keys : List (String × Direction)} {buckets : List Bucket}
    {arranged : List Group} (h : IsRanking now keys subs buckets arranged) :
    (arranged.map Prod.fst).map (groupOf now subs) = arranged := by
  rw [List.map_map]
  refine (List.map_congr_left ?_).trans (List.map_id arranged)
  intro group hgroup
  rw [Function.comp_apply, groupOf, h.results group hgroup]
  rfl

theorem IsRanking.unique {keys : List (String × Direction)} {buckets : List Bucket}
    (hfinite : forall bucket, bucket ∈ buckets -> bucket.key.isFinite = true)
    {arranged other : List Group} (h : IsRanking now keys subs buckets arranged)
    (hother : IsRanking now keys subs buckets other) : arranged = other := by
  have hcomparable : forall {found : List Group}, IsRanking now keys subs buckets found ->
      forall group, group ∈ found -> IsComparable group := by
    intro found hfound group hgroup
    have hmem := hfound.perm.mem_iff.mp (List.mem_map_of_mem hgroup)
    exact isComparable_of_evaluateAll (hfinite group.1 hmem) (hfound.results group hgroup)
  apply List.Perm.eq_of_pairwise ?_ h.sorted hother.sorted
  · rw [<- h.eq_map_groupOf, <- hother.eq_map_groupOf]
    exact (h.perm.trans hother.perm.symm).map (groupOf now subs)
  · intro a b ha hb hab hba
    have hcomparea := hcomparable h a ha
    have hcompareb := hcomparable hother b hb
    rw [outranks_iff hcomparea hcompareb] at hab
    rw [outranks_iff hcompareb hcomparea, Std.OrientedCmp.gt_of_lt hab] at hba
    cases hba

theorem rankBuckets_eq_ok
    (hpaths : forall key, key ∈ termKeys spec -> isOrderPath subs key.1 = true)
    {buckets : List Bucket}
    (hresults : forall bucket, bucket ∈ buckets ->
      exists results, evaluateAll now bucket.docs subs = .ok results) :
    rankBuckets now spec subs buckets
      = .ok (((buckets.map (groupOf now subs)).mergeSort
          (fun a b => compareGroups (termKeys spec) a b != .gt)).take (spec.size.getD 10)) := by
  have hgroups : buckets.mapM (fun bucket => do
        let results <- evaluateAll now bucket.docs subs
        return (bucket, results)) = .ok (buckets.map (groupOf now subs)) := by
    rw [mapM_eq_ok_iff, List.forall₂_map_right_iff, List.forall₂_same]
    intro bucket hbucket
    rw [evaluateAll_groupOf (hresults bucket hbucket)]
    rfl
  rw [rankBuckets, hgroups, ok_bind, orderGroups_termKeys hpaths, ok_bind]
  rfl

theorem rankBuckets_eq_error {buckets : List Bucket} {bucket : Bucket} (hbucket : bucket ∈ buckets)
    (hfails : forall results, evaluateAll now bucket.docs subs ≠ .ok results) :
    exists e, rankBuckets now spec subs buckets = .error e := by
  cases hranked : rankBuckets now spec subs buckets with
  | error e => exact ⟨e, rfl⟩
  | ok ranked =>
      rcases bind_eq_ok_iff.mp hranked with ⟨groups, hgroups, _⟩
      rcases exists_result_of_mem_mapM hgroups hbucket with ⟨group, _, hgroup⟩
      rcases bind_eq_ok_iff.mp hgroup with ⟨results, hresults, _⟩
      exact absurd hresults (hfails results)

variable {buckets : List Bucket}
  (hpaths : forall key, key ∈ termKeys spec -> isOrderPath subs key.1 = true)
  (hfinite : forall bucket, bucket ∈ buckets -> bucket.key.isFinite = true)
  (hkeys : buckets.Pairwise (fun a b => compareValues a.key b.key ≠ .eq))
  (hresults : forall bucket, bucket ∈ buckets ->
    exists results, evaluateAll now bucket.docs subs = .ok results)

include hfinite hresults

theorem isComparable_groupOf {group : Group} (h : group ∈ buckets.map (groupOf now subs)) :
    IsComparable group := by
  rcases List.mem_map.mp h with ⟨bucket, hbucket, rfl⟩
  exact isComparable_of_evaluateAll (hfinite bucket hbucket)
    (evaluateAll_groupOf (hresults bucket hbucket))

theorem mergeSort_groupOf (keys : List (String × Direction)) :
    (buckets.map (groupOf now subs)).mergeSort (fun a b => compareGroups keys a b != .gt)
      = (buckets.map (groupOf now subs)).mergeSort (fun a b => groupOrder keys a b != .gt) := by
  apply mergeSort_congr
  intro a ha b hb
  rw [compareGroups_eq_groupOrder (isComparable_groupOf hfinite hresults ha)
    (isComparable_groupOf hfinite hresults hb)]

omit hresults

include hkeys

theorem pairwise_groupOf (keys : List (String × Direction)) :
    (buckets.map (groupOf now subs)).Pairwise (fun a b => groupOrder keys a b ≠ .eq) := by
  rw [List.pairwise_map]
  refine hkeys.imp_of_mem ?_
  intro a b ha hb hne heq
  apply hne
  rw [compareValues_eq_valueOrder (hfinite a ha) (hfinite b hb)]
  exact (Ordering.then_eq_eq.mp heq).right

include hresults

theorem isRanking_mergeSort (keys : List (String × Direction)) :
    IsRanking now keys subs buckets
      ((buckets.map (groupOf now subs)).mergeSort (fun a b => compareGroups keys a b != .gt)) := by
  have hperm := (buckets.map (groupOf now subs)).mergeSort_perm
    (fun a b => compareGroups keys a b != .gt)
  have hgroups : forall group, group ∈ (buckets.map (groupOf now subs)).mergeSort
      (fun a b => compareGroups keys a b != .gt) -> group ∈ buckets.map (groupOf now subs) :=
    fun group hgroup => hperm.mem_iff.mp hgroup
  constructor
  case perm =>
      have hbuckets : (buckets.map (groupOf now subs)).map Prod.fst = buckets := by
        rw [List.map_map]
        exact List.map_id buckets
      have hfirst := hperm.map Prod.fst
      rw [hbuckets] at hfirst
      exact hfirst
  case results =>
      intro group hgroup
      rcases List.mem_map.mp (hgroups group hgroup) with ⟨bucket, hbucket, rfl⟩
      exact evaluateAll_groupOf (hresults bucket hbucket)
  case sorted =>
      have hsorted := pairwise_lt_mergeSort (@pairwise_groupOf now subs _ hfinite hkeys keys)
      rw [<- mergeSort_groupOf hfinite hresults] at hsorted
      refine hsorted.imp_of_mem ?_
      intro a b ha hb hlt
      exact (outranks_iff (isComparable_groupOf hfinite hresults (hgroups a ha))
        (isComparable_groupOf hfinite hresults (hgroups b hb))).mpr hlt

include hpaths

theorem rankBuckets_of_perm {shuffled : List Bucket} (hperm : shuffled.Perm buckets) :
    rankBuckets now spec subs shuffled
      = .ok (((buckets.map (groupOf now subs)).mergeSort
          (fun a b => compareGroups (termKeys spec) a b != .gt)).take (spec.size.getD 10)) := by
  have hothers : forall bucket, bucket ∈ shuffled ->
      exists results, evaluateAll now bucket.docs subs = .ok results :=
    fun bucket hbucket => hresults bucket (hperm.mem_iff.mp hbucket)
  have hfinites : forall bucket, bucket ∈ shuffled -> bucket.key.isFinite = true :=
    fun bucket hbucket => hfinite bucket (hperm.mem_iff.mp hbucket)
  rw [rankBuckets_eq_ok hpaths hothers, mergeSort_groupOf hfinites hothers,
    mergeSort_groupOf hfinite hresults,
    mergeSort_eq_of_perm (hperm.map (groupOf now subs)) (pairwise_groupOf hfinite hkeys _)]

end

/-- Terms are ranked before selectors are applied. Where no two keys are equal, the ranking
keeps the first groups of the one order of all groups, in whatever order their buckets come.
Where the results inside a bucket cannot be computed, there is no ranking in any order. -/
theorem evaluate_rankedTerms {now : Instant} {aggregation : Aggregation} {spec : Terms}
    {docs : List Document} (hterms : aggregation.kinds.terms = some spec)
    (hpaths : forall key, key ∈ termKeys spec -> isOrderPath aggregation.subs key.1 = true)
    (hfinite : forall doc, doc ∈ docs -> doc.source.isFinite = true)
    (hkeys : (termBuckets spec docs).Pairwise (fun a b => compareValues a.key b.key ≠ .eq)) :
    (forall name, evaluate now name docs aggregation = (do
        let ranked <- rankBuckets now spec aggregation.subs (termBuckets spec docs)
        let selected <- selectGroups aggregation.subs ranked
        return .buckets selected))
      ∧ ((forall bucket, bucket ∈ termBuckets spec docs ->
            exists results, evaluateAll now bucket.docs aggregation.subs = .ok results) ->
          exists arranged,
            IsRanking now (termKeys spec) aggregation.subs (termBuckets spec docs) arranged
              ∧ (forall kept, kept ∈ arranged.take (spec.size.getD 10) ->
                  forall omitted, omitted ∈ arranged.drop (spec.size.getD 10) ->
                    Outranks (termKeys spec) kept omitted)
              ∧ forall shuffled, shuffled.Perm (termBuckets spec docs) ->
                  rankBuckets now spec aggregation.subs shuffled
                    = .ok (arranged.take (spec.size.getD 10)))
      ∧ ((exists bucket, bucket ∈ termBuckets spec docs
            ∧ forall results, evaluateAll now bucket.docs aggregation.subs ≠ .ok results) ->
          forall shuffled, shuffled.Perm (termBuckets spec docs) ->
            exists e, rankBuckets now spec aggregation.subs shuffled = .error e) := by
  refine ⟨?_, ?_, ?_⟩
  · intro name
    have hbucketing : aggregation.kinds.bucketing? = some (.terms spec) := by
      rw [Request.Kinds.bucketing?, hterms]
      rfl
    rw [evaluate_of_bucketing? hbucketing, rankBuckets]
    simp only [formBuckets, ok_bind, bind_assoc, pure_bind]
  · intro hresults
    have hfinites : forall bucket, bucket ∈ termBuckets spec docs ->
        bucket.key.isFinite = true := by
      intro bucket hbucket
      have hformed : formBuckets now (.terms spec) docs = .ok (termBuckets spec docs) := rfl
      exact (bucket_of_formBuckets hformed hbucket).right hfinite
    have hranking := isRanking_mergeSort hfinites hkeys hresults (termKeys spec)
    refine ⟨_, hranking, ?_, ?_⟩
    · intro kept hkept omitted homitted
      exact hranking.outranks_of_take_of_drop hkept homitted
    · intro shuffled hperm
      exact rankBuckets_of_perm hpaths hfinites hkeys hresults hperm
  · intro ⟨bucket, hbucket, hfails⟩ shuffled hperm
    exact rankBuckets_eq_error (hperm.mem_iff.mpr hbucket) hfails

def oldestCity : Terms :=
  { field := "city", size := some 1, order := some [[("_count", .desc)], [("oldest", .desc)]] }

def oldestCityNode : Aggregation :=
  .node { terms := some oldestCity }
    (some [("oldest", .node { max := some "age" } none)])

def travellers : List Document :=
  [person "1" "Oslo" 20 [], person "2" "Rome" 40 []]

def cityBucket (id city : String) (age : Int) : Bucket :=
  { key := .str city, docs := [person id city age []] }

theorem isRanking_travellers :
    IsRanking people.now (termKeys oldestCity) oldestCityNode.subs
      (termBuckets oldestCity travellers)
      [ (cityBucket "2" "Rome" 40, [("oldest", .metric (.number (some 40)))])
      , (cityBucket "1" "Oslo" 20, [("oldest", .metric (.number (some 20)))]) ] where
  perm := List.Perm.swap _ _ []
  results := by
    rw [List.forall_mem_cons, List.forall_mem_singleton]
    exact ⟨rfl, rfl⟩
  sorted := by
    have hcomparable : forall group : Group, group.1.key.isFinite = true ->
        evaluateAll people.now group.1.docs oldestCityNode.subs = .ok group.2 ->
          IsComparable group :=
      fun _ => isComparable_of_evaluateAll
    rw [List.pairwise_pair]
    exact (outranks_iff (hcomparable _ rfl rfl) (hcomparable _ rfl rfl)).mpr (by decide +kernel)

theorem evaluate_rankedTerms_oldestCity :
    (forall key, key ∈ termKeys oldestCity -> isOrderPath oldestCityNode.subs key.1 = true)
      ∧ (forall doc, doc ∈ travellers -> doc.source.isFinite = true)
      ∧ (termBuckets oldestCity travellers).Pairwise (fun a b => compareValues a.key b.key ≠ .eq)
      ∧ rankBuckets people.now oldestCity oldestCityNode.subs (termBuckets oldestCity travellers)
          = .ok [(cityBucket "2" "Rome" 40, [("oldest", .metric (.number (some 40)))])]
      ∧ rankBuckets people.now oldestCity oldestCityNode.subs
            (termBuckets oldestCity travellers).reverse
          = .ok [(cityBucket "2" "Rome" 40, [("oldest", .metric (.number (some 40)))])] := by
  have hpaths : forall key, key ∈ termKeys oldestCity ->
      isOrderPath oldestCityNode.subs key.1 = true := by
    decide +kernel
  have hfinite : forall doc, doc ∈ travellers -> doc.source.isFinite = true := by
    decide +kernel
  have hkeys : (termBuckets oldestCity travellers).Pairwise (fun a b =>
      compareValues a.key b.key ≠ .eq) := by
    decide +kernel
  have hresults : forall bucket, bucket ∈ termBuckets oldestCity travellers ->
      exists results, evaluateAll people.now bucket.docs oldestCityNode.subs = .ok results := by
    intro bucket _
    exact ⟨_, rfl⟩
  rcases (@evaluate_rankedTerms people.now oldestCityNode oldestCity travellers rfl hpaths hfinite
    hkeys).right.left hresults with ⟨arranged, hranking, _, hranked⟩
  cases hranking.unique (by decide +kernel) isRanking_travellers
  exact ⟨hpaths, hfinite, hkeys, hranked _ (List.Perm.refl _), hranked _ (List.reverse_perm _)⟩

end Store
end Rollup
