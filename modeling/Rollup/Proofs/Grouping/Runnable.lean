import Rollup.Proofs.Grouping.Histogram
import Rollup.Proofs.Grouping.Leaves

/-!
# Runnable aggregations

A store rejects a request that is at fault itself: one with an aggregation of no type, a
sort key that names nothing, an interval it cannot read or that is not positive, or a
script it cannot evaluate. Aggregations that are runnable have none of these faults, and
over no documents does their evaluation fail for one.
-/

namespace Rollup
namespace Store

open Calendar (Instant)
open Request (Aggregation Bucketing DateHistogram Kinds Metric Selector)

/-- The request is at fault, and not what it is run over. -/
inductive IsRequestFault : BackendError -> Prop
  | untyped (name : String) : IsRequestFault (.rejected (.untyped name))
  | orderPath (path : String) : IsRequestFault (.rejected (.orderPath path))
  | missingInterval : IsRequestFault (.rejected .missingInterval)
  | interval (fault : Calendar.IntervalFault) : IsRequestFault (.rejected (.interval fault))
  | histogramInterval (interval : Float) :
      IsRequestFault (.rejected (.histogramInterval interval))
  | selector (name : String) (fault : Script.Fault) :
      IsRequestFault (.unsupported (.selector name fault))

/-!
# Forming buckets
-/

/-- The interval of a histogram is one that can be stepped by. -/
def HasInterval : Bucketing -> Prop
  | .dateHistogram spec => exists interval, dateInterval spec = .ok interval
  | .histogram spec => spec.interval > 0
  | _ => True

theorem avoids_resolveBound (now : Instant) (pattern bound : Option String) :
    Avoids IsRequestFault (resolveBound now pattern bound) := by
  unfold resolveBound
  split
  · exact .ok none
  · split
    · exact .ok _
    · rename_i fault _
      cases fault <;> exact .failed nofun

theorem avoids_renderInstant (pattern : Option String) (instant : Instant) :
    Avoids IsRequestFault (renderInstant pattern instant) := by
  unfold renderInstant
  split
  · exact .ok _
  · exact .failed nofun

theorem avoids_renderBound (pattern : Option String) (bound : Option Instant) :
    Avoids IsRequestFault (renderBound pattern bound) := by
  cases bound with
  | none => exact .ok none
  | some instant => exact .bind (avoids_renderInstant pattern instant) (fun _ _ => .ok _)

theorem avoids_dateRangeBuckets (now : Instant) (spec : Request.DateRanges)
    (docs : List Document) : Avoids IsRequestFault (dateRangeBuckets now spec docs) := by
  refine .bind (.mapM (fun range _ => ?_)) (fun resolved _ => .mapM (fun range _ => ?_))
  · refine .bind (avoids_resolveBound now spec.format range.low) (fun low _ => ?_)
    exact .bind (avoids_resolveBound now spec.format range.high) (fun high _ => .ok _)
  · refine .bind (avoids_renderBound spec.format range.1) (fun low _ => ?_)
    exact .bind (avoids_renderBound spec.format range.2) (fun high _ => .ok _)

theorem avoids_dateOffset (zone : Option String) : Avoids IsRequestFault (dateOffset zone) := by
  unfold dateOffset
  split
  · exact .ok 0
  · split
    · exact .ok _
    · exact .failed nofun
    · exact .failed nofun
    · exact .failed nofun

theorem avoids_dateHistogramBuckets {spec : DateHistogram} {interval : Calendar.Interval}
    (h : dateInterval spec = .ok interval) (docs : List Document) :
    Avoids IsRequestFault (dateHistogramBuckets spec docs) := by
  unfold dateHistogramBuckets
  rw [h, ok_bind]
  refine .bind (avoids_dateOffset spec.timeZone) (fun offset _ => ?_)
  refine .bind (.mapM (fun doc _ => avoids_keyedByDate nofun spec interval offset doc))
    (fun keyed _ => ?_)
  refine .bind (avoids_histogramGroups nofun (avoids_nextDateKey nofun nofun interval offset) _ _)
    (fun groups _ => .mapM (fun group _ => ?_))
  exact avoids_dateBucket nofun (fun _ => nofun) (fun _ => nofun) spec offset group

theorem avoids_formBuckets {bucketing : Bucketing} (h : HasInterval bucketing) (now : Instant)
    (docs : List Document) : Avoids IsRequestFault (formBuckets now bucketing docs) := by
  cases bucketing with
  | terms spec => exact .ok _
  | range spec => exact .ok _
  | dateRange spec => exact avoids_dateRangeBuckets now spec docs
  | dateHistogram spec =>
      rcases h with ⟨interval, hinterval⟩
      exact avoids_dateHistogramBuckets hinterval docs
  | histogram spec =>
      have hpositive : decide (spec.interval > 0) = true := decide_eq_true h
      show Avoids IsRequestFault (histogramBuckets spec docs)
      unfold histogramBuckets
      rw [hpositive, if_neg (by decide)]
      exact .bind (avoids_histogramGroups nofun (avoids_nextSlot nofun) _ _) (fun _ _ => .ok _)

/-!
# Runnable aggregations
-/

def orderKeys (bucketing : Bucketing) : List String :=
  ((bucketing.order?.getD []).flatten).map Prod.fst

/-- The script can be evaluated, whatever numbers its parameters have. -/
def CanEvaluate (selector : Selector) : Prop :=
  forall value : String -> Option Float, exists kept,
    Script.evaluate selector.script
      (selector.paths.map (fun entry => (entry.1, value entry.2))) = .ok kept

/-- Aggregations with a type, which sort by what is inside them, can step by their
intervals and evaluate their scripts. -/
inductive IsRunnable : Aggregation -> Prop
  | metric (metric : Metric) : IsRunnable (.node (Kinds.ofMetric metric) none)
  | selector {selector : Selector} (h : CanEvaluate selector) :
      IsRunnable (.node { selector := some selector } none)
  | buckets {bucketing : Bucketing} {subs : List (String × Aggregation)}
      (hinterval : HasInterval bucketing)
      (horder : forall key, key ∈ orderKeys bucketing -> isOrderPath subs key = true)
      (hsubs : forall sub, sub ∈ subs -> IsRunnable sub.2) :
      IsRunnable (.node (Kinds.ofBucketing bucketing) (innerSubs subs))

theorem IsRunnable.canEvaluate {aggregation : Aggregation} (h : IsRunnable aggregation)
    {selector : Selector} (hselector : aggregation.kinds.selector = some selector) :
    CanEvaluate selector := by
  cases h with
  | metric metric =>
      rw [Aggregation.kinds, selector_ofMetric] at hselector
      cases hselector
  | selector h =>
      cases hselector
      exact h
  | buckets =>
      rw [Aggregation.kinds, selector_ofBucketing] at hselector
      cases hselector

theorem avoids_evaluateMetric (metric : Metric) (docs : List Document) :
    Avoids IsRequestFault (evaluateMetric metric docs) := by
  unfold evaluateMetric
  split
  case h_8 spec =>
      refine .bind (.mapM (fun percent _ => .bind ?_ (fun _ _ => .ok _))) (fun _ _ => .ok _)
      unfold percentile
      dsimp only
      split
      · exact .ok none
      · split
        · exact .ok _
        · exact .failed nofun
  all_goals exact .ok _

theorem exists_sortGroups {subs : List (String × Aggregation)} {order : List Request.SortEntry}
    (h : forall key, key ∈ order.flatten.map Prod.fst -> isOrderPath subs key = true)
    (groups : List Group) : exists ordered, sortGroups subs order groups = .ok ordered := by
  unfold sortGroups
  dsimp only
  split
  · rename_i key direction hfound
    have hbad := List.find?_some hfound
    have hmem := List.mem_map_of_mem (f := Prod.fst) (List.mem_of_find?_eq_some hfound)
    simp [h key hmem] at hbad
  · exact ⟨_, rfl⟩

theorem exists_orderGroups {bucketing : Bucketing} {subs : List (String × Aggregation)}
    (h : forall key, key ∈ orderKeys bucketing -> isOrderPath subs key = true)
    (groups : List Group) : exists ordered, orderGroups bucketing subs groups = .ok ordered := by
  unfold orderGroups
  split
  · rename_i order horder
    refine exists_sortGroups (fun key hkey => h key ?_) groups
    rw [orderKeys, horder]
    exact hkey
  · refine exists_sortGroups (fun key hkey => ?_) groups
    rw [List.mem_singleton.mp hkey]
    rfl
  · exact ⟨groups, rfl⟩

theorem exists_selectGroups {subs : List (String × Aggregation)}
    (h : forall sub, sub ∈ subs -> IsRunnable sub.2) (groups : List Group) :
    exists kept, selectGroups subs groups = .ok kept := by
  induction subs generalizing groups with
  | nil => exact ⟨groups, rfl⟩
  | cons sub rest ih =>
      obtain ⟨name, node⟩ := sub
      have hrest := ih (fun other hother => h other (List.mem_cons_of_mem _ hother))
      rw [selectGroups]
      cases hselector : node.kinds.selector with
      | none => exact hrest groups
      | some selector =>
          have hcan := (h (name, node) List.mem_cons_self).canEvaluate hselector
          have hselects : forall group, exists kept, selects name selector group = .ok kept := by
            intro group
            rcases hcan (pathValue? group) with ⟨kept, hkept⟩
            exact ⟨kept, by unfold selects; dsimp only; rw [hkept]⟩
          -- The filter is compared with one by a function to truth values.
          choose kept hkept using hselects
          dsimp only
          rw [filterM_eq_ok (fun group _ => hkept group), ok_bind]
          exact hrest _

theorem exists_of_evaluateAll_error {now : Instant} {docs : List Document}
    {subs : List (String × Aggregation)} {e : BackendError}
    (h : evaluateAll now docs subs = .error e) :
    exists sub, sub ∈ subs ∧ sub.2.kinds.selector = none
      ∧ evaluate now sub.1 docs sub.2 = .error e := by
  induction subs with
  | nil =>
      rw [evaluateAll] at h
      cases h
  | cons sub rest ih =>
      obtain ⟨name, node⟩ := sub
      have hrest : evaluateAll now docs rest = .error e ->
          exists sub, sub ∈ (name, node) :: rest ∧ sub.2.kinds.selector = none
            ∧ evaluate now sub.1 docs sub.2 = .error e := by
        intro hfails
        rcases ih hfails with ⟨other, hother, hfound⟩
        exact ⟨other, List.mem_cons_of_mem _ hother, hfound⟩
      rw [evaluateAll] at h
      cases hselector : node.kinds.selector with
      | some selector =>
          rw [hselector] at h
          exact hrest h
      | none =>
          rw [hselector] at h
          rcases bind_eq_error_iff.mp h with hfails | ⟨result, _, h⟩
          · exact ⟨(name, node), List.mem_cons_self, hselector, hfails⟩
          · rcases bind_eq_error_iff.mp h with hfails | ⟨results, _, heq⟩
            · exact hrest hfails
            · cases heq

theorem avoids_evaluateAll_of_forall {now : Instant} {docs : List Document}
    {subs : List (String × Aggregation)}
    (h : forall sub, sub ∈ subs -> sub.2.kinds.selector = none -> forall name,
      Avoids IsRequestFault (evaluate now name docs sub.2)) :
    Avoids IsRequestFault (evaluateAll now docs subs) := by
  intro e hfails
  rcases exists_of_evaluateAll_error hfails with ⟨sub, hsub, hplain, he⟩
  exact h sub hsub hplain sub.1 e he

theorem IsRunnable.avoids_evaluate {aggregation : Aggregation} (h : IsRunnable aggregation)
    (hselector : aggregation.kinds.selector = none) (now : Instant) (name : String)
    (docs : List Document) : Avoids IsRequestFault (evaluate now name docs aggregation) := by
  induction h generalizing name docs with
  | metric metric =>
      rw [evaluate_ofMetric]
      exact .bind (avoids_evaluateMetric metric docs) (fun _ _ => .ok _)
  | selector h => cases hselector
  | buckets hinterval horder hsubs ih =>
      rw [evaluate_ofBucketing]
      refine .bind (avoids_formBuckets hinterval now docs) (fun buckets _ => ?_)
      refine .bind (.mapM (fun bucket _ => ?_)) (fun groups _ => ?_)
      · refine .bind (avoids_evaluateAll_of_forall ?_) (fun _ _ => .ok _)
        exact fun sub hsub hplain name => ih sub hsub hplain name bucket.docs
      · rcases exists_orderGroups horder groups with ⟨ordered, hordered⟩
        rcases exists_selectGroups hsubs (cutGroups _ ordered) with ⟨kept, hkept⟩
        rw [hordered, ok_bind, hkept]
        exact .ok _

theorem avoids_resolveIndices (store : Store) (pattern : String) :
    Avoids IsRequestFault (store.resolveIndices pattern) := by
  have hparts : forall matched parts,
      Avoids IsRequestFault (resolveParts store.indices matched parts) := by
    intro matched parts
    fun_induction resolveParts store.indices matched parts with
    | case1 => exact .ok _
    | case2 => exact .failed nofun
    | case3 _ _ _ _ _ ih => exact ih
  unfold resolveIndices
  split
  · exact .failed nofun
  · exact hparts [] _

theorem search_of_evaluateAll_error {store : Store} {request : Request.Search}
    {indices : List String} {aggs : List (String × Aggregation)} {e : BackendError}
    (hindices : store.resolveIndices request.index = .ok indices)
    (haggs : request.body.aggs = some aggs)
    (h : evaluateAll store.now (store.select indices request) aggs = .error e) :
    store.search request = .error e := by
  unfold search
  rw [hindices, ok_bind, haggs]
  dsimp only
  rw [Option.mapM_some, h]
  rfl

theorem evaluateAll_of_dateOffset {spec : DateHistogram} {interval : Calendar.Interval}
    {e : BackendError} (hinterval : dateInterval spec = .ok interval)
    (hoffset : dateOffset spec.timeZone = .error e) {now : Instant} {name : String}
    {docs : List Document} {subs : List (String × Aggregation)} :
    evaluateAll now docs
        [(name, .node (Kinds.ofBucketing (.dateHistogram spec)) (innerSubs subs))] = .error e := by
  have hbuckets : formBuckets now (.dateHistogram spec) docs = .error e := by
    show dateHistogramBuckets spec docs = .error e
    rw [dateHistogramBuckets, hinterval, ok_bind, hoffset, error_bind]
  rw [evaluateAll, Aggregation.kinds, selector_ofBucketing, evaluate_ofBucketing, hbuckets]
  rfl

theorem avoids_search {store : Store} {request : Request.Search}
    (h : forall aggs, request.body.aggs = some aggs -> forall sub, sub ∈ aggs -> IsRunnable sub.2) :
    Avoids IsRequestFault (store.search request) := by
  unfold search
  refine .bind (avoids_resolveIndices store request.index) (fun indices _ => ?_)
  refine .bind ?_ (fun _ _ => .ok _)
  cases haggs : request.body.aggs with
  | none => exact .ok none
  | some aggs =>
      refine .bind (avoids_evaluateAll_of_forall (fun sub hsub hplain name => ?_))
        (fun _ _ => .ok _)
      exact (h aggs haggs sub hsub).avoids_evaluate hplain store.now name _

end Store

end Rollup
