import Rollup.Plan.Basic
import Rollup.Proofs.Grouping.Metrics
import Rollup.Proofs.Grouping.Tabulation
import Rollup.Proofs.Selector.Meaning

/-!
# The innermost level

Inside the innermost buckets stand the measures, and the selector of HAVING if there is
one. They have one row for each group, which is kept if the condition holds of the
measures.
-/

namespace Rollup
namespace Store

open Calendar (Instant)
open Request (Aggregation Kinds Metric Selector)
open Plan (Column Measure MeasureKind measureNode selectorNode selectorName)

def metricResult (docs : List Document) (metric : Metric) : MetricResult :=
  match evaluateMetric metric docs with
  | .ok result => result
  | .error _ => .number none

def measureValue (docs : List Document) (measure : Measure) : Option Float :=
  match evaluateMetric measure.kind.toMetric docs with
  | .ok result => result.value?
  | .error _ => none

theorem evaluateMetric_eq_metricResult {docs : List Document} {metric : Metric}
    (h : Computable docs metric) :
    evaluateMetric metric docs = .ok (metricResult docs metric) := by
  rcases evaluateMetric_eq_ok h with ⟨result, hresult⟩
  rw [metricResult, hresult]

/-!
# Leaves
-/

/-- A metric without further aggregations, or a selector. -/
inductive IsLeaf : Aggregation -> Prop
  | metric (spec : Metric) : IsLeaf (.node (Kinds.ofMetric spec) none)
  | selector (spec : Selector) : IsLeaf (.node { selector := some spec } none)

theorem metric?_ofMetric (spec : Metric) : (Kinds.ofMetric spec).metric? = some spec := by
  cases spec <;> rfl

theorem selector_ofMetric (spec : Metric) : (Kinds.ofMetric spec).selector = none := by
  cases spec <;> rfl

theorem evaluate_ofMetric (now : Instant) (name : String) (docs : List Document) (spec : Metric) :
    evaluate now name docs (.node (Kinds.ofMetric spec) none)
      = (do return .metric (<- evaluateMetric spec docs)) := by
  cases spec <;> rw [evaluate] <;> rfl

theorem readValue_ofMetric (name : String) (raw : Json) (spec : Metric) :
    Answer.readValue name raw (.node (Kinds.ofMetric spec) none)
      = Answer.readMetric name (Kinds.ofMetric spec) raw := by
  cases spec <;> rw [Answer.readValue] <;> rfl

def leafEntries {alpha : Type} (shown : Metric -> alpha) (leaves : List (String × Aggregation)) :
    List (String × alpha) :=
  leaves.filterMap (fun leaf => leaf.2.kinds.metric?.map (fun metric => (leaf.1, shown metric)))

section

variable {alpha : Type} {shown : Metric -> alpha} {leaves : List (String × Aggregation)}

theorem leafEntries_metric (name : String) (spec : Metric) :
    leafEntries shown ((name, .node (Kinds.ofMetric spec) none) :: leaves)
      = (name, shown spec) :: leafEntries shown leaves := by
  refine List.filterMap_cons_some ?_
  show (Kinds.ofMetric spec).metric?.map _ = _
  rw [metric?_ofMetric]
  rfl

theorem keys_leafEntries_sublist :
    ((leafEntries shown leaves).map Prod.fst).Sublist (leaves.map Prod.fst) := by
  induction leaves with
  | nil => exact List.Sublist.refl _
  | cons leaf rest ih =>
      unfold leafEntries at ih ⊢
      rw [List.filterMap_cons]
      cases leaf.2.kinds.metric? with
      | none => exact ih.cons leaf.1
      | some metric => exact ih.cons_cons leaf.1

theorem lookup_leafEntries (hnames : (leaves.map Prod.fst).Nodup) {measure : Measure}
    (hmeasure : measureNode measure ∈ leaves) :
    (leafEntries shown leaves).lookup measure.name = some (shown measure.kind.toMetric) := by
  refine lookup_eq_some_of_mem (keys_leafEntries_sublist.nodup hnames) ?_
  refine List.mem_filterMap.mpr ⟨measureNode measure, hmeasure, ?_⟩
  show (Kinds.ofMetric measure.kind.toMetric).metric?.map _ = _
  rw [metric?_ofMetric]
  rfl

end

section

variable {now : Instant} {docs : List Document} {leaves : List (String × Aggregation)}
  (hleaves : forall leaf, leaf ∈ leaves -> IsLeaf leaf.2)
  (hcomputable : forall leaf, leaf ∈ leaves -> forall metric, leaf.2.kinds.metric? = some metric ->
    Computable docs metric)

include hleaves hcomputable

theorem evaluateAll_leaves :
    evaluateAll now docs leaves
      = .ok (leafEntries (fun metric => .metric (metricResult docs metric)) leaves) := by
  induction leaves with
  | nil =>
      rw [evaluateAll]
      rfl
  | cons leaf rest ih =>
      obtain ⟨name, node⟩ := leaf
      have hmetric := hcomputable _ List.mem_cons_self
      have hrest := ih (fun other hother => hleaves other (List.mem_cons_of_mem _ hother))
        (fun other hother => hcomputable other (List.mem_cons_of_mem _ hother))
      rw [evaluateAll, hrest]
      cases hleaves _ List.mem_cons_self with
      | selector spec => rfl
      | metric spec =>
          have hresult := evaluateMetric_eq_metricResult (hmetric spec (metric?_ofMetric spec))
          rw [leafEntries_metric, Aggregation.kinds, selector_ofMetric, evaluate_ofMetric, hresult]
          rfl

theorem readRow_leaves {raw : Json}
    (hraw : forall entry,
      entry
          ∈ leafEntries (fun metric => AggregateResult.metric (metricResult docs metric)) leaves ->
        raw.field? entry.1 = some entry.2.json) :
    Answer.readRow raw leaves
      = .ok (leafEntries (fun metric => shownValue (metricResult docs metric)) leaves) := by
  induction leaves with
  | nil =>
      rw [Answer.readRow]
      rfl
  | cons leaf rest ih =>
      obtain ⟨name, node⟩ := leaf
      have hmetric := hcomputable _ List.mem_cons_self
      have hrest := ih (fun other hother => hleaves other (List.mem_cons_of_mem _ hother))
        (fun other hother => hcomputable other (List.mem_cons_of_mem _ hother))
      rw [Answer.readRow]
      cases hleaves _ List.mem_cons_self with
      | selector spec => exact hrest hraw
      | metric spec =>
          have hresult := evaluateMetric_eq_metricResult (hmetric spec (metric?_ofMetric spec))
          have hentry := hraw (name, .metric (metricResult docs spec))
            (by rw [leafEntries_metric]; exact List.mem_cons_self)
          rw [leafEntries_metric, Aggregation.kinds, selector_ofMetric, hentry,
            hrest (fun entry hentry => hraw entry (by
              rw [leafEntries_metric]
              exact List.mem_cons_of_mem _ hentry))]
          show (do
            let value <- Answer.readValue name (AggregateResult.json _) _
            let values <- Except.ok _
            return (name, value) :: values) = _
          rw [AggregateResult.json, readValue_ofMetric, readMetric_json hresult]
          rfl

end

theorem innerRows?_leafEntries (columns : List Column) (labels : List Json) (docs : List Document)
    (leaves : List (String × Aggregation)) :
    Answer.innerRows? columns labels
      (leafEntries (fun metric => shownValue (metricResult docs metric)) leaves) = none := by
  induction leaves with
  | nil => rw [leafEntries, List.filterMap_nil, Answer.innerRows?]
  | cons leaf rest ih =>
      unfold leafEntries at ih ⊢
      rw [List.filterMap_cons]
      cases leaf.2.kinds.metric? with
      | none => exact ih
      | some metric =>
          have hplain : Answer.valueRows? columns labels (shownValue (metricResult docs metric))
              = none := by
            cases metricResult docs metric with
            | number value => cases value <;> rfl
            | _ => rfl
          show Answer.innerRows? columns labels ((leaf.1, _) :: _) = none
          rw [Answer.innerRows?, hplain]
          exact ih

/-!
# Rows of groups
-/

def leafNodes (measures : List Measure) (selector? : Option Selector) :
    List (String × Aggregation) :=
  measures.map measureNode ++ selector?.toList.map selectorNode

def measureCells (measures : List Measure) (docs : List Document) : List Json :=
  measures.map (fun measure => metricCell (metricResult docs measure.kind.toMetric))

section

variable {now : Instant} {docs : List Document} {leaves : List (String × Aggregation)}
  {measures : List Measure} {selector? : Option Selector}
  (hperm : leaves.Perm (leafNodes measures selector?))

include hperm

theorem mem_leaves {leaf : String × Aggregation} (h : leaf ∈ leaves) :
    (exists measure, measure ∈ measures ∧ leaf = measureNode measure)
      ∨ exists selector, selector? = some selector ∧ leaf = selectorNode selector := by
  rcases List.mem_append.mp (hperm.mem_iff.mp h) with hmeasure | hselector
  · rcases List.mem_map.mp hmeasure with ⟨measure, hmem, rfl⟩
    exact Or.inl ⟨measure, hmem, rfl⟩
  · rcases List.mem_map.mp hselector with ⟨selector, hmem, rfl⟩
    exact Or.inr ⟨selector, Option.mem_toList.mp hmem, rfl⟩

theorem measureNode_mem_leaves {measure : Measure} (h : measure ∈ measures) :
    measureNode measure ∈ leaves :=
  hperm.mem_iff.mpr (List.mem_append_left _ (List.mem_map.mpr ⟨measure, h, rfl⟩))

theorem isLeaf_of_mem (leaf : String × Aggregation) (h : leaf ∈ leaves) : IsLeaf leaf.2 := by
  rcases mem_leaves hperm h with ⟨measure, _, rfl⟩ | ⟨selector, _, rfl⟩
  · exact .metric _
  · exact .selector _

theorem computable_of_mem
    (hcomputable : forall measure, measure ∈ measures -> Computable docs measure.kind.toMetric)
    (leaf : String × Aggregation) (h : leaf ∈ leaves) (metric : Metric)
    (hmetric : leaf.2.kinds.metric? = some metric) : Computable docs metric := by
  rcases mem_leaves hperm h with ⟨measure, hmeasure, rfl⟩ | ⟨selector, _, rfl⟩
  · have hsame : some measure.kind.toMetric = some metric :=
      (metric?_ofMetric measure.kind.toMetric).symm.trans hmetric
    cases hsame
    exact hcomputable measure hmeasure
  · cases hmetric

theorem tabulated_leaves {columns : List Column} {labels : List Json}
    (hnames : (leaves.map Prod.fst).Nodup)
    (hcomputable : forall measure, measure ∈ measures -> Computable docs measure.kind.toMetric)
    (hcolumns : columns.drop labels.length
      = measures.map (fun measure => Column.same measure.name)) :
    Tabulated now columns labels leaves docs [labels ++ measureCells measures docs] := by
  have hleaves := isLeaf_of_mem hperm
  have hall := computable_of_mem hperm hcomputable
  refine ⟨_, _, evaluateAll_leaves hleaves hall, fun raw => readRow_leaves hleaves hall, ?_⟩
  rw [innerRows?_leafEntries]
  show List.Perm [Answer.leafCells columns labels _] _
  rw [Answer.leafCells, hcolumns, List.map_map, measureCells]
  refine List.Perm.of_eq (congrArg (fun cells => [labels ++ cells]) ?_)
  refine List.map_congr_left (fun measure hmeasure => ?_)
  show ((List.lookup measure.name _).map Answer.Value.cell).getD .null = _
  rw [lookup_leafEntries hnames (measureNode_mem_leaves hperm hmeasure)]
  exact cell_shownValue _

end

/-!
# Groups that HAVING keeps
-/

theorem selectGroups_of_no_selector {subs : List (String × Aggregation)}
    (h : forall sub, sub ∈ subs -> sub.2.kinds.selector = none) (groups : List Group) :
    selectGroups subs groups = .ok groups := by
  induction subs with
  | nil => rfl
  | cons sub rest ih =>
      rw [selectGroups, h sub List.mem_cons_self]
      exact ih (fun other hother => h other (List.mem_cons_of_mem _ hother))

theorem selectsBy_of_no_selector {subs : List (String × Aggregation)}
    (h : forall sub, sub ∈ subs -> sub.2.kinds.selector = none) (now : Instant) :
    SelectsBy now subs (fun _ => true) := by
  intro groups _
  rw [selectGroups_of_no_selector h, List.filter_eq_self.mpr (fun _ _ => rfl)]

theorem selectGroups_selectorNode {before after : List (String × Aggregation)} {selector : Selector}
    (h : forall sub, sub ∈ before ++ after -> sub.2.kinds.selector = none) (groups : List Group) :
    selectGroups (before ++ selectorNode selector :: after) groups
      = groups.filterM (selects selectorName selector) := by
  induction before with
  | nil =>
      show (do
        let kept <- groups.filterM (selects selectorName selector)
        selectGroups after kept) = _
      cases groups.filterM (selects selectorName selector) with
      | error e => rfl
      | ok kept => exact selectGroups_of_no_selector h kept
  | cons sub rest ih =>
      rw [List.cons_append, selectGroups, h sub List.mem_cons_self]
      exact ih (fun other hother => h other (List.mem_cons_of_mem _ hother))

theorem metric_mem_results {now : Instant} {docs : List Document}
    {subs : List (String × Aggregation)} {results : List (String × AggregateResult)}
    (h : evaluateAll now docs subs = .ok results) {name : String} {spec : Metric}
    (hmem : (name, .node (Kinds.ofMetric spec) none) ∈ subs) :
    exists result, evaluateMetric spec docs = .ok result ∧ (name, .metric result) ∈ results := by
  have hkept : (name, .node (Kinds.ofMetric spec) none)
      ∈ subs.filter (fun sub => sub.2.kinds.selector.isNone) := by
    refine List.mem_filter.mpr ⟨hmem, ?_⟩
    show (Kinds.ofMetric spec).selector.isNone = true
    rw [selector_ofMetric]
    rfl
  rcases exists_right_of_mem (evaluateAll_eq_ok_iff.mp h) hkept with ⟨⟨found, value⟩, hfound, hsame⟩
  rcases hsame with ⟨hname, hvalue⟩
  rw [evaluate_ofMetric] at hvalue
  rcases bind_eq_ok_iff.mp hvalue with ⟨result, hresult, heq⟩
  cases heq
  cases hname
  exact ⟨result, hresult, hfound⟩

theorem measureValue_docCount (docs : List Document) (name : String) :
    measureValue docs { name := name, kind := .docCount } = some (Float.ofNat docs.length) := by
  show some (Float.ofNat (allValues docs "_index").length) = _
  rw [length_allValues_index]

theorem groupValue?_eq_measureValue {now : Instant} {leaves : List (String × Aggregation)}
    (hnames : (leaves.map Prod.fst).Nodup) {group : Group}
    (hgroup : evaluateAll now group.1.docs leaves = .ok group.2) {measure : Measure}
    (hmeasure : measureNode measure ∈ leaves) :
    groupValue? group measure.name = measureValue group.1.docs measure := by
  rcases metric_mem_results hgroup hmeasure with ⟨result, hresult, hmem⟩
  have hlookup : group.2.lookup measure.name = some (.metric result) :=
    lookup_eq_some_of_mem ((evaluateAll_names hgroup).nodup hnames) hmem
  rw [measureValue, hresult, groupValue?, hlookup]
  rfl

/-- The path of a measure leads to its number in a group, unless it is taken for that of the
count. -/
theorem pathValue?_eq_measureValue {now : Instant} {leaves : List (String × Aggregation)}
    (hnames : (leaves.map Prod.fst).Nodup) {group : Group}
    (hgroup : evaluateAll now group.1.docs leaves = .ok group.2) {measure : Measure}
    (hmeasure : measureNode measure ∈ leaves)
    (hcount : measure.name = "_count" -> measure.kind = .docCount) :
    pathValue? group measure.path = measureValue group.1.docs measure := by
  have hvalue := groupValue?_eq_measureValue hnames hgroup hmeasure
  rcases measure with ⟨name, _ | spec⟩
  · exact (measureValue_docCount group.1.docs name).symm
  · have hother : name ≠ "_count" := by
      intro hname
      cases hcount hname
    show (if name = "_count" then _ else groupValue? group name) = _
    rw [if_neg hother]
    exact hvalue

def RefersTo (calls : List Sql.AggregateCall) (measures : List Measure) (having : Sql.Having)
    (measure : Measure) : Prop :=
  exists threshold, threshold ∈ having.leaves
    ∧ Plan.referencedMeasure? threshold.target calls measures = some measure

theorem thresholdHolds_congr {calls : List Sql.AggregateCall} {measures : List Measure}
    {value other : Measure -> Option Float} {threshold : Sql.Threshold}
    (h : forall measure, Plan.referencedMeasure? threshold.target calls measures = some measure ->
      value measure = other measure) :
    Plan.thresholdHolds calls measures value threshold
      = Plan.thresholdHolds calls measures other threshold := by
  unfold Plan.thresholdHolds
  cases hreferenced : Plan.referencedMeasure? threshold.target calls measures with
  | none => rfl
  | some measure =>
      dsimp only
      rw [h measure hreferenced]

theorem selectsBy_having {leaves : List (String × Aggregation)} {calls : List Sql.AggregateCall}
    {measures : List Measure} {having : Sql.Having} {selector : Selector}
    (hperm : leaves.Perm (leafNodes measures (some selector)))
    (hnames : (leaves.map Prod.fst).Nodup)
    (hcount : forall measure, RefersTo calls measures having measure ->
      measure.name = "_count" -> measure.kind = .docCount)
    (hhaving : having.WellFormed 1 1 Plan.ComparesNumeral)
    (hselector : Plan.selector calls measures having = .ok selector) (now : Instant) :
    SelectsBy now leaves (fun docs =>
      having.holds (Plan.thresholdHolds calls measures (measureValue docs))) := by
  intro groups hgroups
  have hselects : forall group, group ∈ groups -> selects selectorName selector group
      = .ok (having.holds
          (Plan.thresholdHolds calls measures (measureValue group.1.docs))) := by
    intro group hgroup
    rcases Plan.selector_cases hhaving hselector (pathValue? group) with
      ⟨condition, rfl, hgood, hholds⟩
    have hsame : having.holds
          (Plan.thresholdHolds calls measures (fun measure => pathValue? group measure.path))
        = having.holds (Plan.thresholdHolds calls measures (measureValue group.1.docs)) := by
      apply hhaving.and_mem_leaves.holds_congr
      rintro threshold ⟨_, hleaf⟩
      apply thresholdHolds_congr
      intro measure hmeasure
      exact pathValue?_eq_measureValue hnames (hgroups group hgroup)
        (measureNode_mem_leaves hperm (Plan.mem_of_referencedMeasure? hmeasure))
        (hcount measure ⟨threshold, hleaf, hmeasure⟩)
    have hevaluate := Plan.evaluate_selectorOf hgood (pathValue? group)
    unfold selects
    dsimp only
    rw [hevaluate, hholds, hsame]
  have hmem : selectorNode selector ∈ leaves :=
    hperm.mem_iff.mpr (List.mem_append_right _ List.mem_cons_self)
  rcases List.append_of_mem hmem with ⟨before, after, rfl⟩
  have hothers : (before ++ after).Perm (measures.map measureNode) :=
    ((List.perm_middle.symm.trans hperm).trans (List.perm_append_singleton _ _)).cons_inv
  have hplain : forall sub, sub ∈ before ++ after -> sub.2.kinds.selector = none := by
    intro sub hsub
    rcases List.mem_map.mp (hothers.mem_iff.mp hsub) with ⟨measure, _, rfl⟩
    exact selector_ofMetric _
  rw [selectGroups_selectorNode hplain]
  exact filterM_eq_ok hselects

end Store
end Rollup
