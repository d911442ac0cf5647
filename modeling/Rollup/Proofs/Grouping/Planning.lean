import Rollup.Plan.Basic
import Rollup.Proofs.Grouping.Metrics
import Rollup.Proofs.Outcome

/-!
# Plans of grouped queries

What is known of a statement that groups by plain fields and has a plan: the levels are
its fields, the names of its measures differ, and its percentiles can be computed.
-/

namespace Rollup
namespace Plan

open Request (Aggregation Metric Selector)
open Sql (AggregateCall GroupTerm SelectItem Statement)

/-!
# Names
-/

theorem nodup_of_repeatedName? {seen names : List String} (h : repeatedName? seen names = none) :
    names.Nodup ∧ forall name, name ∈ names -> name ∉ seen := by
  induction names generalizing seen with
  | nil => exact ⟨List.nodup_nil, fun name hname => (nomatch hname)⟩
  | cons name rest ih =>
      rw [repeatedName?] at h
      split at h
      · cases h
      · rename_i hnew
        rcases ih h with ⟨hnodup, hfresh⟩
        constructor
        · exact List.nodup_cons.mpr ⟨fun hname => hfresh name hname List.mem_cons_self, hnodup⟩
        · intro other hother hseen
          rcases List.mem_cons.mp hother with rfl | hother
          · exact hnew (List.contains_iff_mem.mpr hseen)
          · exact hfresh other hother (List.mem_cons_of_mem _ hseen)

theorem displayNames_calls_sublist (items : List SelectItem) :
    ((items.filterMap SelectItem.call?).map AggregateCall.displayName).Sublist
      ((items.filter (fun item => !item.isStar)).map SelectItem.displayName) := by
  induction items with
  | nil => exact List.Sublist.refl _
  | cons item rest ih =>
      cases item with
      | star => exact ih
      | field name label => exact ih.cons _
      | aggregate call => exact ih.cons_cons _

theorem nodup_of_checkNames {items : List SelectItem} (h : checkNames items = .ok ()) :
    ((items.filter (fun item => !item.isStar)).map SelectItem.displayName).Nodup := by
  unfold checkNames at h
  split at h
  · cases h
  · rename_i hnone
    exact (nodup_of_repeatedName? hnone).left

theorem nodup_displayNames {statement : Statement} (h : checkNames statement.select = .ok ()) :
    (statement.calls.map AggregateCall.displayName).Nodup :=
  (displayNames_calls_sublist statement.select).nodup (nodup_of_checkNames h)

theorem name_of_measure {call : AggregateCall} {measure : Measure}
    (h : Plan.measure call = .ok measure) : measure.name = call.displayName := by
  unfold Plan.measure at h
  split at h
  · cases h
  split at h
  · cases h
  split at h
  · cases h
  · rcases bind_eq_ok_iff.mp h with ⟨kind, _, heq⟩
    cases heq
    rfl

theorem names_of_measures {calls : List AggregateCall} {measures : List Measure}
    (h : Plan.measures calls = .ok measures) :
    measures.map Measure.name = calls.map AggregateCall.displayName := by
  have hall := mapM_eq_ok_iff.mp h
  clear h
  induction hall with
  | nil => rfl
  | cons hmeasure _ ih => rw [List.map_cons, List.map_cons, name_of_measure hmeasure, ih]

/-!
# Levels
-/

def termLevels (size : Nat) (fields : List String) : List Level :=
  fields.map (fun field =>
    { name := field, bucketing := .terms { field := field, size := some size } })

theorem levelsAfter_plain {size : Nat} {seen fields : List String} {levels : List Level}
    (h : levelsAfter size seen (fields.map GroupTerm.plain) = .ok levels) :
    levels = termLevels size fields := by
  induction fields generalizing seen levels with
  | nil =>
      cases h
      rfl
  | cons field rest ih =>
      rw [List.map_cons, levelsAfter] at h
      rcases bind_eq_ok_iff.mp h with ⟨level, hlevel, h⟩
      cases hlevel
      split at h
      · cases h
      · rcases bind_eq_ok_iff.mp h with ⟨others, hothers, heq⟩
        cases heq
        rw [ih hothers]
        rfl

theorem placeLimit_none (levels : List Level) : placeLimit none levels = .ok levels := by
  induction levels with
  | nil => rfl
  | cons level rest ih =>
      cases rest with
      | nil => rfl
      | cons second rest =>
          rw [placeLimit, ih]
          · rfl
          · simp

/-!
# Percentiles
-/

theorem percentOf_range {literal : Sql.Literal} {percent : Float}
    (h : percentOf literal = .ok percent) : 0 <= percent ∧ percent <= 100 := by
  unfold percentOf at h
  split at h
  · split at h
    · rename_i value _ hrange
      cases h
      rw [Bool.and_eq_true, decide_eq_true_iff, decide_eq_true_iff] at hrange
      exact hrange
    · cases h
  · cases h

theorem defaultPercents_range (percent : Float) (h : percent ∈ defaultPercents) :
    0 <= percent ∧ percent <= 100 := by
  have hall : defaultPercents.all (fun percent => 0 <= percent && percent <= 100) = true := by
    decide
  simpa using List.all_eq_true.mp hall percent h

theorem percentilesKind_cases {call : AggregateCall} {kind : MeasureKind}
    (h : percentilesKind call = .ok kind) :
    exists spec : Request.Percentiles, kind = .metric (.percentiles spec)
      ∧ call.argument = some (.field spec.field)
      ∧ forall percent, percent ∈ spec.percents -> 0 <= percent ∧ percent <= 100 := by
  unfold percentilesKind at h
  rcases bind_eq_ok_iff.mp h with ⟨field, hfield, h⟩
  have hargument : call.argument = some (.field field) := by
    unfold requiredField at hfield
    split at hfield
    · rename_i hargument
      cases hfield
      exact hargument
    · cases hfield
  split at h
  · cases h
  split at h
  · cases h
    exact ⟨_, rfl, hargument, defaultPercents_range⟩
  · rcases bind_eq_ok_iff.mp h with ⟨percents, hpercents, heq⟩
    cases heq
    refine ⟨_, rfl, hargument, fun percent hpercent => ?_⟩
    rcases exists_of_mem_mapM hpercents hpercent with ⟨literal, _, hliteral⟩
    exact percentOf_range hliteral

def percentileField? (call : AggregateCall) : Option String :=
  match Function.ofName? call.function, call.argument with
  | some .percentiles, some (.field field) => some field
  | _, _ => none

/-- A measure can be computed, unless it takes percentiles of more numbers than a float
can count. -/
theorem computable_of_measure {call : AggregateCall} {measure : Measure}
    (h : Plan.measure call = .ok measure) {docs : List Store.Document}
    (hcount : forall field, percentileField? call = some field ->
      (Store.numbers docs field).length <= 2 ^ 53) :
    Store.Computable docs measure.kind.toMetric := by
  unfold Plan.measure at h
  split at h
  · cases h
  rename_i function hfunction
  split at h
  · cases h
  split at h
  · cases h
  rcases bind_eq_ok_iff.mp h with ⟨kind, hkind, heq⟩
  cases heq
  cases function with
  | percentiles =>
      rcases percentilesKind_cases hkind with ⟨spec, rfl, hargument, hpercents⟩
      refine ⟨hpercents, hcount spec.field ?_⟩
      rw [percentileField?, hfunction, hargument]
  | count =>
      rcases bind_eq_ok_iff.mp hkind with ⟨_, _, hkind⟩
      split at hkind
      · cases hkind
        trivial
      · cases hkind
        dsimp only [MeasureKind.toMetric]
        split <;> trivial
      · cases hkind
  | topHits =>
      change topHitsKind call = _ at hkind
      unfold topHitsKind at hkind
      split at hkind
      · cases hkind
      rcases bind_eq_ok_iff.mp hkind with ⟨_, _, heq⟩
      cases heq
      trivial
  | _ =>
      rcases bind_eq_ok_iff.mp hkind with ⟨_, _, heq⟩
      cases heq
      trivial

/-!
# Shape of a plan
-/

theorem havingNodes_cases {statement : Statement} {levels : List Level}
    {measures : List Measure} {nodes : List (String × Aggregation)}
    (h : havingNodes statement levels measures = .ok nodes) :
    (statement.having = none ∧ nodes = [])
      ∨ exists having selector, statement.having = some having
          ∧ Plan.selector statement.calls measures having = .ok selector
          ∧ (forall measure, measure ∈ measures -> measure.name ≠ selectorName)
          ∧ nodes = [selectorNode selector] := by
  unfold havingNodes at h
  split at h
  · rename_i hnone
    cases h
    exact Or.inl ⟨hnone, rfl⟩
  · rename_i having hsome
    split at h
    · cases h
    rcases bind_eq_ok_iff.mp h with ⟨selector, hselector, h⟩
    split at h
    · cases h
    · rename_i hfree
      cases h
      refine Or.inr ⟨having, selector, hsome, hselector, fun measure hmeasure hname => ?_, rfl⟩
      exact hfree (List.any_eq_true.mpr ⟨measure, hmeasure, beq_iff_eq.mpr hname⟩)

/-- The statement groups by plain fields. It neither orders nor limits its rows. -/
structure GroupsBy (statement : Statement) (fields : List String) : Prop where
  groups : statement.groups = fields.map GroupTerm.plain
  grouped : fields ≠ []
  unordered : statement.order = []
  unlimited : statement.limit = none

def groupedPlan (size : Nat) (statement : Statement) (fields : List String)
    (measures : List Measure) (nodes : List (String × Aggregation)) : Plan :=
  { request :=
      { index := statement.source.index
        docType := statement.source.docType
        body :=
          { query := statement.filter.map conditionFilter
            size := some 0
            aggs := some (nest (measures.map measureNode ++ nodes) (termLevels size fields)) } }
    columns :=
      fields.map Column.same ++ measures.map (fun measure => Column.same measure.name) }

theorem ofStatement_grouped {options : Options} {statement : Statement} {plan : Plan}
    {fields : List String} (h : ofStatement options statement = .ok plan)
    (hgroups : GroupsBy statement fields) :
    exists measures nodes, checkNames statement.select = .ok ()
      ∧ Plan.measures statement.calls = .ok measures
      ∧ havingNodes statement (termLevels options.bucketSize fields) measures = .ok nodes
      ∧ plan = groupedPlan options.bucketSize statement fields measures nodes := by
  have hgrouped : statement.isAggregation = true := by
    cases fields with
    | nil => exact absurd rfl hgroups.grouped
    | cons field rest =>
        unfold Statement.isAggregation
        rw [hgroups.groups]
        rfl
  rcases bind_eq_ok_iff.mp h with ⟨_, hnames, h⟩
  rw [if_pos hgrouped] at h
  rcases bind_eq_ok_iff.mp h with ⟨levels, hlevels, h⟩
  rw [Plan.levels, hgroups.groups] at hlevels
  cases levelsAfter_plain hlevels
  rcases bind_eq_ok_iff.mp h with ⟨measures, hmeasures, h⟩
  rcases bind_eq_ok_iff.mp h with ⟨ordered, hordered, h⟩
  rw [hgroups.unordered] at hordered
  cases hordered
  rcases bind_eq_ok_iff.mp h with ⟨placed, hplaced, h⟩
  rw [hgroups.unlimited, placeLimit_none] at hplaced
  cases hplaced
  rcases bind_eq_ok_iff.mp h with ⟨nodes, hnodes, h⟩
  rcases bind_eq_ok_iff.mp h with ⟨_, _, heq⟩
  cases heq
  refine ⟨measures, nodes, hnames, hmeasures, hnodes, ?_⟩
  rw [groupedPlan, termLevels, List.map_map]
  rfl

end Plan
end Rollup
