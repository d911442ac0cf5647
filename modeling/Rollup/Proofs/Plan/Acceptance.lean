import Rollup.Proofs.Calendar.IntervalText
import Rollup.Proofs.Grouping.Runnable
import Rollup.Proofs.Grouping.Table
import Rollup.Proofs.Plan.Chain

/-!
# Requests that a store accepts

The aggregations of a planned request are runnable. The bucket functions check their
intervals, and the text of an interval that was read can be read again.
ORDER BY sorts a level by its keys or the innermost by a measure inside it. The script of
HAVING can be evaluated. So a search never fails because its request is at fault.
-/

namespace Rollup
namespace Plan

open Request (Aggregation Bucketing Kinds)
open Sql (BucketCall GroupTerm OrderItem Statement)
open Store (HasInterval IsRunnable orderKeys)

/-!
# Intervals of levels
-/

theorem dateInterval_dateHistogramOf {interval again : Calendar.Interval}
    (h : Calendar.Interval.parse interval.text = .ok again) (field : String) (steps : DateSteps)
    (order : Option (List Request.SortEntry)) :
    Store.dateInterval { dateHistogramOf field steps interval with order := order }
      = .ok again := by
  have htext : ((dateHistogramOf field steps interval).calendarInterval
      <|> (dateHistogramOf field steps interval).fixedInterval) = some interval.text := by
    cases interval <;> rfl
  rw [Store.dateInterval, htext]
  dsimp only
  rw [h]

theorem hasInterval_dateHistogramOf {raw : String} {interval : Calendar.Interval}
    (h : Calendar.Interval.parse raw = .ok interval) (field : String) (steps : DateSteps) :
    HasInterval (.dateHistogram (dateHistogramOf field steps interval)) := by
  have hread : exists again, Calendar.Interval.parse interval.text = .ok again := by
    rcases Calendar.Interval.parse_text h with hsame | ⟨_, calendarUnit, _, _, hcalendar⟩
    · exact ⟨interval, hsame⟩
    · exact ⟨.calendar calendarUnit, hcalendar⟩
  rcases hread with ⟨again, hagain⟩
  exact ⟨again, dateInterval_dateHistogramOf hagain field steps _⟩

theorem positive_of_positiveInterval {literal : Sql.Literal} {interval : Float}
    (h : positiveInterval literal = .ok interval) : interval > 0 := by
  unfold positiveInterval at h
  dsimp only at h
  split at h
  · split at h
    · rename_i hpositive
      cases h
      exact hpositive
    · cases h
  · cases h

section

variable {call : BucketCall} {field : String} {bucketing : Bucketing}

theorem rangeBuckets_cases (h : rangeBuckets call field = .ok bucketing) :
    2 <= call.boundaries.length
      ∧ exists bounds, boundaryValues none call.boundaries = .ok bounds
          ∧ bucketing = .range { field := field, ranges := rangesBetween bounds } := by
  unfold rangeBuckets at h
  split at h
  · cases h
  · split at h
    · cases h
    · rename_i hseveral
      rcases bind_eq_ok_iff.mp h with ⟨bounds, hbounds, heq⟩
      cases heq
      exact ⟨Nat.le_of_not_lt hseveral, bounds, hbounds, rfl⟩

theorem dateRangeBuckets_cases (h : dateRangeBuckets call field = .ok bucketing) :
    exists spec, bucketing = .dateRange spec := by
  rcases bind_eq_ok_iff.mp h with ⟨format, _, h⟩
  dsimp only at h
  split at h
  · cases h
  · cases h
    exact ⟨_, rfl⟩

theorem dateHistogramBuckets_cases (h : dateHistogramBuckets call field = .ok bucketing) :
    exists spec, bucketing = .dateHistogram spec
      ∧ HasInterval (.dateHistogram spec) ∧ spec.order = none := by
  unfold dateHistogramBuckets at h
  split at h
  · cases h
  · rcases bind_eq_ok_iff.mp h with ⟨steps, _, h⟩
    split at h
    · cases h
    · rename_i interval hinterval
      cases h
      refine ⟨_, rfl, hasInterval_dateHistogramOf hinterval field steps, ?_⟩
      cases interval <;> rfl

theorem histogramBuckets_cases (h : histogramBuckets call field = .ok bucketing) :
    exists spec, bucketing = .histogram spec ∧ spec.interval > 0 ∧ spec.order = none := by
  rcases bind_eq_ok_iff.mp h with ⟨steps, _, h⟩
  rcases bind_eq_ok_iff.mp h with ⟨literal, _, h⟩
  rcases bind_eq_ok_iff.mp h with ⟨interval, hinterval, heq⟩
  cases heq
  exact ⟨_, rfl, positive_of_positiveInterval hinterval, rfl⟩

end

theorem callLevel_checked {call : BucketCall} {level : Level} (h : callLevel call = .ok level) :
    level.isTerms = false ∧ HasInterval level.bucketing ∧ level.bucketing.order? = none := by
  rcases callLevel_cases h with ⟨buckets, hbuckets, hnamed⟩
  rcases namedLevel_cases hnamed with ⟨field, _, _, hmade⟩
  unfold Level.isTerms
  simp only [List.mem_cons, List.not_mem_nil, or_false] at hbuckets
  rcases hbuckets with rfl | rfl | rfl | rfl
  · rcases rangeBuckets_cases hmade with ⟨_, bounds, _, hbucketing⟩
    rw [hbucketing]
    exact ⟨rfl, trivial, rfl⟩
  · rcases dateRangeBuckets_cases hmade with ⟨spec, hbucketing⟩
    rw [hbucketing]
    exact ⟨rfl, trivial, rfl⟩
  · rcases dateHistogramBuckets_cases hmade with ⟨spec, hbucketing, hinterval, horder⟩
    rw [hbucketing]
    exact ⟨rfl, hinterval, horder⟩
  · rcases histogramBuckets_cases hmade with ⟨spec, hbucketing, hpositive, horder⟩
    rw [hbucketing]
    exact ⟨rfl, hpositive, horder⟩

theorem termLevel_cases {size : Nat} {term : GroupTerm} {level : Level}
    (h : termLevel size term = .ok level) :
    (exists field, level.bucketing = .terms { field := field, size := some size })
      ∨ (level.isTerms = false ∧ HasInterval level.bucketing
          ∧ level.bucketing.order? = none) := by
  cases term with
  | plain field =>
      cases h
      exact Or.inl ⟨field, rfl⟩
  | call bucket => exact Or.inr (callLevel_checked h)

theorem hasInterval_of_termLevel {size : Nat} {term : GroupTerm} {level : Level}
    (h : termLevel size term = .ok level) :
    HasInterval level.bucketing ∧ level.bucketing.order? = none := by
  rcases termLevel_cases h with ⟨field, hterms⟩ | ⟨_, hchecked⟩
  · rw [hterms]
    exact ⟨trivial, rfl⟩
  · exact hchecked

theorem hasInterval_bareBucketing (bucketing : Bucketing) :
    HasInterval (bareBucketing bucketing) <-> HasInterval bucketing := by
  cases bucketing <;> exact Iff.rfl

/-!
# Sort keys of levels

Every level can be sorted by its keys, and the innermost by the measures inside it too.
-/

/-- The sort keys of levels, outermost first: names only in the innermost. -/
def SortsBy (names : List String) : List Level -> Prop
  | [] => True
  | level :: rest =>
      (forall key, key ∈ orderKeys level.bucketing -> key = "_key" ∨ (rest = [] ∧ key ∈ names))
        ∧ SortsBy names rest

theorem order?_addOrder {level updated : Level} {key : String} {direction : Sql.Direction}
    (h : level.addOrder key direction = .ok updated) :
    updated.bucketing.order? = appendOrder level.bucketing.order? key direction := by
  obtain ⟨name, bucketing⟩ := level
  cases bucketing with
  | terms spec =>
      cases h
      rfl
  | dateHistogram spec =>
      cases h
      rfl
  | histogram spec =>
      cases h
      rfl
  | range spec => cases h
  | dateRange spec => cases h

theorem orderKeys_addOrder {level updated : Level} {key : String} {direction : Sql.Direction}
    (h : level.addOrder key direction = .ok updated) :
    orderKeys updated.bucketing = orderKeys level.bucketing ++ [key] := by
  rw [orderKeys, orderKeys, order?_addOrder h, appendOrder, Option.getD_some, List.flatten_append,
    List.map_append]
  rfl

theorem SortsBy.modifyAt {names : List String} {key : String} {direction : Sql.Direction}
    {position : Nat} {levels placed : List Level} (h : SortsBy names levels)
    (hkey : key = "_key" ∨ (position = levels.length - 1 ∧ key ∈ names))
    (hplaced : Plan.modifyAt (fun level => level.addOrder key direction) position levels
      = .ok placed) : SortsBy names placed := by
  induction levels generalizing position placed with
  | nil =>
      cases position <;> cases hplaced <;> exact h
  | cons level rest ih =>
      cases position with
      | zero =>
          rcases bind_eq_ok_iff.mp hplaced with ⟨updated, hupdated, heq⟩
          cases heq
          refine ⟨fun other hother => ?_, h.right⟩
          rw [orderKeys_addOrder hupdated] at hother
          rcases List.mem_append.mp hother with hother | hother
          · exact h.left other hother
          · rw [List.mem_singleton.mp hother]
            refine hkey.imp id (fun hlast => ⟨?_, hlast.right⟩)
            exact List.length_eq_zero_iff.mp hlast.left.symm
      | succ position =>
          rcases bind_eq_ok_iff.mp hplaced with ⟨others, hothers, heq⟩
          cases heq
          refine ⟨fun other hother => ?_, ih h.right ?_ hothers⟩
          · refine (h.left other hother).imp id (fun hlast => ⟨?_, hlast.right⟩)
            have hrest := hlast.left
            subst hrest
            cases position <;> cases hothers <;> rfl
          -- The last place of the rest is one before the last place of all levels.
          · refine hkey.imp id (fun hlast => ⟨?_, hlast.right⟩)
            have hlength := hlast.left
            rw [List.length_cons] at hlength
            omega

theorem mem_of_resolveOrder {statement : Statement} {levels : List Level} {measures : List Measure}
    {reference : Sql.ColumnRef} {measure : Measure}
    (h : resolveOrder statement levels measures reference = .ok (.measure measure)) :
    measure ∈ measures := by
  unfold resolveOrder at h
  split at h
  · rename_i hreferenced
    cases h
    exact mem_of_referencedMeasure? hreferenced
  · dsimp only at h
    split at h <;> cases h
  · cases h

theorem orderPlace_cases {statement : Statement} {levels : List Level} {measures : List Measure}
    {reference : Sql.ColumnRef} {target : OrderTarget} {place : Nat × String}
    (htarget : resolveOrder statement levels measures reference = .ok target)
    (hplace : orderPlace levels target = .ok place) :
    place.2 = "_key"
      ∨ (place.1 = levels.length - 1 ∧ place.2 ∈ measures.map Measure.name) := by
  cases target with
  | key position =>
      cases hplace
      exact Or.inl rfl
  | measure measure =>
      rw [orderPlace] at hplace
      split at hplace
      · cases hplace
        exact Or.inr ⟨rfl, List.mem_map_of_mem (mem_of_resolveOrder htarget)⟩
      · cases hplace

theorem SortsBy.placeOrder {statement : Statement} {measures : List Measure}
    {items : List OrderItem} {levels placed : List Level}
    (h : SortsBy (measures.map Measure.name) levels)
    (hplaced : Plan.placeOrder statement measures levels items = .ok placed) :
    SortsBy (measures.map Measure.name) placed := by
  induction items generalizing levels with
  | nil =>
      cases hplaced
      exact h
  | cons item rest ih =>
      rcases placeOrder_cons_cases hplaced with
        ⟨target, htarget, ⟨_, hrest⟩ | ⟨place, sorted, hplace, hsorted, hrest⟩⟩
      · exact ih h hrest
      · exact ih (h.modifyAt (orderPlace_cases htarget hplace) hsorted) hrest

theorem SortsBy.replaceLast {names : List String} {outer : List Level} {level other : Level}
    (h : SortsBy names (outer ++ [level]))
    (hsame : orderKeys other.bucketing = orderKeys level.bucketing) :
    SortsBy names (outer ++ [other]) := by
  induction outer with
  | nil =>
      refine ⟨fun key hkey => ?_, h.right⟩
      rw [hsame] at hkey
      exact h.left key hkey
  | cons first rest ih =>
      refine ⟨fun key hkey => ?_, ih h.right⟩
      refine (h.left key hkey).imp id (fun hlast => absurd hlast.left ?_)
      exact List.append_ne_nil_of_right_ne_nil rest (List.cons_ne_nil level [])

theorem SortsBy.placeLimit {names : List String} {limit : Option Nat} {levels placed : List Level}
    (h : SortsBy names levels) (hplaced : Plan.placeLimit limit levels = .ok placed) :
    SortsBy names placed := by
  rcases placeLimit_cases hplaced with
    ⟨rfl, _⟩ | ⟨outer, level, spec, count, _, rfl, hbucketing, rfl⟩
  · exact h
  · refine h.replaceLast ?_
    rw [hbucketing]
    rfl

theorem sortsBy_of_unordered {names : List String} {levels : List Level}
    (h : forall level, level ∈ levels -> level.bucketing.order? = none) :
    SortsBy names levels := by
  induction levels with
  | nil => exact trivial
  | cons level rest ih =>
      refine ⟨fun key hkey => ?_, ih (fun other hother => h other (List.mem_cons_of_mem _ hother))⟩
      rw [orderKeys, h level List.mem_cons_self] at hkey
      cases hkey

/-!
# Planned requests
-/

namespace Outline

variable {options : Options} {statement : Statement} (outline : Outline options statement)

include outline

theorem hasInterval_groups {level : Level} (h : level ∈ outline.groups) :
    HasInterval level.bucketing ∧ level.bucketing.order? = none := by
  rcases exists_left_of_mem (levelsAfter_cases outline.grouped).left h with ⟨term, _, hterm⟩
  exact hasInterval_of_termLevel hterm

theorem hasInterval_levels {level : Level} (h : level ∈ outline.levels) :
    HasInterval level.bucketing := by
  have hbare : level.bare ∈ outline.groups.map Level.bare := by
    rw [<- outline.bare_levels]
    exact List.mem_map_of_mem h
  rcases List.mem_map.mp hbare with ⟨group, hgroup, hsame⟩
  have hbucketing : bareBucketing group.bucketing = bareBucketing level.bucketing :=
    congrArg Level.bucketing hsame
  rw [<- hasInterval_bareBucketing, <- hbucketing, hasInterval_bareBucketing]
  exact (outline.hasInterval_groups hgroup).left

theorem sortsBy_levels : SortsBy (outline.measures.map Measure.name) outline.levels := by
  have hgroups : SortsBy (outline.measures.map Measure.name) outline.groups :=
    sortsBy_of_unordered (fun level hlevel => (outline.hasInterval_groups hlevel).right)
  exact (hgroups.placeOrder outline.sorted).placeLimit outline.limited

theorem isRunnable_leaves (hsound : statement.IsSound) {leaf : String × Aggregation}
    (h : leaf ∈ outline.leaves) : IsRunnable leaf.2 := by
  rcases List.mem_append.mp h with hmeasure | hselector
  · rcases List.mem_map.mp hmeasure with ⟨measure, _, rfl⟩
    exact .metric measure.kind.toMetric
  · rcases havingNodes_cases outline.selected with
      ⟨_, hnodes⟩ | ⟨having, selector, hhaving, hselected, _, hnodes⟩
    · rw [hnodes] at hselector
      cases hselector
    · rw [hnodes] at hselector
      rw [List.mem_singleton.mp hselector]
      refine .selector (fun value => ?_)
      rcases selector_cases (hsound.having having hhaving) hselected value with
        ⟨condition, rfl, hgood, _⟩
      exact ⟨_, evaluate_selectorOf hgood value⟩

end Outline

theorem isOrderPath_of_sortsBy {leaves : List (String × Aggregation)} {names : List String}
    (hnames : forall name, name ∈ names -> name ∈ (fieldMap leaves).map Prod.fst)
    {level : Level} {rest : List Level} (hsorts : SortsBy names (level :: rest)) {key : String}
    (hkey : key ∈ orderKeys level.bucketing) : Store.isOrderPath (nest leaves rest) key = true := by
  rcases hsorts.left key hkey with rfl | ⟨rfl, hname⟩
  · rfl
  · rcases List.mem_map.mp (hnames key hname) with ⟨leaf, hleaf, rfl⟩
    have hany : (fieldMap leaves).any (fun entry => entry.1 == leaf.1) = true :=
      List.any_eq_true.mpr ⟨leaf, hleaf, beq_self_eq_true leaf.1⟩
    rw [Store.isOrderPath, nest, hany, Bool.or_true]

theorem isRunnable_nest {leaves : List (String × Aggregation)} {names : List String}
    (hleaves : forall leaf, leaf ∈ fieldMap leaves -> IsRunnable leaf.2)
    (hnames : forall name, name ∈ names -> name ∈ (fieldMap leaves).map Prod.fst)
    {levels : List Level} (hintervals : forall level, level ∈ levels -> HasInterval level.bucketing)
    (hsorts : SortsBy names levels) {sub : String × Aggregation} (hsub : sub ∈ nest leaves levels) :
    IsRunnable sub.2 := by
  induction levels generalizing sub with
  | nil => exact hleaves sub hsub
  | cons level rest ih =>
      rw [nest_cons, List.mem_singleton] at hsub
      subst hsub
      refine .buckets (hintervals level List.mem_cons_self)
        (fun key hkey => isOrderPath_of_sortsBy hnames hsorts hkey) (fun inner hinner => ?_)
      exact ih (fun other hother => hintervals other (List.mem_cons_of_mem _ hother))
        hsorts.right hinner

theorem Outline.measureNode_mem {options : Options} {statement : Statement}
    (outline : Outline options statement) {measure : Measure} (h : measure ∈ outline.measures) :
    measureNode measure ∈ fieldMap outline.leaves := by
  apply outline.perm_leaves.mem_iff.mpr
  exact List.mem_append_left _ (List.mem_map_of_mem h)

theorem Outline.names_measures_subset {options : Options} {statement : Statement}
    (outline : Outline options statement) {name : String}
    (h : name ∈ outline.measures.map Measure.name) :
    name ∈ (fieldMap outline.leaves).map Prod.fst := by
  rcases List.mem_map.mp h with ⟨measure, hmeasure, rfl⟩
  exact List.mem_map.mpr ⟨measureNode measure, outline.measureNode_mem hmeasure, rfl⟩

theorem Outline.isRunnable_plan {options : Options} {statement : Statement}
    (outline : Outline options statement) (hsound : statement.IsSound)
    {sub : String × Aggregation} (hsub : sub ∈ nest outline.leaves outline.levels) :
    IsRunnable sub.2 := by
  refine isRunnable_nest (fun leaf hleaf => ?_) (fun _ => outline.names_measures_subset)
    (fun level hlevel => outline.hasInterval_levels hlevel) outline.sortsBy_levels hsub
  exact outline.isRunnable_leaves hsound (outline.perm_leaves.mem_iff.mp hleaf)

/-- If the search of a query text fails, its request is not at fault, whatever the store
holds. -/
theorem not_isRequestFault_of_search {options : Options} {text : String} {plan : Plan}
    (hplan : ofText options text = .ok plan) {store : Store} {e : BackendError}
    (hfailed : store.search plan.request = .error e) : ¬ Store.IsRequestFault e := by
  unfold ofText at hplan
  split at hplan
  · cases hplan
  rename_i statement hparse
  have hsound : statement.IsSound := Sql.isSound_parse statement hparse
  refine Store.avoids_search (fun aggs haggs sub hsub => ?_) e hfailed
  cases haggregation : statement.isAggregation with
  | true =>
      rcases exists_outline hplan haggregation with ⟨outline, rfl⟩
      cases haggs
      exact outline.isRunnable_plan hsound hsub
  | false =>
      rcases plain_of_ofStatement hplan haggregation with ⟨_, hnone, _⟩
      cases hnone.symm.trans haggs

def martianDays : Statement :=
  { source := { index := "people", docType := none }
    select :=
      [ .aggregate
          { function := "COUNT"
            argument := some .star
            distinct := false
            parameters := []
            positional := []
            label := some "n" } ]
    filter := none
    groups :=
      [ .call
          { function := "date_histogram"
            field := some "born"
            parameters := [("interval", .text "1.5d"), ("time_zone", .text "Mars")]
            boundaries := [] } ]
    having := some (.leaf { target := .name "n", op := .gt, value := .number "1" })
    order := [{ target := .name "n", direction := .desc }]
    limit := none }

theorem wellFormed_martianDays : martianDays.WellFormed where
  select_ne_nil := by decide
  select := by
    unfold martianDays
    rw [List.forall_mem_singleton]
    exact Store.wellFormed_countAll "n"
  source := ⟨by decide, fun _ hdocType => by cases hdocType⟩
  filter := fun _ hcondition => by cases hcondition
  groups := by
    unfold martianDays
    rw [List.forall_mem_singleton]
    refine ⟨?_, by decide⟩
    exact
      { word := Sql.isWord_of_hasWordShape rfl
        unreserved := rfl
        field := by
          intro name hname
          cases hname
          decide
        distinct := fun h => by cases h
        named := by
          show forall parameter, parameter ∈ [("interval", Sql.Literal.text "1.5d"),
            ("time_zone", .text "Mars")] -> parameter.2.WellFormed
          rw [List.forall_mem_cons, List.forall_mem_singleton]
          exact ⟨trivial, trivial⟩
        positional := fun _ hvalue => by cases hvalue }
  having := by
    intro condition hcondition
    cases hcondition
    exact ⟨.leaf ⟨trivial, .unsigned (.whole (by decide))⟩, by decide⟩
  order := by
    unfold martianDays
    rw [List.forall_mem_singleton]
    exact trivial
  limit := fun _ hn => by cases hn

def martianLevel : Level :=
  { name := "date_histogram(born)"
    bucketing :=
      .dateHistogram
        { field := "born"
          fixedInterval := some "36h"
          timeZone := some "Mars"
          order := some [[("n", .desc)]] } }

theorem Outline.levels_martianDays (outline : Outline {} martianDays) :
    outline.levels = [martianLevel] := by
  have hgroups : Plan.levels 10000 martianDays.groups = .ok [martianLevel.bare] := by
    decide +kernel
  have hmeasures : Plan.measures martianDays.calls = .ok [{ name := "n", kind := .docCount }] := by
    decide +kernel
  have hgrouped := Except.ok.inj (hgroups.symm.trans outline.grouped)
  have hmeasured := Except.ok.inj (hmeasures.symm.trans outline.measured)
  have hsorted := outline.sorted
  rw [<- hgrouped, <- hmeasured] at hsorted
  have hplaced : Plan.placeOrder martianDays [{ name := "n", kind := .docCount }]
      [martianLevel.bare] martianDays.order = .ok [martianLevel] := by decide +kernel
  have hordered := Except.ok.inj (hplaced.symm.trans hsorted)
  have hlimited := outline.limited
  rw [<- hordered] at hlimited
  exact (Except.ok.inj hlimited).symm

theorem not_isRequestFault_of_search_martianDays :
    exists plan, ofText {} martianDays.canonicalText = .ok plan
      ∧ Store.people.search plan.request = .error (.unsupported (.zone (.unsupported "Mars")))
      ∧ ¬ Store.IsRequestFault (.unsupported (.zone (.unsupported "Mars"))) := by
  have hok : (ofStatement {} martianDays).isOk = true := by decide +kernel
  have hparse : Sql.parse martianDays.canonicalText = .ok martianDays :=
    Sql.parse_of_spells wellFormed_martianDays (Sql.spells_canonicalText wellFormed_martianDays)
  cases hstatement : ofStatement {} martianDays with
  | error e =>
      rw [hstatement] at hok
      cases hok
  | ok plan =>
      have hplan : ofText {} martianDays.canonicalText = .ok plan := by
        rw [ofText, hparse]
        exact hstatement
      rcases exists_outline hstatement (by decide) with ⟨outline, rfl⟩
      have hsearch : Store.people.search outline.plan.request
          = .error (.unsupported (.zone (.unsupported "Mars"))) := by
        have hinterval : Store.dateInterval
            { field := "born", fixedInterval := some "36h", timeZone := some "Mars",
              order := some [[("n", .desc)]] } = .ok (.fixed 36 .hour) := by decide +kernel
        have hoffset : Store.dateOffset (some "Mars")
            = .error (.unsupported (.zone (.unsupported "Mars"))) := by decide +kernel
        refine Store.search_of_evaluateAll_error Store.resolveIndices_people rfl ?_
        rw [outline.levels_martianDays]
        exact Store.evaluateAll_of_dateOffset hinterval hoffset
      exact ⟨outline.plan, hplan, hsearch, not_isRequestFault_of_search hplan hsearch⟩

end Plan
end Rollup
