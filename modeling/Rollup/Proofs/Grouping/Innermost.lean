import Rollup.Proofs.Grouping.Arrangement
import Rollup.Proofs.Number.Nearest
import Rollup.Proofs.Plan.Ordering

/-!
# The innermost groups

The buckets of the innermost level are arranged by what ORDER BY names. Those within LIMIT
are kept if HAVING holds of them. No bucket beyond it takes the place of one that is dropped.

A level is told by name what to sort by, and a selector by path what to ask for. Buckets
have names of their own for their count and their key, which hide those of measures.
-/

namespace Rollup
namespace Store

open Calendar (Instant)
open Plan (Level Measure Options Outline OrderTarget measureNode targetsAt)
open Request (Aggregation Bucketing Kinds)
open Sql (Direction Statement)

/-!
# Names of measures
-/

/-- To sort by the name of the measure is to sort by its number. COUNT(*) may have the name
of the count, which it is where counts are exact. -/
def SortsItself (docs : List Document) (measure : Measure) : Prop :=
  measure.name ∉ ["_count", "_key", "_term"]
    ∨ (measure.name = "_count" ∧ measure.kind = .docCount ∧ docs.length < 2 ^ 53)

/-- The measures that ORDER BY names sort by their own numbers. -/
def OrderIsOwn (docs : List Document) (targets : List (OrderTarget × Direction)) : Prop :=
  forall measure direction, (.measure measure, direction) ∈ targets -> SortsItself docs measure

/-- The measures that HAVING names are asked for their own numbers. -/
def HavingIsOwn (statement : Statement) (measures : List Measure) : Prop :=
  forall having, statement.having = some having -> forall measure,
    RefersTo statement.calls measures having measure -> measure.name = "_count" ->
      measure.kind = .docCount

/-!
# Sorted groups
-/

/-- The group has a bucket of the documents, with the results inside it. -/
structure IsFormed (now : Instant) (leaves : List (String × Aggregation)) (docs : List Document)
    (group : Group) : Prop where
  results : evaluateAll now group.1.docs leaves = .ok group.2
  docs : group.1.docs.Sublist docs
  finite : group.1.key.isFinite = true

theorem compareGroups_count (a b : Group) :
    compareGroups [("_count", .desc)] a b = compareByCount a.1 b.1 := by
  show (Ordering.then (compare a.1.docs.length b.1.docs.length).swap .eq).then _ = _
  rw [Ordering.then_eq, Nat.compare_swap]
  rfl

section

variable {now : Instant} {leaves : List (String × Aggregation)} {docs : List Document}
  (hnames : (leaves.map Prod.fst).Nodup) {a b : Group} (ha : IsFormed now leaves docs a)
  (hb : IsFormed now leaves docs b)

include hnames ha hb

theorem compareByKey_name {measure : Measure} (hmeasure : measureNode measure ∈ leaves)
    (hsorts : SortsItself docs measure) :
    compareByKey measure.name a b = compareByTarget (.measure measure) a.1 b.1 := by
  unfold compareByKey compareByTarget
  rcases hsorts with hother | ⟨hname, hkind, hlength⟩
  · simp only [List.mem_cons, List.not_mem_nil, or_false, not_or] at hother
    rcases hother with ⟨hcount, hkey, hterm⟩
    have hnone : ¬ (measure.name = "_key" || measure.name = "_term") = true := by
      simp [hkey, hterm]
    rw [if_neg hcount, if_neg hnone, groupValue?_eq_measureValue hnames ha.results hmeasure,
      groupValue?_eq_measureValue hnames hb.results hmeasure]
  · obtain ⟨name, kind⟩ := measure
    cases hkind
    rw [if_pos hname]
    dsimp only
    rw [measureValue_docCount, measureValue_docCount]
    exact (Number.compareFloats_ofNat (Nat.lt_of_le_of_lt ha.docs.length_le hlength)
      (Nat.lt_of_le_of_lt hb.docs.length_le hlength)).symm

theorem compareGroups_sortKeys {targets : List (OrderTarget × Direction)}
    (hmeasures : forall measure direction, (.measure measure, direction) ∈ targets ->
      measureNode measure ∈ leaves)
    (hsorts : OrderIsOwn docs targets) :
    compareGroups (targets.map (fun target => (target.1.sortKey, target.2))) a b
      = compareBuckets targets a.1 b.1 := by
  unfold compareGroups compareBuckets
  rw [List.map_map]
  congr 2
  apply List.map_congr_left
  rintro ⟨target, direction⟩ htarget
  apply congrArg (orient direction)
  cases target with
  | key position => rfl
  | measure measure =>
      exact compareByKey_name hnames ha hb (hmeasures measure direction htarget)
        (hsorts measure direction htarget)

end

theorem pairwise_sortedGroups {keys : List (String × Direction)}
    {shown order : Bucket -> Bucket -> Ordering} [Std.TransCmp order] {groups : List Group}
    (hfinite : forall group, group ∈ groups -> group.1.key.isFinite = true)
    (horder : forall a b : Bucket, a.key.isFinite = true -> b.key.isFinite = true ->
      shown a b = order a b)
    (hkeys : forall a, a ∈ groups -> forall b, b ∈ groups ->
      compareGroups keys a b = shown a.1 b.1) :
    ((groups.mergeSort (fun a b => compareGroups keys a b != .gt)).map Prod.fst).Pairwise
      (fun a b => shown a b ≠ .gt) := by
  have hsame : forall a, a ∈ groups -> forall b, b ∈ groups -> shown a.1 b.1 = order a.1 b.1 :=
    fun a ha b hb => horder a.1 b.1 (hfinite a ha) (hfinite b hb)
  have hsort : groups.mergeSort (fun a b => compareGroups keys a b != .gt)
      = groups.mergeSort (fun a b => order a.1 b.1 != .gt) :=
    mergeSort_congr (fun a ha b hb => by rw [hkeys a ha b hb, hsame a ha b hb])
  have := transCmp_key order (fun group : Group => group.1)
  have hpairs := @pairwise_mergeSort_order _ (fun a b : Group => order a.1 b.1) _ groups
  rw [hsort, List.pairwise_map]
  refine hpairs.imp_of_mem (fun ha hb hle => ?_)
  rw [hsame _ (List.mem_mergeSort.mp ha) _ (List.mem_mergeSort.mp hb)]
  exact hle

/-- The buckets are arranged by what items of ORDER BY name. Without items, those of terms
are arranged by their counts and others as they were formed. -/
inductive IsOrdered (level : Level) (formed arranged : List Bucket) :
    List (OrderTarget × Direction) -> Prop
  | byTargets {targets : List (OrderTarget × Direction)} (hne : targets ≠ [])
      (h : arranged.Pairwise (fun a b => compareBuckets targets a b ≠ .gt)) :
      IsOrdered level formed arranged targets
  | byCount (hterms : level.isTerms = true)
      (h : arranged.Pairwise (fun a b => compareByCount a b ≠ .gt)) :
      IsOrdered level formed arranged []
  | asFormed (hother : level.isTerms = false) (h : arranged = formed) :
      IsOrdered level formed arranged []

theorem orderGroups_cases {level : Level} {keys : List (String × Direction)}
    (horder : level.bucketing.order? = Plan.orderAfter none keys)
    {subs : List (String × Aggregation)} {groups ordered : List Group}
    (h : orderGroups level.bucketing subs groups = .ok ordered) :
    (keys ≠ [] ∧ ordered = groups.mergeSort (fun a b => compareGroups keys a b != .gt))
      ∨ (keys = [] ∧ level.isTerms = true
          ∧ ordered = groups.mergeSort (fun a b => compareGroups [("_count", .desc)] a b != .gt))
      ∨ (keys = [] ∧ level.isTerms = false ∧ ordered = groups) := by
  by_cases hkeys : keys = []
  · rw [hkeys] at horder
    change level.bucketing.order? = none at horder
    unfold orderGroups at h
    rw [horder] at h
    unfold Level.isTerms
    cases hbucketing : level.bucketing with
    | terms spec =>
        rw [hbucketing] at h
        exact Or.inr (Or.inl ⟨hkeys, rfl, eq_mergeSort_of_sortGroups h⟩)
    | _ =>
        rw [hbucketing] at h
        cases h
        exact Or.inr (Or.inr ⟨hkeys, rfl, rfl⟩)
  · rw [Plan.orderAfter_none hkeys] at horder
    unfold orderGroups at h
    rw [horder] at h
    have hflat : (keys.map (fun key => [key])).flatten = keys := by
      rw [<- List.flatMap_def, List.flatMap_singleton']
    have hordered := eq_mergeSort_of_sortGroups h
    rw [hflat] at hordered
    exact Or.inl ⟨hkeys, hordered⟩

theorem isOrdered_of_orderGroups {now : Instant} {leaves : List (String × Aggregation)}
    (hnames : (leaves.map Prod.fst).Nodup) {level innermost : Level}
    (hterms : innermost.isTerms = level.isTerms) {targets : List (OrderTarget × Direction)}
    (horder : innermost.bucketing.order? = Plan.orderAfter none
      (targets.map (fun target => (target.1.sortKey, target.2))))
    (hmeasures : forall measure direction, (.measure measure, direction) ∈ targets ->
      measureNode measure ∈ leaves)
    {docs : List Document} (hown : OrderIsOwn docs targets) {groups ordered : List Group}
    (hformed : forall group, group ∈ groups -> IsFormed now leaves docs group)
    (h : orderGroups innermost.bucketing leaves groups = .ok ordered) :
    IsOrdered level (groups.map Prod.fst) (ordered.map Prod.fst) targets := by
  have hkeys : forall group, group ∈ groups -> group.1.key.isFinite = true := by
    intro group hgroup
    exact (hformed group hgroup).finite
  rcases orderGroups_cases horder h with ⟨hne, rfl⟩ | ⟨hnil, hhere, rfl⟩ | ⟨hnil, hother, rfl⟩
  · apply IsOrdered.byTargets
    · intro hnil
      exact hne (List.map_eq_nil_iff.mpr hnil)
    · refine pairwise_sortedGroups hkeys
        (fun _ _ ha hb => compareBuckets_eq_bucketOrder ha hb targets) ?_
      intro a ha b hb
      exact compareGroups_sortKeys hnames (hformed a ha) (hformed b hb) hmeasures hown
  · rw [List.map_eq_nil_iff.mp hnil]
    apply IsOrdered.byCount
    · rw [<- hterms]
      exact hhere
    · refine pairwise_sortedGroups hkeys (fun _ _ => compareByCount_eq_countOrder) ?_
      intro a _ b _
      exact compareGroups_count a b
  · rw [List.map_eq_nil_iff.mp hnil]
    apply IsOrdered.asFormed
    · rw [<- hterms]
      exact hother
    · rfl

/-!
# Kept groups
-/

theorem cutGroups_of_bound? {level : Level} {count : Nat} (h : level.bound? = some count)
    (groups : List Group) : cutGroups level.bucketing groups = groups.take count := by
  obtain ⟨name, bucketing⟩ := level
  cases bucketing with
  | terms spec =>
      cases h
      rfl
  | _ => cases h

theorem cutGroups_of_not_isTerms {level : Level} (h : level.isTerms = false)
    (groups : List Group) : cutGroups level.bucketing groups = groups := by
  obtain ⟨name, bucketing⟩ := level
  cases bucketing with
  | terms spec => cases h
  | _ => rfl

/-- The buckets of an innermost level in their order, and the groups that are kept of them. -/
structure IsInnermost (size : Nat) (statement : Statement) (measures : List Measure)
    (targets : List (OrderTarget × Direction)) (level : Level) (docs : List Document)
    (formed arranged : List Bucket) (groups : List Group) : Prop where
  perm : arranged.Perm formed
  ordered : OrderIsOwn docs targets -> IsOrdered level formed arranged targets
  selected : HavingIsOwn statement measures ->
    groups.map Prod.fst
      = (if level.isTerms then arranged.take (statement.limit.getD size) else arranged).filter
          (fun bucket => havingHolds statement measures bucket.docs)

theorem buckets_cutGroups {level innermost : Level} (hterms : innermost.isTerms = level.isTerms)
    {count : Nat} (hbound : level.isTerms = true -> innermost.bound? = some count)
    (groups : List Group) :
    (cutGroups innermost.bucketing groups).map Prod.fst
      = if level.isTerms then (groups.map Prod.fst).take count else groups.map Prod.fst := by
  cases hlevel : level.isTerms with
  | true => rw [cutGroups_of_bound? (hbound hlevel), List.map_take, if_pos rfl]
  | false => rw [cutGroups_of_not_isTerms (hterms.trans hlevel), if_neg Bool.false_ne_true]

theorem buckets_of_selectsBy {now : Instant} {subs : List (String × Aggregation)}
    {keep : List Document -> Bool} (hselects : SelectsBy now subs keep)
    {groups selected : List Group}
    (hgroups : forall group, group ∈ groups -> evaluateAll now group.1.docs subs = .ok group.2)
    (h : selectGroups subs groups = .ok selected) :
    selected.map Prod.fst = (groups.map Prod.fst).filter (fun bucket => keep bucket.docs) := by
  cases (hselects groups hgroups).symm.trans h
  rw [List.filter_map]
  rfl

theorem formBuckets_bare (now : Instant) (bucketing : Bucketing) (docs : List Document) :
    formBuckets now (Plan.bareBucketing bucketing) docs = formBuckets now bucketing docs := by
  cases bucketing <;> rfl

theorem formBuckets_congr {level other : Level} (h : other.bare = level.bare) (now : Instant)
    (docs : List Document) :
    formBuckets now other.bucketing docs = formBuckets now level.bucketing docs := by
  have hbucketing : Plan.bareBucketing other.bucketing = Plan.bareBucketing level.bucketing :=
    congrArg Level.bucketing h
  rw [<- formBuckets_bare, hbucketing, formBuckets_bare]

theorem isTerms_congr {level other : Level} (h : other.bare = level.bare) :
    other.isTerms = level.isTerms := by
  rw [<- Plan.isTerms_bare other, h, Plan.isTerms_bare]

theorem name_congr {level other : Level} (h : other.bare = level.bare) :
    other.name = level.name := by
  have hname := congrArg Level.name h
  exact hname

def HasInnermost (now : Instant) (size : Nat) (statement : Statement) (measures : List Measure)
    (targets : List (OrderTarget × Direction)) (level : Level) (docs : List Document)
    (results : List (String × AggregateResult)) : Prop :=
  exists formed arranged groups, formBuckets now level.bucketing docs = .ok formed
    ∧ results = [(level.name, .buckets groups)]
    ∧ IsInnermost size statement measures targets level docs formed arranged groups

theorem hasInnermost_of_evaluateAll {options : Options} {statement : Statement}
    (outline : Outline options statement) (hsound : statement.IsSound) {level innermost : Level}
    {targets : List (OrderTarget × Direction)} (hbare : innermost.bare = level.bare)
    (horder : innermost.bucketing.order? = Plan.orderAfter none
      (targets.map (fun target => (target.1.sortKey, target.2))))
    (hbound : level.isTerms = true ->
      innermost.bound? = some (statement.limit.getD options.bucketSize))
    (htargets : forall measure direction, (.measure measure, direction) ∈ targets ->
      measure ∈ outline.measures)
    {now : Instant} {docs : List Document} {results : List (String × AggregateResult)}
    (hfinite : forall doc, doc ∈ docs -> doc.source.isFinite = true)
    (h : evaluateAll now docs (Plan.nest outline.leaves [innermost]) = .ok results) :
    HasInnermost now options.bucketSize statement outline.measures targets level docs results := by
  have hnames := outline.isLeafMap.distinct
  have hterms := isTerms_congr hbare
  rcases Answer.result_of_evaluateAll h with ⟨result, rfl, hresult⟩
  rcases steps_of_evaluate hresult with
    ⟨groups, ordered, selected, hbuckets, hresults, hordered, hselected, rfl⟩
  have hperm := perm_of_orderGroups hordered
  refine ⟨groups.map Prod.fst, ordered.map Prod.fst, selected, ?_, ?_, ?_⟩
  · rw [<- formBuckets_congr hbare]
    exact hbuckets
  · rw [name_congr hbare]
  constructor
  case perm => exact hperm.map Prod.fst
  case ordered =>
      intro hown
      have hmeasures : forall measure direction, (.measure measure, direction) ∈ targets ->
          measureNode measure ∈ fieldMap outline.leaves := by
        intro measure direction hmem
        exact outline.measureNode_mem (htargets measure direction hmem)
      have hformed : forall group, group ∈ groups ->
          IsFormed now (fieldMap outline.leaves) docs group := by
        intro group hgroup
        rcases bucket_of_formBuckets hbuckets (List.mem_map_of_mem hgroup) with ⟨hdocs, hkey⟩
        exact ⟨hresults group hgroup, hdocs, hkey hfinite⟩
      exact isOrdered_of_orderGroups hnames hterms horder hmeasures hown hformed hordered
  case selected =>
      intro hown
      have hselects := selectsBy_havingHolds outline.selected hsound outline.perm_leaves hnames hown
        now
      rw [buckets_of_selectsBy hselects ?_ hselected, buckets_cutGroups hterms hbound]
      intro group hgroup
      exact hresults group (hperm.subset ((sublist_cutGroups _ _).subset hgroup))

/-!
# Groups within levels
-/

/-- The results list buckets along the levels around, and what is inside each of these is as
wanted for its documents. -/
def WithinLevels (now : Instant)
    (wanted : List Document -> List (String × AggregateResult) -> Prop) :
    List Level -> List Document -> List (String × AggregateResult) -> Prop
  | [], docs, results => wanted docs results
  | level :: levels, docs, results =>
      exists formed groups, formBuckets now level.bucketing docs = .ok formed
        ∧ results = [(level.name, .buckets groups)]
        ∧ forall group, group ∈ groups -> group.1 ∈ formed
            ∧ WithinLevels now wanted levels group.1.docs group.2

theorem withinLevels_of_evaluateAll {now : Instant} {leaves : List (String × Aggregation)}
    {wanted : List Document -> List (String × AggregateResult) -> Prop} {inner : List Level}
    {all : List Document}
    (hinner : forall docs, docs.Sublist all -> forall results,
      evaluateAll now docs (Plan.nest leaves inner) = .ok results -> wanted docs results)
    {around levels : List Level} (hbare : around.map Level.bare = levels.map Level.bare)
    {docs : List Document} (hdocs : docs.Sublist all) {results : List (String × AggregateResult)}
    (h : evaluateAll now docs (Plan.nest leaves (around ++ inner)) = .ok results) :
    WithinLevels now wanted levels docs results := by
  induction around generalizing levels docs results with
  | nil =>
      rw [List.map_eq_nil_iff.mp hbare.symm]
      exact hinner docs hdocs results h
  | cons other around ih =>
      cases levels with
      | nil => cases hbare
      | cons level levels =>
          rcases List.cons.inj hbare with ⟨hsame, hrest⟩
          rcases Answer.level_of_evaluateAll h with ⟨buckets, groups, rfl, hbuckets, hgroups⟩
          rw [formBuckets_congr hsame] at hbuckets
          refine ⟨buckets, groups, hbuckets, by rw [name_congr hsame], fun group hgroup => ?_⟩
          rcases hgroups group hgroup with ⟨hbucket, hresults⟩
          have hpart := (bucket_of_formBuckets hbuckets hbucket).left.trans hdocs
          exact ⟨hbucket, ih hrest hpart hresults⟩

/-- What a search finds for a grouped statement: buckets along the levels around, and inside
them what the levels inside find in a part of the documents. -/
theorem withinLevels_of_search_append {options : Options} {statement : Statement}
    (outline : Outline options statement) (hsound : statement.IsSound)
    {around inner outer : List Level} (hlevels : outline.levels = around ++ inner)
    (hbare : around.map Level.bare = outer.map Level.bare) {store : Store} {response : Response}
    {wanted : List Document -> List (String × AggregateResult) -> Prop}
    (hinner : forall docs, docs.Sublist store.docs -> forall results,
      evaluateAll store.now docs (Plan.nest outline.leaves inner) = .ok results ->
        wanted docs results)
    (hsearch : store.search outline.plan.request = .ok response) :
    exists indices results, store.resolveIndices statement.source.index = .ok indices
      ∧ response.aggregations = some results
      ∧ WithinLevels store.now wanted outer (selectedDocs store indices statement) results := by
  rcases Answer.aggregations_of_search rfl hsearch with
    ⟨indices, results, hindices, hresults, hfound⟩
  have hdocs : store.select indices outline.plan.request = selectedDocs store indices statement :=
    select_eq_selectedDocs hsound rfl rfl store indices
  rw [hdocs, hlevels] at hresults
  exact ⟨indices, results, hindices, hfound,
    withinLevels_of_evaluateAll hinner hbare List.filter_sublist hresults⟩

/-- What a search finds for a grouped statement: buckets along the levels, with those of the
innermost level sorted by targets that have the keys of its own. -/
theorem withinLevels_of_search {options : Options} {statement : Statement}
    (outline : Outline options statement) (hsound : statement.IsSound) {outer : List Level}
    {level : Level} (hgroups : outline.groups = outer ++ [level])
    {targets : List (OrderTarget × Direction)}
    (hkeys : targets.map (fun target => (target.1.sortKey, target.2))
      = (targetsAt statement outline.groups outline.measures outer.length statement.order).map
          (fun target => (target.1.sortKey, target.2)))
    (htargets : forall measure direction, (.measure measure, direction) ∈ targets ->
      measure ∈ outline.measures)
    {store : Store} {response : Response}
    (hfinite : forall doc, doc ∈ store.docs -> doc.source.isFinite = true)
    (hsearch : store.search outline.plan.request = .ok response) :
    exists indices results, store.resolveIndices statement.source.index = .ok indices
      ∧ response.aggregations = some results
      ∧ WithinLevels store.now
          (HasInnermost store.now options.bucketSize statement outline.measures targets level)
          outer (selectedDocs store indices statement) results := by
  rcases outline.exists_innermost hgroups with
    ⟨around, innermost, hlevels, hbare, horder, hbound⟩
  rw [<- hkeys] at horder
  have haround : around.map Level.bare = outer.map Level.bare := by
    have hall := outline.bare_levels
    rw [hlevels, hgroups, List.map_append, List.map_append] at hall
    exact List.append_inj_left' hall rfl
  refine withinLevels_of_search_append outline hsound hlevels haround ?_ hsearch
  intro docs hpart results hevaluated
  have hselected : forall doc, doc ∈ docs -> doc.source.isFinite = true :=
    fun doc hdoc => hfinite doc (hpart.subset hdoc)
  exact hasInnermost_of_evaluateAll outline hsound hbare horder hbound htargets hselected hevaluated

end Store
end Rollup
