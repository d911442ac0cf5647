import Rollup.Proofs.Grouping.Planning
import Rollup.Proofs.Grouping.Tabulation

/-!
# Plans as chains of levels

The request of an aggregating query is a chain. Each level of GROUP BY is the only entry
of its map, and the map inside the innermost level holds the measures and the selector of
HAVING. Names that come together in a map or in the header of the table are different, so
that no entry takes the place of another.
-/

namespace Rollup
namespace Plan

open Request (Aggregation Bucketing Kinds Selector)
open Sql (AggregateCall BucketCall GroupTerm OrderItem Statement)

def termName : GroupTerm -> String
  | .plain field => field
  | .call bucket => Text.lower bucket.function ++ "(" ++ bucket.field.getD "" ++ ")"

/-- Names inside the innermost level: the aggregate calls, and HAVING if there is one. -/
def leafNames (statement : Statement) : List String :=
  statement.calls.map AggregateCall.displayName
    ++ if statement.having.isSome then [selectorName] else []

/-!
# Levels of terms
-/

theorem namedLevel_cases {function : String}
    {buckets : BucketCall -> String -> Except Error Bucketing} {call : BucketCall} {level : Level}
    (h : namedLevel function buckets call = .ok level) :
    exists field, call.field = some field
      ∧ level.name = function ++ "(" ++ field ++ ")"
      ∧ buckets call field = .ok level.bucketing := by
  unfold namedLevel at h
  split at h
  · cases h
  · rename_i field hfield
    rcases bind_eq_ok_iff.mp h with ⟨bucketing, hbucketing, heq⟩
    cases heq
    exact ⟨field, hfield, rfl, hbucketing⟩

theorem callLevel_cases {call : BucketCall} {level : Level} (h : callLevel call = .ok level) :
    exists buckets,
      buckets ∈ [rangeBuckets, dateRangeBuckets, dateHistogramBuckets, histogramBuckets]
        ∧ namedLevel (Text.lower call.function) buckets call = .ok level := by
  unfold callLevel at h
  split at h
  · rename_i hfunction
    rw [hfunction]
    exact ⟨_, .head _, h⟩
  · rename_i hfunction
    rw [hfunction]
    exact ⟨_, .tail _ (.head _), h⟩
  · rename_i hfunction
    rw [hfunction]
    exact ⟨_, .tail _ (.tail _ (.head _)), h⟩
  · rename_i hfunction
    rw [hfunction]
    exact ⟨_, .tail _ (.tail _ (.tail _ (.head _))), h⟩
  · cases h

theorem name_of_termLevel {size : Nat} {term : GroupTerm} {level : Level}
    (h : termLevel size term = .ok level) : level.name = termName term := by
  cases term with
  | plain field =>
      cases h
      rfl
  | call bucket =>
      rcases callLevel_cases h with ⟨buckets, _, hnamed⟩
      rcases namedLevel_cases hnamed with ⟨field, hfield, hname, _⟩
      rw [termName, hfield]
      exact hname

theorem levelsAfter_cases {size : Nat} {seen : List String} {terms : List GroupTerm}
    {levels : List Level} (h : levelsAfter size seen terms = .ok levels) :
    List.Forall₂ (fun term level => termLevel size term = .ok level) terms levels
      ∧ (levels.map Level.name).Nodup
      ∧ forall name, name ∈ levels.map Level.name -> name ∉ seen := by
  induction terms generalizing seen levels with
  | nil =>
      cases h
      exact ⟨.nil, List.nodup_nil, fun _ hname => (nomatch hname)⟩
  | cons term rest ih =>
      rw [levelsAfter] at h
      rcases bind_eq_ok_iff.mp h with ⟨level, hlevel, h⟩
      split at h
      · cases h
      · rename_i hnew
        rcases bind_eq_ok_iff.mp h with ⟨others, hothers, heq⟩
        cases heq
        rcases ih hothers with ⟨hterms, hnodup, hfresh⟩
        refine ⟨.cons hlevel hterms, ?_, ?_⟩
        · refine List.nodup_cons.mpr ⟨fun hmem => ?_, hnodup⟩
          exact hfresh level.name hmem List.mem_cons_self
        · intro name hname hseen
          rcases List.mem_cons.mp hname with rfl | hname
          · exact hnew (List.contains_iff_mem.mpr hseen)
          · exact hfresh name hname (List.mem_cons_of_mem _ hseen)

theorem names_of_levels {size : Nat} {terms : List GroupTerm} {levels : List Level}
    (h : Plan.levels size terms = .ok levels) :
    levels.map Level.name = terms.map termName := by
  have hterms := (levelsAfter_cases h).left
  clear h
  induction hterms with
  | nil => rfl
  | cons hlevel _ ih => rw [List.map_cons, List.map_cons, name_of_termLevel hlevel, ih]

/-!
# Placing the order and the limit

ORDER BY and LIMIT change how the buckets of a level are sorted and cut. What the levels
are called and how they form their buckets stays as it is.
-/

def bareBucketing : Bucketing -> Bucketing
  | .terms spec => .terms { spec with size := none, order := none }
  | .dateHistogram spec => .dateHistogram { spec with order := none }
  | .histogram spec => .histogram { spec with order := none }
  | .range spec => .range spec
  | .dateRange spec => .dateRange spec

def Level.bare (level : Level) : Level :=
  { level with bucketing := bareBucketing level.bucketing }

theorem bare_addOrder {level updated : Level} {key : String} {direction : Sql.Direction}
    (h : level.addOrder key direction = .ok updated) : updated.bare = level.bare := by
  unfold Level.addOrder at h
  unfold Level.bare
  split at h
  · rename_i hbucketing
    cases h
    rw [hbucketing]
    rfl
  · rename_i hbucketing
    cases h
    rw [hbucketing]
    rfl
  · rename_i hbucketing
    cases h
    rw [hbucketing]
    rfl
  · cases h

theorem map_modifyAt {alpha : Type} {view : Level -> alpha} {update : Level -> Except Error Level}
    (hupdate : forall level updated, update level = .ok updated -> view updated = view level)
    {position : Nat} {levels placed : List Level}
    (h : modifyAt update position levels = .ok placed) :
    placed.map view = levels.map view := by
  induction levels generalizing position placed with
  | nil =>
      cases position <;> cases h <;> rfl
  | cons level rest ih =>
      cases position with
      | zero =>
          rcases bind_eq_ok_iff.mp h with ⟨updated, hupdated, heq⟩
          cases heq
          rw [List.map_cons, List.map_cons, hupdate level updated hupdated]
      | succ position =>
          rcases bind_eq_ok_iff.mp h with ⟨others, hothers, heq⟩
          cases heq
          rw [List.map_cons, List.map_cons, ih hothers]

theorem placeOrder_cons_cases {statement : Statement} {measures : List Measure}
    {levels placed : List Level} {item : OrderItem} {rest : List OrderItem}
    (h : placeOrder statement measures levels (item :: rest) = .ok placed) :
    exists target, resolveOrder statement levels measures item.target = .ok target
      ∧ ((levels = [] ∧ placeOrder statement measures levels rest = .ok placed)
        ∨ exists place sorted, orderPlace levels target = .ok place
            ∧ modifyAt (fun level => level.addOrder place.2 item.direction) place.1 levels
              = .ok sorted
            ∧ placeOrder statement measures sorted rest = .ok placed) := by
  rw [placeOrder] at h
  rcases bind_eq_ok_iff.mp h with ⟨target, htarget, h⟩
  refine ⟨target, htarget, ?_⟩
  split at h
  · rename_i hempty
    exact Or.inl ⟨List.isEmpty_iff.mp hempty, h⟩
  · rcases bind_eq_ok_iff.mp h with ⟨place, hplace, h⟩
    rcases bind_eq_ok_iff.mp h with ⟨sorted, hsorted, h⟩
    exact Or.inr ⟨place, sorted, hplace, hsorted, h⟩

theorem map_placeOrder {alpha : Type} {view : Level -> alpha}
    (hview : forall level updated key direction,
      level.addOrder key direction = .ok updated -> view updated = view level)
    {statement : Statement} {measures : List Measure} {items : List OrderItem}
    {levels placed : List Level} (h : placeOrder statement measures levels items = .ok placed) :
    placed.map view = levels.map view := by
  induction items generalizing levels with
  | nil =>
      cases h
      rfl
  | cons item rest ih =>
      rcases placeOrder_cons_cases h with
        ⟨_, _, ⟨_, hrest⟩ | ⟨place, sorted, _, hsorted, hrest⟩⟩
      · exact ih hrest
      · rw [ih hrest]
        exact map_modifyAt (fun level updated => hview level updated place.2 item.direction) hsorted

theorem bare_placeOrder {statement : Statement} {measures : List Measure}
    {items : List OrderItem} {levels placed : List Level}
    (h : placeOrder statement measures levels items = .ok placed) :
    placed.map Level.bare = levels.map Level.bare :=
  map_placeOrder (fun _ _ _ _ => bare_addOrder) h

/-- What LIMIT does: nothing where there is none or nothing to cut, and else it is the size of
the last level, which has plain terms. -/
theorem placeLimit_cases {limit : Option Nat} {levels placed : List Level}
    (h : placeLimit limit levels = .ok placed) :
    (placed = levels ∧ (limit = none ∨ levels = []))
      ∨ exists outer level spec count, limit = some count
          ∧ levels = outer ++ [level]
          ∧ level.bucketing = .terms spec
          ∧ placed
            = outer ++ [{ level with bucketing := .terms { spec with size := some count } }] := by
  fun_induction placeLimit limit levels generalizing placed with
  | case1 =>
      cases h
      exact Or.inl ⟨rfl, Or.inr rfl⟩
  | case2 level hlimit =>
      cases h
      exact Or.inl ⟨rfl, Or.inl hlimit⟩
  | case3 => cases h
  | case4 level count spec hbucketing hlimit =>
      cases h
      exact Or.inr ⟨[], level, spec, count, hlimit, rfl, hbucketing, rfl⟩
  | case5 => cases h
  | case6 level rest hmore ih =>
      rcases bind_eq_ok_iff.mp h with ⟨others, hothers, heq⟩
      cases heq
      rcases ih hothers with
        ⟨rfl, hnone | rfl⟩ | ⟨outer, last, spec, count, hlimit, rfl, hbucketing, rfl⟩
      · exact Or.inl ⟨rfl, Or.inl hnone⟩
      · exact absurd rfl hmore
      · exact Or.inr ⟨level :: outer, last, spec, count, hlimit, rfl, hbucketing, rfl⟩

theorem bare_placeLimit {limit : Option Nat} {levels placed : List Level}
    (h : placeLimit limit levels = .ok placed) :
    placed.map Level.bare = levels.map Level.bare := by
  rcases placeLimit_cases h with ⟨rfl, _⟩ | ⟨outer, level, spec, count, _, rfl, hbucketing, rfl⟩
  · rfl
  · rw [List.map_append, List.map_append]
    congr 1
    unfold Level.bare
    rw [List.map_singleton, List.map_singleton, hbucketing]
    rfl

theorem names_eq_of_bare {levels placed : List Level}
    (h : placed.map Level.bare = levels.map Level.bare) :
    placed.map Level.name = levels.map Level.name := by
  have hnames := congrArg (List.map Level.name) h
  rw [List.map_map, List.map_map] at hnames
  exact hnames

/-!
# Outlines

The steps that lead from an aggregating statement to its plan.
-/

/-- The levels and the leaves that an aggregating statement is planned with. -/
structure Outline (options : Options) (statement : Statement) where
  groups : List Level
  measures : List Measure
  ordered : List Level
  levels : List Level
  selectors : List (String × Aggregation)
  checked : checkNames statement.select = .ok ()
  grouped : Plan.levels options.bucketSize statement.groups = .ok groups
  measured : Plan.measures statement.calls = .ok measures
  sorted : placeOrder statement measures groups statement.order = .ok ordered
  limited : placeLimit statement.limit ordered = .ok levels
  selected : havingNodes statement levels measures = .ok selectors
  apart : checkClash levels (measures.map measureNode ++ selectors) = .ok ()

namespace Outline

variable {options : Options} {statement : Statement} (outline : Outline options statement)

include outline

def leaves : List (String × Aggregation) :=
  outline.measures.map measureNode ++ outline.selectors

def plan : Plan :=
  { request :=
      { index := statement.source.index
        docType := statement.source.docType
        body :=
          { query := statement.filter.map conditionFilter
            size := some 0
            aggs := some (nest outline.leaves outline.levels) } }
    columns :=
      outline.levels.map (fun level => Column.same level.name)
        ++ outline.measures.map (fun measure => Column.same measure.name) }

theorem bare_levels : outline.levels.map Level.bare = outline.groups.map Level.bare :=
  (bare_placeLimit outline.limited).trans (bare_placeOrder outline.sorted)

theorem names_levels : outline.levels.map Level.name = statement.groups.map termName :=
  (names_eq_of_bare outline.bare_levels).trans (names_of_levels outline.grouped)

theorem nodup_levels : (statement.groups.map termName).Nodup := by
  rw [<- names_of_levels outline.grouped]
  exact (levelsAfter_cases outline.grouped).right.left

theorem names_leaves : outline.leaves.map Prod.fst = leafNames statement := by
  have hmeasures : (outline.measures.map measureNode).map Prod.fst
      = statement.calls.map AggregateCall.displayName := by
    rw [<- names_of_measures outline.measured, List.map_map]
    rfl
  rw [leaves, leafNames, List.map_append, hmeasures]
  rcases havingNodes_cases outline.selected with
    ⟨hnone, hnodes⟩ | ⟨_, selector, hsome, _, _, hnodes⟩
  · rw [hnone, hnodes]
    rfl
  · rw [hsome, hnodes]
    rfl

theorem nodup_leaves : (leafNames statement).Nodup := by
  have hcalls := nodup_displayNames outline.checked
  rw [leafNames]
  rcases havingNodes_cases outline.selected with ⟨hnone, _⟩ | ⟨_, selector, hsome, _, hfree, _⟩
  · rw [hnone]
    simpa using hcalls
  · rw [hsome]
    refine List.nodup_append.mpr
      ⟨hcalls, List.nodup_singleton _, fun name hname other hother heq => ?_⟩
    rw [<- names_of_measures outline.measured] at hname
    rcases List.mem_map.mp hname with ⟨measure, hmeasure, rfl⟩
    exact hfree measure hmeasure (heq.trans (List.mem_singleton.mp hother))

theorem perm_leaves : (fieldMap outline.leaves).Perm outline.leaves := by
  refine fieldMap_perm ?_
  rw [outline.names_leaves]
  exact outline.nodup_leaves

theorem disjoint_names : List.Disjoint (statement.groups.map termName) (leafNames statement) := by
  intro name hlevel hleaf
  rw [<- outline.names_levels] at hlevel
  rw [<- outline.names_leaves] at hleaf
  rcases List.mem_map.mp hlevel with ⟨level, hmem, rfl⟩
  rcases List.mem_map.mp hleaf with ⟨leaf, hleafmem, hname⟩
  have hclash := outline.apart
  unfold checkClash at hclash
  split at hclash
  · cases hclash
  · rename_i hnone
    have hfree := List.find?_eq_none.mp hnone level hmem
    exact hfree (List.any_eq_true.mpr ⟨leaf, hleafmem, beq_iff_eq.mpr hname⟩)

theorem names_columns :
    outline.plan.columns.map Column.name
      = statement.groups.map termName ++ statement.calls.map AggregateCall.displayName := by
  rw [<- outline.names_levels, <- names_of_measures outline.measured, plan, List.map_append,
    List.map_map, List.map_map]
  rfl

theorem nodup_columns : (outline.plan.columns.map Column.name).Nodup := by
  rw [outline.names_columns]
  refine List.nodup_append.mpr
    ⟨outline.nodup_levels, nodup_displayNames outline.checked,
      fun name hname other hother heq => ?_⟩
  refine outline.disjoint_names hname (List.mem_append_left _ ?_)
  exact heq ▸ hother

end Outline

theorem exists_outline {options : Options} {statement : Statement} {plan : Plan}
    (h : ofStatement options statement = .ok plan) (haggregation : statement.isAggregation = true) :
    exists outline : Outline options statement, plan = outline.plan := by
  rcases bind_eq_ok_iff.mp h with ⟨_, hchecked, h⟩
  rw [if_pos haggregation] at h
  rcases bind_eq_ok_iff.mp h with ⟨groups, hgroups, h⟩
  rcases bind_eq_ok_iff.mp h with ⟨measures, hmeasures, h⟩
  rcases bind_eq_ok_iff.mp h with ⟨ordered, hordered, h⟩
  rcases bind_eq_ok_iff.mp h with ⟨levels, hlevels, h⟩
  rcases bind_eq_ok_iff.mp h with ⟨selectors, hselectors, h⟩
  rcases bind_eq_ok_iff.mp h with ⟨_, hclash, heq⟩
  cases heq
  exact ⟨⟨groups, measures, ordered, levels, selectors, hchecked, hgroups, hmeasures, hordered,
    hlevels, hselectors, hclash⟩, rfl⟩

/-- The plan of a query without groups and calls, with the sort keys of its documents. -/
def plainPlan (options : Options) (statement : Statement) (sort : List Request.SortEntry) : Plan :=
  { request :=
      { index := statement.source.index
        docType := statement.source.docType
        body :=
          { query := statement.filter.map conditionFilter
            size := some (statement.limit.getD options.searchSize)
            source :=
              if statement.select.any Sql.SelectItem.isStar then
                none
              else
                some ((fieldColumns statement.select).map Column.field)
            sort := if sort = [] then none else some sort } }
    columns := fieldColumns statement.select }

theorem exists_plainPlan {options : Options} {statement : Statement} {plan : Plan}
    (h : ofStatement options statement = .ok plan)
    (haggregation : statement.isAggregation = false) :
    checkNames statement.select = .ok ()
      ∧ statement.having = none
      ∧ exists sort, hitSort statement = .ok sort ∧ plan = plainPlan options statement sort := by
  rcases bind_eq_ok_iff.mp h with ⟨_, hchecked, h⟩
  rw [haggregation] at h
  have hsearch : searchPlan options statement (statement.filter.map conditionFilter) = .ok plan := h
  unfold searchPlan at hsearch
  split at hsearch
  · cases hsearch
  · rename_i hhaving
    rcases bind_eq_ok_iff.mp hsearch with ⟨sort, hsort, heq⟩
    cases heq
    exact ⟨hchecked, Option.not_isSome_iff_eq_none.mp hhaving, sort, hsort, rfl⟩

theorem plain_of_ofStatement {options : Options} {statement : Statement} {plan : Plan}
    (h : ofStatement options statement = .ok plan)
    (haggregation : statement.isAggregation = false) :
    checkNames statement.select = .ok ()
      ∧ plan.request.body.aggs = none
      ∧ plan.columns = fieldColumns statement.select := by
  rcases exists_plainPlan h haggregation with ⟨hchecked, _, sort, _, rfl⟩
  exact ⟨hchecked, rfl, rfl⟩

/-!
# Chains
-/

/-- Maps inside one another: each name is the only entry of its map and divides documents
into buckets, and the map inside the last of them is as wanted. -/
def IsChain (wanted : List (String × Aggregation) -> Prop) :
    List String -> List (String × Aggregation) -> Prop
  | [], aggs => wanted aggs
  | name :: names, aggs =>
      exists node, aggs = [(name, node)]
        ∧ node.kinds.bucketing?.isSome = true
        ∧ IsChain wanted names node.subs

theorem nest_cons (leaves : List (String × Aggregation)) (level : Level) (levels : List Level) :
    nest leaves (level :: levels)
      = [(level.name,
          .node (Kinds.ofBucketing level.bucketing) (Store.innerSubs (nest leaves levels)))] :=
  rfl

theorem kept_nest_cons (leaves : List (String × Aggregation)) (level : Level)
    (levels : List Level) :
    (nest leaves (level :: levels)).filter (fun sub => sub.2.kinds.selector.isNone)
      = nest leaves (level :: levels) := by
  rw [nest_cons, List.filter_cons_of_pos, List.filter_nil]
  rw [Aggregation.kinds, Store.selector_ofBucketing]
  rfl

theorem isChain_nest {wanted : List (String × Aggregation) -> Prop}
    {leaves : List (String × Aggregation)} (h : wanted (fieldMap leaves)) (levels : List Level) :
    IsChain wanted (levels.map Level.name) (nest leaves levels) := by
  induction levels with
  | nil => exact h
  | cons level rest ih =>
      refine ⟨_, nest_cons leaves level rest, ?_, ?_⟩
      · show (Kinds.ofBucketing level.bucketing).bucketing?.isSome = true
        rw [Store.bucketing?_ofBucketing]
        rfl
      · rw [Store.subs_innerSubs]
        exact ih

/-- The map has one entry for each aggregate call, with the metric of the call, and one
more for HAVING. -/
structure IsLeafMap (statement : Statement) (leaves : List (String × Aggregation)) : Prop where
  distinct : (leaves.map Prod.fst).Nodup
  names : (leaves.map Prod.fst).Perm (leafNames statement)
  metric : forall call, call ∈ statement.calls -> exists measure, Plan.measure call = .ok measure
    ∧ (call.displayName, .node (Kinds.ofMetric measure.kind.toMetric) none) ∈ leaves
  selector : statement.having.isSome = true -> exists selector, selectorNode selector ∈ leaves

theorem Outline.isLeafMap {options : Options} {statement : Statement}
    (outline : Outline options statement) : IsLeafMap statement (fieldMap outline.leaves) := by
  have hperm := outline.perm_leaves
  have hnames : ((fieldMap outline.leaves).map Prod.fst).Perm (leafNames statement) := by
    rw [<- outline.names_leaves]
    exact hperm.map Prod.fst
  constructor
  · exact hnames.nodup_iff.mpr outline.nodup_leaves
  · exact hnames
  · intro call hcall
    rcases exists_result_of_mem_mapM outline.measured hcall with ⟨measure, hmem, hmeasure⟩
    refine ⟨measure, hmeasure, hperm.mem_iff.mpr (List.mem_append_left _ ?_)⟩
    refine List.mem_map.mpr ⟨measure, hmem, ?_⟩
    rw [measureNode, name_of_measure hmeasure]
  · intro hhaving
    rcases havingNodes_cases outline.selected with ⟨hnone, _⟩ | ⟨_, selector, _, _, _, hnodes⟩
    · rw [hnone] at hhaving
      cases hhaving
    · refine ⟨selector, hperm.mem_iff.mpr (List.mem_append_right _ ?_)⟩
      rw [hnodes]
      exact List.mem_singleton_self _

/-- The columns of an aggregating query are its levels and then its calls, under different
names. Its request is the chain of the levels, with an entry for each call and for HAVING
inside the innermost. -/
theorem isChain_ofStatement {options : Options} {statement : Statement} {plan : Plan}
    (haggregation : statement.isAggregation = true)
    (hplan : ofStatement options statement = .ok plan) :
    (plan.columns.map Column.name).Nodup
      ∧ plan.columns.map Column.name
        = statement.groups.map termName ++ statement.calls.map AggregateCall.displayName
      ∧ exists aggs, plan.request.body.aggs = some aggs
          ∧ IsChain (IsLeafMap statement) (statement.groups.map termName) aggs := by
  rcases exists_outline hplan haggregation with ⟨outline, rfl⟩
  refine ⟨outline.nodup_columns, outline.names_columns, _, rfl, ?_⟩
  rw [<- outline.names_levels]
  exact isChain_nest outline.isLeafMap outline.levels

def busyCities : Statement :=
  { source := { index := "people", docType := none }
    select :=
      [ .field "city" none
      , .aggregate
          { function := "COUNT"
            argument := some .star
            distinct := false
            parameters := []
            positional := []
            label := some "n" } ]
    filter := none
    groups :=
      [ .call
          { function := "RANGE"
            field := some "age"
            parameters := []
            boundaries := [.number "18", .number "40", .number "65"] }
      , .plain "city" ]
    having := some (.leaf { target := .name "n", op := .gt, value := .number "1" })
    order := [{ target := .name "n", direction := .desc }]
    limit := some 3 }

theorem isChain_ofStatement_busyCities :
    exists plan aggs, ofStatement {} busyCities = .ok plan
      ∧ plan.columns.map Column.name = ["range(age)", "city", "n"]
      ∧ plan.request.body.aggs = some aggs
      ∧ IsChain (IsLeafMap busyCities) ["range(age)", "city"] aggs := by
  have hok : (ofStatement {} busyCities).isOk = true := by decide +kernel
  have hterms : busyCities.groups.map termName = ["range(age)", "city"] := by decide +kernel
  cases hplan : ofStatement {} busyCities with
  | error e =>
      rw [hplan] at hok
      cases hok
  | ok plan =>
      rcases isChain_ofStatement (by decide +kernel) hplan with ⟨_, hnames, aggs, haggs, hchain⟩
      rw [hterms] at hnames hchain
      exact ⟨plan, aggs, rfl, hnames, haggs, hchain⟩

end Plan
end Rollup
