import Rollup.Proofs.Grouping.Innermost

/-!
# Grouped queries in order

What ORDER BY, LIMIT and HAVING do to the groups of a query together. LIMIT takes the
first groups, of which HAVING then drops some.
-/

namespace Rollup
namespace Store

open Calendar (Instant)
open Plan (Level Measure Options Outline OrderTarget SortsBy measureNode targetsAt termLevels)
open Request (Aggregation Bucketing Kinds)
open Sql (Direction Statement)

/-!
# Searches that succeed
-/

def fieldLevel (size : Nat) (field : String) : Level :=
  { name := field, bucketing := .terms { field := field, size := some size } }

def formsAlways (level : Level) : Bool :=
  match level.bucketing with
  | .terms _ => true
  | .range _ => true
  | _ => false

theorem formsAlways_congr {level other : Level} (h : other.bare = level.bare) :
    formsAlways other = formsAlways level := by
  have hbare : forall level : Level, formsAlways level.bare = formsAlways level := by
    rintro ⟨name, bucketing⟩
    cases bucketing <;> rfl
  rw [<- hbare other, h, hbare]

section

variable {level : Level} (h : formsAlways level = true)

include h

theorem exists_formBuckets (now : Instant) (docs : List Document) :
    exists buckets, formBuckets now level.bucketing docs = .ok buckets := by
  obtain ⟨name, bucketing⟩ := level
  cases bucketing with
  | terms spec => exact ⟨_, rfl⟩
  | range spec => exact ⟨_, rfl⟩
  | _ => cases h

theorem hasInterval_of_formsAlways : HasInterval level.bucketing := by
  obtain ⟨name, bucketing⟩ := level
  cases bucketing with
  | terms spec => trivial
  | range spec => trivial
  | _ => cases h

end

/-- Levels of terms and ranges can be evaluated over documents, if the leaves can over every
part of them. -/
theorem exists_evaluateAll_nest {now : Instant} {leaves : List (String × Aggregation)}
    {names : List String} {all : List Document}
    (hleaves : forall docs, docs.Sublist all ->
      exists results, evaluateAll now docs (fieldMap leaves) = .ok results)
    (hrunnable : forall leaf, leaf ∈ fieldMap leaves -> IsRunnable leaf.2)
    (hnames : forall name, name ∈ names -> name ∈ (fieldMap leaves).map Prod.fst)
    {levels : List Level} (hforms : forall level, level ∈ levels -> formsAlways level = true)
    (hsorts : SortsBy names levels) {docs : List Document} (hdocs : docs.Sublist all) :
    exists results, evaluateAll now docs (Plan.nest leaves levels) = .ok results := by
  induction levels generalizing docs with
  | nil => exact hleaves docs hdocs
  | cons level rest ih =>
      have hothers : forall other, other ∈ rest -> formsAlways other = true :=
        fun other hother => hforms other (List.mem_cons_of_mem level hother)
      have hinner : forall sub, sub ∈ Plan.nest leaves rest -> IsRunnable sub.2 := by
        intro sub hsub
        exact Plan.isRunnable_nest hrunnable hnames
          (fun other hother => hasInterval_of_formsAlways (hothers other hother)) hsorts.right hsub
      rcases exists_formBuckets (hforms level List.mem_cons_self) now docs with ⟨formed, hformed⟩
      have hbuckets : exists groups, formed.mapM (fun bucket => do
            let found <- evaluateAll now bucket.docs (Plan.nest leaves rest)
            return (bucket, found)) = .ok groups := by
        apply exists_mapM_eq_ok
        intro bucket hbucket
        have hpart := (bucket_of_formBuckets hformed hbucket).left.trans hdocs
        rcases ih hothers hsorts.right hpart with ⟨found, hfound⟩
        exact ⟨(bucket, found), by rw [hfound]; rfl⟩
      rcases hbuckets with ⟨groups, hgroups⟩
      rcases exists_orderGroups (fun key hkey => Plan.isOrderPath_of_sortsBy hnames hsorts hkey)
        groups with ⟨ordered, hordered⟩
      rcases exists_selectGroups hinner (cutGroups level.bucketing ordered) with ⟨kept, hkept⟩
      refine ⟨[(level.name, .buckets kept)], evaluateAll_eq_ok_iff.mpr ?_⟩
      rw [Plan.kept_nest_cons, Plan.nest_cons]
      refine .cons ⟨rfl, ?_⟩ .nil
      rw [evaluate_ofBucketing, hformed, ok_bind, hgroups, ok_bind, hordered, ok_bind, hkept]
      rfl

theorem groups_of_plain {options : Options} {statement : Statement}
    (outline : Outline options statement) {fields : List String}
    (hplain : statement.groups = fields.map .plain) :
    outline.groups = termLevels options.bucketSize fields := by
  have hgrouped := outline.grouped
  rw [hplain] at hgrouped
  exact Plan.levelsAfter_plain hgrouped

/-- A query that groups by plain fields and ranges is answered, if its measures can be
computed. -/
theorem exists_search_of_formsAlways {options : Options} {statement : Statement}
    (outline : Outline options statement) (hsound : statement.IsSound)
    (hforms : forall level, level ∈ outline.groups -> formsAlways level = true) {store : Store}
    {indices : List String} (hindices : store.resolveIndices statement.source.index = .ok indices)
    (hcomputable : forall measure, measure ∈ outline.measures ->
      Computable (selectedDocs store indices statement) measure.kind.toMetric) :
    exists response, store.search outline.plan.request = .ok response := by
  have hplaced : forall level, level ∈ outline.levels -> formsAlways level = true := by
    intro level hlevel
    have hmem : level.bare ∈ outline.groups.map Level.bare := by
      rw [<- outline.bare_levels]
      exact List.mem_map_of_mem hlevel
    rcases List.mem_map.mp hmem with ⟨other, hother, hbare⟩
    rw [<- formsAlways_congr hbare]
    exact hforms other hother
  rcases exists_leafNodes_eq outline.selected with ⟨selector?, hnodes⟩
  have hperm : (fieldMap outline.leaves).Perm (leafNodes outline.measures selector?) :=
    outline.perm_leaves.trans (.of_eq hnodes)
  have hleaves : forall docs, docs.Sublist (selectedDocs store indices statement) ->
      exists results, evaluateAll store.now docs (fieldMap outline.leaves) = .ok results := by
    intro docs hpart
    have hparts : forall measure, measure ∈ outline.measures ->
        Computable docs measure.kind.toMetric := by
      intro measure hmeasure
      exact (hcomputable measure hmeasure).mono hpart
    exact ⟨_, evaluateAll_leaves (isLeaf_of_mem hperm) (computable_of_mem hperm hparts)⟩
  have hrunnable : forall leaf, leaf ∈ fieldMap outline.leaves -> IsRunnable leaf.2 :=
    fun leaf hleaf => outline.isRunnable_leaves hsound (outline.perm_leaves.mem_iff.mp hleaf)
  rcases exists_evaluateAll_nest hleaves hrunnable (fun _ => outline.names_measures_subset) hplaced
    outline.sortsBy_levels (List.Sublist.refl _) with ⟨results, hresults⟩
  have hdocs : store.select indices outline.plan.request = selectedDocs store indices statement :=
    select_eq_selectedDocs hsound rfl rfl store indices
  rw [<- hdocs] at hresults
  rcases search_of_evaluateAll hresults rfl hindices with ⟨response, hresponse, _⟩
  exact ⟨response, hresponse⟩

theorem exists_search_of_plain {options : Options} {statement : Statement}
    (outline : Outline options statement) (hsound : statement.IsSound) {fields : List String}
    (hplain : statement.groups = fields.map .plain) {store : Store} {indices : List String}
    (hindices : store.resolveIndices statement.source.index = .ok indices)
    (hcomputable : forall measure, measure ∈ outline.measures ->
      Computable (selectedDocs store indices statement) measure.kind.toMetric) :
    exists response, store.search outline.plan.request = .ok response := by
  refine exists_search_of_formsAlways outline hsound ?_ hindices hcomputable
  intro level hlevel
  rw [groups_of_plain outline hplain] at hlevel
  rcases List.mem_map.mp hlevel with ⟨field, _, rfl⟩
  rfl

def fieldBuckets (docs : List Document) (field : String) : List Bucket :=
  (distinctValues [] (allValues docs field)).map (fun entry =>
    termBucket entry.2 (docsWith docs field entry.1))

theorem exists_innermost_of_field {options : Options} {statement : Statement}
    (outline : Outline options statement) (hsound : statement.IsSound) {field : String}
    (hfield : statement.groups = [.plain field]) {targets : List (OrderTarget × Direction)}
    (hkeys : targets.map (fun target => (target.1.sortKey, target.2))
      = (targetsAt statement [fieldLevel options.bucketSize field] outline.measures 0
          statement.order).map (fun target => (target.1.sortKey, target.2)))
    (htargets : forall measure direction, (.measure measure, direction) ∈ targets ->
      measure ∈ outline.measures)
    {store : Store} {indices : List String}
    (hindices : store.resolveIndices statement.source.index = .ok indices)
    (hfinite : forall doc, doc ∈ store.docs -> doc.source.isFinite = true)
    (hcomputable : forall measure, measure ∈ outline.measures ->
      Computable (selectedDocs store indices statement) measure.kind.toMetric) :
    exists response arranged groups, store.search outline.plan.request = .ok response
      ∧ response.aggregations = some [(field, .buckets groups)]
      ∧ IsInnermost options.bucketSize statement outline.measures targets
          (fieldLevel options.bucketSize field) (selectedDocs store indices statement)
          (fieldBuckets (selectedDocs store indices statement) field) arranged groups := by
  have hgroups : outline.groups = [fieldLevel options.bucketSize field] :=
    @groups_of_plain _ _ outline [field] hfield
  rcases @exists_search_of_plain _ _ outline hsound [field] hfield _ _ hindices hcomputable with
    ⟨response, hsearch⟩
  rw [<- hgroups] at hkeys
  rcases @withinLevels_of_search _ _ outline hsound [] _ hgroups _ hkeys htargets _ _ hfinite
    hsearch with
    ⟨found, results, hresolved, hresults, formed, arranged, groups, hformed, rfl, hinnermost⟩
  cases hindices.symm.trans hresolved
  have hbuckets : termBuckets { field := field, size := some options.bucketSize }
      (selectedDocs store indices statement) = formed := Except.ok.inj hformed
  rw [termBuckets_eq] at hbuckets
  refine ⟨response, arranged, groups, hsearch, hresults, ?_⟩
  rw [fieldBuckets, hbuckets]
  exact hinnermost

/-!
# Names in order

An item of ORDER BY that names a measure sorts the innermost level, and HAVING selects
among its buckets.
-/

/-- In whatever a search finds for a grouped query, the innermost buckets are sorted by the
numbers of the measures that ORDER BY names, and kept by those that HAVING names. These names
must not be taken for those of the buckets' own count and key. -/
theorem hasInnermost_of_search {options : Options} {text : String} {statement : Statement}
    {plan : Plan} {store : Store} {response : Response}
    (hparse : Sql.parse text = .ok statement) (hplan : Plan.ofText options text = .ok plan)
    (hgrouped : statement.groups ≠ [])
    (hfinite : forall doc, doc ∈ store.docs -> doc.source.isFinite = true)
    (hsearch : store.search plan.request = .ok response) :
    exists indices outer level measures results,
      store.resolveIndices statement.source.index = .ok indices
        ∧ Plan.levels options.bucketSize statement.groups = .ok (outer ++ [level])
        ∧ Plan.measures statement.calls = .ok measures
        ∧ response.aggregations = some results
        ∧ (forall docs measure, measure.kind = .docCount ->
            measureValue docs measure = some (Float.ofNat docs.length))
        ∧ WithinLevels store.now
            (HasInnermost store.now options.bucketSize statement measures
              (targetsAt statement (outer ++ [level]) measures outer.length statement.order) level)
            outer (selectedDocs store indices statement) results := by
  have hsound : statement.IsSound := Sql.isSound_parse statement hparse
  have haggregation : statement.isAggregation = true := by
    rw [Statement.isAggregation, bne_iff_ne.mpr hgrouped, Bool.true_or]
  rw [Plan.ofText, hparse] at hplan
  rcases Plan.exists_outline hplan haggregation with ⟨outline, rfl⟩
  rcases List.eq_nil_or_concat outline.groups with hnil | ⟨outer, level, hconcat⟩
  · have hnames := Plan.names_of_levels outline.grouped
    rw [hnil] at hnames
    exact absurd (List.map_eq_nil_iff.mp hnames.symm) hgrouped
  · rw [List.concat_eq_append] at hconcat
    rcases withinLevels_of_search outline hsound hconcat rfl (fun _ _ => Plan.mem_of_mem_targetsAt)
      hfinite hsearch with ⟨indices, results, hindices, hfound, hwithin⟩
    rw [hconcat] at hwithin
    refine ⟨indices, outer, level, outline.measures, results, hindices, ?_, outline.measured,
      hfound, ?_, hwithin⟩
    · rw [<- hconcat]
      exact outline.grouped
    · rintro docs ⟨name, kind⟩ rfl
      exact measureValue_docCount docs name

/-!
# Counted people
-/

def countAs (name : String) : Measure :=
  { name := name, kind := .docCount }

theorem computable_countAs {measures : List Measure} {name : String} (h : measures = [countAs name])
    (docs : List Document) (measure : Measure) (hmeasure : measure ∈ measures) :
    Computable docs measure.kind.toMetric := by
  rw [h, List.mem_singleton] at hmeasure
  rw [hmeasure]
  trivial

theorem orderIsOwn_countAs (docs : List Document) (direction : Direction) :
    OrderIsOwn docs [(.measure (countAs "n"), direction)] := by
  intro measure direction hmem
  cases List.mem_singleton.mp hmem
  exact Or.inl (by decide)

theorem havingIsOwn_countAs (statement : Statement) (name : String) :
    HavingIsOwn statement [countAs name] := by
  rintro _ _ measure ⟨_, _, hreferenced⟩ _
  rw [List.mem_singleton.mp (Plan.mem_of_referencedMeasure? hreferenced)]
  rfl

def countedPeople (name : String) : Statement :=
  { Answer.countedCities with
    select :=
      [ .aggregate
          { function := "COUNT"
            argument := some .star
            distinct := false
            parameters := []
            positional := []
            label := some name } ] }

theorem wellFormed_countedPeople (name : String) : (countedPeople name).WellFormed :=
  { Answer.wellFormed_countedCities with
    select_ne_nil := List.cons_ne_nil _ _
    select := by
      unfold countedPeople
      rw [List.forall_mem_singleton]
      exact wellFormed_countAll name }

theorem selectedDocs_people {statement : Statement}
    (hsource : statement.source = { index := "people", docType := none })
    (hfilter : statement.filter = none) :
    selectedDocs people ["people"] statement = people.docs := by
  unfold selectedDocs
  rw [hsource, hfilter]
  exact List.filter_eq_self.mpr (by decide +kernel)

def rankedTags : Statement :=
  { sharedTags with
    order := [{ target := .name "n", direction := .desc }]
    limit := some 1 }

theorem wellFormed_rankedTags : rankedTags.WellFormed :=
  { wellFormed_sharedTags with
    order := by
      unfold rankedTags
      rw [List.forall_mem_singleton]
      trivial
    limit := by
      intro n hn
      cases hn
      decide }

theorem hasInnermost_of_search_rankedTags :
    exists plan response results,
      Plan.ofText {} rankedTags.canonicalText = .ok plan
        ∧ people.search plan.request = .ok response
        ∧ response.aggregations = some results
        ∧ (forall docs, OrderIsOwn docs [(.measure (countAs "n"), .desc)])
        ∧ HavingIsOwn rankedTags [countAs "n"]
        ∧ WithinLevels people.now
            (HasInnermost people.now 10000 rankedTags [countAs "n"]
              [(.measure (countAs "n"), .desc)] (fieldLevel 10000 "tags"))
            [fieldLevel 10000 "city"] (selectedDocs people ["people"] rankedTags) results := by
  have hmeasures : Plan.measures rankedTags.calls = .ok [countAs "n"] := by decide +kernel
  have hlevels : Plan.levels 10000 rankedTags.groups
      = .ok ([fieldLevel 10000 "city"] ++ [fieldLevel 10000 "tags"]) := rfl
  rcases @exists_canonicalPlan {} _ wellFormed_rankedTags (by decide +kernel) with
    ⟨hparse, plan, hstatement, hplan⟩
  rcases Plan.exists_outline hstatement rfl with ⟨outline, rfl⟩
  have hcounted := Except.ok.inj (outline.measured.symm.trans hmeasures)
  rcases @exists_search_of_plain _ _ outline (Sql.isSound_parse _ hparse) ["city", "tags"] rfl _ _
    resolveIndices_people (computable_countAs hcounted _) with ⟨response, hsearch⟩
  rcases hasInnermost_of_search hparse hplan (by decide) (by decide +kernel) hsearch with
    ⟨indices, outer, level, measures, results, hindices, hfound, hmade, hresults, _, hwithin⟩
  cases resolveIndices_people.symm.trans hindices
  cases hmeasures.symm.trans hmade
  rcases List.append_inj' (Except.ok.inj (hlevels.symm.trans hfound)) rfl with ⟨rfl, hlast⟩
  cases List.singleton_inj.mp hlast
  exact ⟨_, response, results, hplan, hsearch, hresults,
    fun docs => orderIsOwn_countAs docs .desc, havingIsOwn_countAs rankedTags "n", hwithin⟩

/-- The people of each city, by a count that has the name of a bucket's key. -/
def keyedCounts : Statement :=
  { countedPeople "_key" with
    order := [{ target := .name "_key", direction := .asc }] }

theorem wellFormed_keyedCounts : keyedCounts.WellFormed :=
  { wellFormed_countedPeople "_key" with
    order := by
      unfold keyedCounts
      rw [List.forall_mem_singleton]
      trivial }

/-- A count that is called like the key of buckets is not what they are sorted by. -/
theorem search_keyedCounts :
    exists plan response groups,
      Plan.ofText {} keyedCounts.canonicalText = .ok plan
        ∧ people.search plan.request = .ok response
        ∧ response.aggregations = some [("city", .buckets groups)]
        ∧ Plan.resolveOrder keyedCounts [fieldLevel 10000 "city"] [countAs "_key"] (.name "_key")
            = .ok (.measure (countAs "_key"))
        ∧ ¬ (groups.map Prod.fst).Pairwise (fun a b =>
            compareByTarget (.measure (countAs "_key")) a b ≠ .gt) := by
  have hmeasures : Plan.measures keyedCounts.calls = .ok [countAs "_key"] := by decide +kernel
  rcases @exists_canonicalPlan {} _ wellFormed_keyedCounts (by decide +kernel) with
    ⟨hparse, plan, hstatement, hplan⟩
  rcases Plan.exists_outline hstatement rfl with ⟨outline, rfl⟩
  have hcounted := Except.ok.inj (outline.measured.symm.trans hmeasures)
  -- The sort key of the count is that of the keys.
  have hkeys : [((OrderTarget.key 0).sortKey, Direction.asc)]
      = (targetsAt keyedCounts [fieldLevel 10000 "city"] outline.measures 0
          keyedCounts.order).map (fun target => (target.1.sortKey, target.2)) := by
    rw [hcounted]
    rfl
  rcases @exists_innermost_of_field _ _ outline (Sql.isSound_parse _ hparse) "city" rfl
    [(.key 0, .asc)] hkeys (fun _ _ hmem => by cases List.mem_singleton.mp hmem) _ _
    resolveIndices_people (by decide +kernel) (computable_countAs hcounted _) with
    ⟨response, arranged, groups, hsearch, hresults, hinnermost⟩
  rw [selectedDocs_people rfl rfl, hcounted] at hinnermost
  have hsorted : arranged.Pairwise (fun a b => compareBuckets [(.key 0, .asc)] a b ≠ .gt) := by
    cases hinnermost.ordered (fun _ _ hmem => by cases List.mem_singleton.mp hmem) with
    | byTargets _ h => exact h
  have hall : groups.map Prod.fst = arranged := by
    have hlength : arranged.length <= 10000 := by
      rw [hinnermost.perm.length_eq]
      decide +kernel
    rw [hinnermost.selected (havingIsOwn_countAs keyedCounts "_key")]
    show List.filter (fun _ => true) (arranged.take 10000) = arranged
    rw [List.filter_eq_self.mpr (fun _ _ => rfl), List.take_of_length_le hlength]
  have hcities : exists oslo, oslo ∈ fieldBuckets people.docs "city"
      ∧ exists rome, rome ∈ fieldBuckets people.docs "city"
        ∧ oslo.docs.length = 3 ∧ rome.docs.length = 1
        ∧ compareBuckets [(.key 0, .asc)] rome oslo = .gt := by
    decide +kernel
  rcases hcities with ⟨oslo, hoslo, rome, hrome, hthree, hone, hlast⟩
  refine ⟨_, response, groups, hplan, hsearch, hresults, rfl, fun hown => ?_⟩
  rw [hall] at hown
  have hne : oslo ≠ rome := by
    intro heq
    rw [heq, hone] at hthree
    cases hthree
  rcases rel_or_rel_of_pairwise (hsorted.and hown) (hinnermost.perm.mem_iff.mpr hoslo)
    (hinnermost.perm.mem_iff.mpr hrome) hne with ⟨_, hcount⟩ | ⟨hkey, _⟩
  · have hcounts : compareFloats (Float.ofNat 3) (Float.ofNat 1) = .gt :=
      Number.compareFloats_ofNat (by decide) (by decide)
    apply hcount
    show compareValueOptions (measureValue oslo.docs _) (measureValue rome.docs _) = .gt
    rw [countAs, measureValue_docCount, measureValue_docCount, hthree, hone]
    exact hcounts
  · exact hkey hlast

/-!
# Limited groups
-/

end Store
end Rollup
