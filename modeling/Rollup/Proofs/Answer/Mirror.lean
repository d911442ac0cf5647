import Rollup.Proofs.Answer.Alignment

/-!
# Answers that mirror results

What a store found is written as JSON and read back along the request. The two sides meet
at `Mirrors`: every bucket that was formed is read with its own key and count, and every
metric from its own result.

A bucket and the results inside it share one object, in which a result hides an entry of
the bucket that has the same name. So the names inside buckets must not be those of the
key and of the count.
-/

namespace Rollup
namespace Store

open Calendar (Instant)
open Request (Aggregation Bucketing Kinds)

/-!
# Groups of a level
-/

theorem eq_mergeSort_of_sortGroups {subs : List (String × Aggregation)}
    {order : List Request.SortEntry} {groups ordered : List Group}
    (h : sortGroups subs order groups = .ok ordered) :
    ordered = groups.mergeSort (fun a b => compareGroups order.flatten a b != .gt) := by
  unfold sortGroups at h
  dsimp only at h
  split at h
  · cases h
  · cases h
    rfl

theorem perm_of_orderGroups {bucketing : Bucketing} {subs : List (String × Aggregation)}
    {groups ordered : List Group} (h : orderGroups bucketing subs groups = .ok ordered) :
    ordered.Perm groups := by
  unfold orderGroups at h
  split at h
  · rw [eq_mergeSort_of_sortGroups h]
    exact List.mergeSort_perm _ _
  · rw [eq_mergeSort_of_sortGroups h]
    exact List.mergeSort_perm _ _
  · cases h
    exact List.Perm.refl _

theorem sublist_cutGroups (bucketing : Bucketing) (groups : List Group) :
    (cutGroups bucketing groups).Sublist groups := by
  unfold cutGroups
  split
  · exact List.take_sublist _ _
  · exact List.Sublist.refl _

theorem sublist_of_selectGroups {subs : List (String × Aggregation)} {groups selected : List Group}
    (h : selectGroups subs groups = .ok selected) : selected.Sublist groups := by
  induction subs generalizing groups with
  | nil =>
      cases h
      exact List.Sublist.refl _
  | cons sub rest ih =>
      rw [selectGroups] at h
      split at h
      · exact ih h
      · rcases bind_eq_ok_iff.mp h with ⟨kept, hkept, hrest⟩
        exact (ih hrest).trans (sublist_of_filterM hkept)

theorem steps_of_bucketing? {aggregation : Aggregation} {bucketing : Bucketing}
    (hbucketing : aggregation.kinds.bucketing? = some bucketing) {now : Instant} {name : String}
    {docs : List Document} {result : AggregateResult}
    (h : evaluate now name docs aggregation = .ok result) :
    exists groups ordered selected, formBuckets now bucketing docs = .ok (groups.map Prod.fst)
      ∧ (forall group, group ∈ groups ->
          evaluateAll now group.1.docs aggregation.subs = .ok group.2)
      ∧ orderGroups bucketing aggregation.subs groups = .ok ordered
      ∧ selectGroups aggregation.subs (cutGroups bucketing ordered) = .ok selected
      ∧ result = .buckets selected := by
  rw [evaluate_of_bucketing? hbucketing] at h
  rcases bind_eq_ok_iff.mp h with ⟨buckets, hbuckets, h⟩
  rcases bind_eq_ok_iff.mp h with ⟨groups, hgroups, h⟩
  rcases bind_eq_ok_iff.mp h with ⟨ordered, hordered, h⟩
  rcases bind_eq_ok_iff.mp h with ⟨selected, hselected, heq⟩
  cases heq
  have hformed : List.Forall₂ (fun bucket group => bucket = group.1
      ∧ evaluateAll now group.1.docs aggregation.subs = .ok group.2) buckets groups := by
    refine (mapM_eq_ok_iff.mp hgroups).imp (fun bucket group hgroup => ?_)
    rcases bind_eq_ok_iff.mp hgroup with ⟨results, hresults, heq⟩
    cases heq
    exact ⟨rfl, hresults⟩
  have hbuckets' : buckets = groups.map Prod.fst := by
    rw [<- List.forall₂_eq_eq_eq, List.forall₂_map_right_iff]
    exact hformed.imp (fun _ _ hsame => hsame.left)
  refine ⟨groups, ordered, selected, hbuckets' ▸ hbuckets, fun group hgroup => ?_, hordered,
    hselected, rfl⟩
  rcases exists_left_of_mem hformed hgroup with ⟨_, _, hsame⟩
  exact hsame.right

theorem steps_of_evaluate {now : Instant} {name : String} {docs : List Document}
    {bucketing : Bucketing} {subs : List (String × Aggregation)} {result : AggregateResult}
    (h : evaluate now name docs (.node (Kinds.ofBucketing bucketing) (innerSubs subs))
      = .ok result) :
    exists groups ordered selected, formBuckets now bucketing docs = .ok (groups.map Prod.fst)
      ∧ (forall group, group ∈ groups -> evaluateAll now group.1.docs subs = .ok group.2)
      ∧ orderGroups bucketing subs groups = .ok ordered
      ∧ selectGroups subs (cutGroups bucketing ordered) = .ok selected
      ∧ result = .buckets selected := by
  have hbucketing :
      (Aggregation.node (Kinds.ofBucketing bucketing) (innerSubs subs)).kinds.bucketing?
        = some bucketing :=
    bucketing?_ofBucketing bucketing
  have hsteps := steps_of_bucketing? hbucketing h
  rw [subs_innerSubs] at hsteps
  exact hsteps

theorem groups_of_evaluate {now : Instant} {name : String} {docs : List Document}
    {bucketing : Bucketing} {subs : List (String × Aggregation)} {result : AggregateResult}
    (h : evaluate now name docs (.node (Kinds.ofBucketing bucketing) (innerSubs subs))
      = .ok result) :
    exists buckets groups, formBuckets now bucketing docs = .ok buckets
      ∧ result = .buckets groups
      ∧ forall group, group ∈ groups ->
          group.1 ∈ buckets ∧ evaluateAll now group.1.docs subs = .ok group.2 := by
  rcases steps_of_evaluate h with
    ⟨groups, ordered, selected, hbuckets, hgroups, hordered, hselected, rfl⟩
  refine ⟨_, selected, hbuckets, rfl, fun group hgroup => ?_⟩
  have hmem : group ∈ groups :=
    (perm_of_orderGroups hordered).subset
      ((sublist_cutGroups bucketing ordered).subset
        ((sublist_of_selectGroups hselected).subset hgroup))
  exact ⟨List.mem_map_of_mem hmem, hgroups group hmem⟩

/-!
# Entries beside the key
-/

theorem key_not_mem_entryOf {name : String} (h : name ≠ "key") (value : Option Json) :
    "key" ∉ (entryOf name value).map Prod.fst := by
  cases value with
  | none => simp [entryOf]
  | some json => simpa [entryOf] using h.symm

theorem key_not_mem_dateEntries {name : String} (h : name ≠ "key")
    (htext : name ++ "_as_string" ≠ "key") (bound : Option Instant) (text : Option String) :
    "key" ∉ (dateEntries name bound text).map Prod.fst := by
  unfold dateEntries
  split
  · simpa using ⟨h.symm, htext.symm⟩
  · simp

theorem key_not_mem_extra {now : Instant} {bucketing : Bucketing} {docs : List Document}
    {buckets : List Bucket} (h : formBuckets now bucketing docs = .ok buckets) {bucket : Bucket}
    (hbucket : bucket ∈ buckets) : "key" ∉ bucket.extra.map Prod.fst := by
  cases bucketing with
  | terms spec =>
      cases h
      rcases List.mem_map.mp hbucket with ⟨entry, _, rfl⟩
      exact key_not_mem_extra_termBucket _ _
  | range spec =>
      cases h
      rcases List.mem_map.mp hbucket with ⟨range, _, rfl⟩
      show "key" ∉ (entryOf "from" _ ++ entryOf "to" _).map Prod.fst
      rw [List.map_append, List.mem_append, not_or]
      exact ⟨key_not_mem_entryOf (by decide) _, key_not_mem_entryOf (by decide) _⟩
  | dateRange spec =>
      rcases bind_eq_ok_iff.mp h with ⟨resolved, _, h⟩
      rcases exists_of_mem_mapM h hbucket with ⟨⟨low, high⟩, _, hformed⟩
      rcases bind_eq_ok_iff.mp hformed with ⟨lowText, _, hformed⟩
      rcases bind_eq_ok_iff.mp hformed with ⟨highText, _, heq⟩
      cases heq
      show "key" ∉ (dateEntries "from" _ _ ++ dateEntries "to" _ _).map Prod.fst
      rw [List.map_append, List.mem_append, not_or]
      exact ⟨key_not_mem_dateEntries (by decide) (by decide) _ _,
        key_not_mem_dateEntries (by decide) (by decide) _ _⟩
  | dateHistogram spec =>
      rcases bind_eq_ok_iff.mp h with ⟨interval, _, h⟩
      rcases bind_eq_ok_iff.mp h with ⟨offset, _, h⟩
      rcases bind_eq_ok_iff.mp h with ⟨keyed, _, h⟩
      rcases bind_eq_ok_iff.mp h with ⟨groups, _, h⟩
      rcases exists_of_mem_mapM h hbucket with ⟨group, _, hformed⟩
      rcases bind_eq_ok_iff.mp hformed with ⟨shifted, _, hformed⟩
      split at hformed
      · cases hformed
      · rcases bind_eq_ok_iff.mp hformed with ⟨label, _, heq⟩
        cases heq
        simp
  | histogram spec =>
      change histogramBuckets spec docs = .ok buckets at h
      unfold histogramBuckets at h
      split at h
      · cases h
      · rcases bind_eq_ok_iff.mp h with ⟨groups, _, heq⟩
        cases heq
        rcases List.mem_map.mp hbucket with ⟨group, _, rfl⟩
        simp

end Store

namespace Answer

open Calendar (Instant)
open Plan (Level Measure Outline)
open Request (Aggregation Kinds Metric)
open Sql (AggregateCall Statement)
open Store (AggregateResult Document formBuckets evaluate evaluateAll evaluateMetric groupJson
  shownValue)

/-!
# Mirrors
-/

/-- The row mirrors the results that the aggregations have over the documents. Under the
name of a level it lists the groups of the result, each with the key and the count of the
bucket and with a row that mirrors what is inside. Inside the last level it has the value
of each measure over the documents there. -/
def Mirrors (now : Instant) (measures : List Measure) :
    List String -> List (String × Aggregation) -> List Document ->
      List (String × AggregateResult) -> Row -> Prop
  | [], aggs, docs, results, row =>
      (row.map Prod.fst).Perm (measures.map Measure.name)
        ∧ forall measure, measure ∈ measures -> Plan.measureNode measure ∈ aggs
          ∧ exists result, evaluateMetric measure.kind.toMetric docs = .ok result
            ∧ results.lookup measure.name = some (.metric result)
            ∧ row.lookup measure.name = some (shownValue result)
  | name :: names, aggs, docs, results, row =>
      exists node bucketing buckets groups rows, aggs = [(name, node)]
        ∧ node.kinds.bucketing? = some bucketing
        ∧ formBuckets now bucketing docs = .ok buckets
        ∧ results = [(name, .buckets groups)]
        ∧ row = [(name, .buckets rows)]
        ∧ List.Forall₂ (fun group entry => group.1 ∈ buckets
            ∧ entry.1.key = group.1.key
            ∧ entry.1.docCount = group.1.docs.length
            ∧ Mirrors now measures names node.subs group.1.docs group.2 entry.2) groups rows

/-- The object has each of the results under its name. -/
def Holds (raw : Json) (results : List (String × AggregateResult)) : Prop :=
  forall entry, entry ∈ results -> raw.field? entry.1 = some entry.2.json

theorem exists_readRow {now : Instant} {docs : List Document} {subs : List (String × Aggregation)}
    {results : List (String × AggregateResult)} {raw : Json}
    {rel : AggregateResult -> Value -> Prop}
    (h : evaluateAll now docs subs = .ok results) (hraw : Holds raw results)
    (hread : forall sub, sub ∈ subs -> sub.2.kinds.selector.isNone = true -> forall result,
      evaluate now sub.1 docs sub.2 = .ok result ->
        exists value, readValue sub.1 result.json sub.2 = .ok value ∧ rel result value) :
    exists row, readRow raw subs = .ok row
      ∧ List.Forall₂ (fun result entry => entry.1 = result.1 ∧ rel result.2 entry.2)
          results row := by
  have hall := Store.evaluateAll_eq_ok_iff.mp h
  have hkept : forall sub, sub ∈ subs.filter (fun sub => sub.2.kinds.selector.isNone) ->
      forall result, evaluate now sub.1 docs sub.2 = .ok result ->
        exists value, readValue sub.1 result.json sub.2 = .ok value ∧ rel result value :=
    fun sub hsub => hread sub (List.mem_filter.mp hsub).left (List.mem_filter.mp hsub).right
  simp only [readRow_eq_ok_iff]
  generalize subs.filter (fun sub => sub.2.kinds.selector.isNone) = kept at hall hkept
  clear h hread
  induction hall with
  | nil => exact ⟨[], .nil, .nil⟩
  | @cons sub result _ _ hresult _ ih =>
      rcases ih (fun entry hentry => hraw entry (List.mem_cons_of_mem _ hentry))
        (fun other hother => hkept other (List.mem_cons_of_mem _ hother)) with ⟨row, hrow, hrels⟩
      rcases hkept sub List.mem_cons_self _ hresult.right with ⟨value, hvalue, hrel⟩
      have hpart := hraw result List.mem_cons_self
      rw [hresult.left] at hpart
      exact ⟨(sub.1, value) :: row, .cons ⟨rfl, _, hpart, hvalue⟩ hrow,
        .cons ⟨hresult.left.symm, hrel⟩ hrels⟩

/-!
# Reading the innermost level
-/

section

variable {now : Instant} {docs : List Document} {leaves : List (String × Aggregation)}
  {measures : List Measure} {selector? : Option Request.Selector}
  {results : List (String × AggregateResult)}
  (hperm : leaves.Perm (Store.leafNodes measures selector?))
  (h : evaluateAll now docs leaves = .ok results)

include hperm h

theorem names_results_perm : (results.map Prod.fst).Perm (measures.map Measure.name) := by
  rw [keys_eq_of_forall₂ (Store.evaluateAll_eq_ok_iff.mp h) (fun _ _ hrel => hrel.left)]
  have hkept : (Store.leafNodes measures selector?).filter
      (fun sub => sub.2.kinds.selector.isNone) = measures.map Plan.measureNode := by
    have hmeasures : forall sub, sub ∈ measures.map Plan.measureNode ->
        sub.2.kinds.selector.isNone = true := by
      intro sub hsub
      rcases List.mem_map.mp hsub with ⟨measure, _, rfl⟩
      exact Option.isNone_iff_eq_none.mpr (Store.selector_ofMetric _)
    have hselectors : forall sub, sub ∈ selector?.toList.map Plan.selectorNode ->
        ¬sub.2.kinds.selector.isNone = true := by
      intro sub hsub
      rcases List.mem_map.mp hsub with ⟨selector, _, rfl⟩
      exact Bool.false_ne_true
    rw [Store.leafNodes, List.filter_append, List.filter_eq_self.mpr hmeasures,
      List.filter_eq_nil_iff.mpr hselectors, List.append_nil]
  have hnames : measures.map Measure.name = (measures.map Plan.measureNode).map Prod.fst := by
    rw [List.map_map]
    rfl
  rw [hnames, <- hkept]
  exact (hperm.filter _).map Prod.fst

theorem mirrors_leaves (hnames : (leaves.map Prod.fst).Nodup) {raw : Json}
    (hraw : Holds raw results) :
    exists row, readRow raw leaves = .ok row ∧ Mirrors now measures [] leaves docs results row := by
  have hread : forall sub, sub ∈ leaves -> sub.2.kinds.selector.isNone = true -> forall result,
      evaluate now sub.1 docs sub.2 = .ok result ->
        exists value, readValue sub.1 result.json sub.2 = .ok value
          ∧ exists metric, result = .metric metric ∧ value = shownValue metric := by
    intro sub hsub hselector result hresult
    rcases Store.mem_leaves hperm hsub with ⟨measure, _, rfl⟩ | ⟨selector, _, rfl⟩
    · change evaluate now _ docs (.node (Kinds.ofMetric _) none) = .ok result at hresult
      rw [Store.evaluate_ofMetric] at hresult
      rcases bind_eq_ok_iff.mp hresult with ⟨metric, hmetric, heq⟩
      cases heq
      refine ⟨shownValue metric, ?_, metric, rfl, rfl⟩
      rw [AggregateResult.json]
      exact (Store.readValue_ofMetric _ _ _).trans (Store.readMetric_json hmetric _)
    · cases hselector
  rcases exists_readRow h hraw hread with ⟨row, hrow, hrels⟩
  have hkeys : row.map Prod.fst = results.map Prod.fst :=
    keys_eq_of_forall₂ hrels (fun _ _ hrel => hrel.left)
  have hdistinct : (results.map Prod.fst).Nodup := (Store.evaluateAll_names h).nodup hnames
  refine ⟨row, hrow, hkeys ▸ names_results_perm hperm h, fun measure hmeasure => ?_⟩
  have hnode := Store.measureNode_mem_leaves hperm hmeasure
  rcases Store.metric_mem_results h hnode with ⟨result, hresult, hmem⟩
  rcases exists_right_of_mem hrels hmem with ⟨⟨name, value⟩, hentry, hname, metric, hsame, hvalue⟩
  cases hsame
  cases hname
  cases hvalue
  exact ⟨hnode, result, hresult, lookup_eq_some_of_mem hdistinct hmem,
    lookup_eq_some_of_mem (hkeys ▸ hdistinct) hentry⟩

end

/-!
# Reading levels
-/

theorem result_of_evaluateAll {now : Instant} {docs : List Document}
    {leaves : List (String × Aggregation)} {level : Level} {levels : List Level}
    {results : List (String × AggregateResult)}
    (h : evaluateAll now docs (Plan.nest leaves (level :: levels)) = .ok results) :
    exists result, results = [(level.name, result)]
      ∧ evaluate now level.name docs (.node (Request.Kinds.ofBucketing level.bucketing)
          (Store.innerSubs (Plan.nest leaves levels))) = .ok result := by
  have hall := Store.evaluateAll_eq_ok_iff.mp h
  rw [Plan.kept_nest_cons, Plan.nest_cons] at hall
  cases hall with
  | @cons _ found _ none hfound hnone =>
      cases hnone
      obtain ⟨name, result⟩ := found
      rcases hfound with ⟨hname, hresult⟩
      cases hname
      exact ⟨result, rfl, hresult⟩

theorem level_of_evaluateAll {now : Instant} {docs : List Document}
    {leaves : List (String × Aggregation)} {level : Level} {levels : List Level}
    {results : List (String × AggregateResult)}
    (h : evaluateAll now docs (Plan.nest leaves (level :: levels)) = .ok results) :
    exists buckets groups, results = [(level.name, .buckets groups)]
      ∧ formBuckets now level.bucketing docs = .ok buckets
      ∧ forall group, group ∈ groups -> group.1 ∈ buckets
          ∧ evaluateAll now group.1.docs (Plan.nest leaves levels) = .ok group.2 := by
  rcases result_of_evaluateAll h with ⟨result, hresults, hresult⟩
  rcases Store.groups_of_evaluate hresult with ⟨buckets, groups, hbuckets, rfl, hformed⟩
  exact ⟨buckets, groups, hresults, hbuckets, hformed⟩

/-- Names that stand inside buckets: those of the levels but the outermost, and those of
the measures. -/
def bucketNames : List String -> List String -> List String
  | [], _ => []
  | _ :: inner, measures => inner ++ measures

def headNames : List String :=
  ["key", "doc_count"]

def readGroup (name : String) (subs : List (String × Aggregation)) (bucket : Json) :
    Except Malformed (BucketHead × Row) := do
  let head <- readHead name bucket
  let row <- readRow bucket subs
  return (head, row)

theorem readGroup_groupJson {now : Instant} {bucketing : Request.Bucketing} {docs : List Document}
    {buckets : List Store.Bucket} (hbuckets : formBuckets now bucketing docs = .ok buckets)
    {group : Store.Group} (hbucket : group.1 ∈ buckets)
    (hown : forall key, key ∈ headNames -> key ∉ group.2.map Prod.fst) (name : String)
    {subs : List (String × Aggregation)} {row : Row}
    (hrow : readRow (groupJson group) subs = .ok row) :
    exists head, readGroup name subs (groupJson group) = .ok (head, row)
      ∧ head.key = group.1.key
      ∧ head.docCount = group.1.docs.length := by
  rcases Store.readHead_groupJson group (hown _ (by decide)) (hown _ (by decide))
    (Store.key_not_mem_extra hbuckets hbucket) name with ⟨head, hhead, hkey, hcount, _⟩
  refine ⟨head, ?_, hkey, hcount⟩
  rw [readGroup, hhead, ok_bind, hrow]
  rfl

theorem readValue_groups {name : String} {bucketing : Request.Bucketing}
    {subs : List (String × Aggregation)} {groups : List Store.Group}
    {rows : List (BucketHead × Row)}
    (h : groups.mapM (fun group => readGroup name subs (groupJson group)) = .ok rows) :
    readValue name (AggregateResult.buckets groups).json
      (.node (Kinds.ofBucketing bucketing) (Store.innerSubs subs)) = .ok (.buckets rows) := by
  have hlist : bucketList name (AggregateResult.buckets groups).json
      = .ok (groups.map groupJson) := by
    rw [AggregateResult.json, Store.groupsJson_eq_map]
    rfl
  rw [Store.readValue_ofBucketing, hlist, ok_bind, List.mapM_map]
  exact bind_eq_ok_iff.mpr ⟨rows, h, rfl⟩

section

variable {now : Instant} {leaves : List (String × Aggregation)} {measures : List Measure}
  {selector? : Option Request.Selector}
  (hperm : (fieldMap leaves).Perm (Store.leafNodes measures selector?))
  (hnames : ((fieldMap leaves).map Prod.fst).Nodup)

include hperm in
theorem names_evaluateAll_nest {levels : List Level} {docs : List Document}
    {results : List (String × AggregateResult)}
    (h : evaluateAll now docs (Plan.nest leaves levels) = .ok results) :
    results.map Prod.fst ⊆ levels.map Level.name ++ measures.map Measure.name := by
  cases levels with
  | nil => exact (names_results_perm hperm h).subset
  | cons level levels =>
      intro name hname
      have hlevel := (Store.evaluateAll_names h).subset hname
      rw [Plan.nest_cons, List.map_singleton, List.mem_singleton] at hlevel
      rw [hlevel]
      exact List.mem_append_left _ List.mem_cons_self

include hnames in
theorem nodup_names_nest (levels : List Level) :
    ((Plan.nest leaves levels).map Prod.fst).Nodup := by
  cases levels with
  | nil => exact hnames
  | cons level levels => exact List.nodup_singleton _

include hperm hnames

theorem mirrors_nest {levels : List Level} {docs : List Document}
    {results : List (String × AggregateResult)} {raw : Json}
    (h : evaluateAll now docs (Plan.nest leaves levels) = .ok results) (hraw : Holds raw results)
    (hfree : forall name,
      name ∈ bucketNames (levels.map Level.name) (measures.map Measure.name) ->
        name ∉ headNames) :
    exists row, readRow raw (Plan.nest leaves levels) = .ok row
      ∧ Mirrors now measures (levels.map Level.name) (Plan.nest leaves levels) docs
          results row := by
  -- The induction goes inwards, to the documents and the object of a bucket.
  induction levels generalizing docs results raw with
  | nil => exact mirrors_leaves hperm h hnames hraw
  | cons level levels ih =>
      have hinner : forall name,
          name ∈ bucketNames (levels.map Level.name) (measures.map Measure.name) ->
            name ∉ headNames := by
        intro name hname
        refine hfree name ?_
        cases levels with
        | nil => cases hname
        | cons next rest => exact List.mem_cons_of_mem _ hname
      rcases level_of_evaluateAll h with ⟨buckets, groups, rfl, hbuckets, hformed⟩
      have hread : forall group, group ∈ groups -> exists entry,
          readGroup level.name (Plan.nest leaves levels) (groupJson group) = .ok entry
          ∧ group.1 ∈ buckets
          ∧ entry.1.key = group.1.key
          ∧ entry.1.docCount = group.1.docs.length
          ∧ Mirrors now measures (levels.map Level.name) (Plan.nest leaves levels)
              group.1.docs group.2 entry.2 := by
        intro group hgroup
        rcases hformed group hgroup with ⟨hbucket, hevaluated⟩
        have hown : forall key, key ∈ headNames -> key ∉ group.2.map Prod.fst :=
          fun key hkey hmem => hfree key (names_evaluateAll_nest hperm hevaluated hmem) hkey
        have hdistinct : (group.2.map Prod.fst).Nodup :=
          (Store.evaluateAll_names hevaluated).nodup (nodup_names_nest hnames levels)
        rcases ih hevaluated
          (fun entry hentry => Store.field?_groupJson_result hdistinct hentry) hinner with
          ⟨row, hrow, hmirrors⟩
        rcases readGroup_groupJson hbuckets hbucket hown level.name hrow with
          ⟨head, hhead, hkey, hcount⟩
        exact ⟨(head, row), hhead, hbucket, hkey, hcount, hmirrors⟩
      rcases exists_mapM_of_forall hread with ⟨rows, hrows, hmirrors⟩
      refine ⟨[(level.name, .buckets rows)], ?_, _, level.bucketing, buckets, groups, rows,
        Plan.nest_cons leaves level levels, Store.bucketing?_ofBucketing level.bucketing,
        hbuckets, rfl, rfl, ?_⟩
      · rw [readRow_eq_ok_iff, Plan.kept_nest_cons, Plan.nest_cons]
        exact .cons ⟨rfl, _, hraw _ List.mem_cons_self, readValue_groups hrows⟩ .nil
      · rw [Store.subs_innerSubs]
        exact hmirrors

end

/-!
# Whole responses
-/

theorem read_hits {request : Request.Search} (haggs : request.body.aggs = none)
    (response : Store.Response) :
    read request response.json
      = .ok (.hits { total := response.total, sources := response.listed.map sourceOf }) := by
  have hhits : response.json.field? "hits"
      = some (Store.MetricResult.hitsJson response.total response.listed) := by
    unfold Store.Response.json
    cases response.aggregations with
    | none =>
        refine (field?_ofFields ?_ "hits").trans rfl
        show List.Nodup ["took", "timed_out", "hits"]
        decide
    | some results =>
        refine (field?_ofFields ?_ "hits").trans rfl
        show List.Nodup ["took", "timed_out", "hits", "aggregations"]
        decide
  have htotal : totalOf?
      ((Store.MetricResult.hitsJson response.total response.listed).field? "total")
        = some response.total := by
    rw [Store.field?_hitsJson]
    show ((fieldMap [("value", Json.ofNat response.total), ("relation", .str "eq")]).lookup
      "value").bind Json.toNat? = _
    rw [lookup_fieldMap (by show List.Nodup ["value", "relation"]; decide)]
    show (if 0 <= (response.total : Int) then some (response.total : Int).toNat else none) = _
    rw [if_pos (Int.natCast_nonneg _), Int.toNat_natCast]
  have hread : readHits response.json
      = .ok { total := response.total, sources := response.listed.map sourceOf } := by
    unfold readHits
    rw [hhits, orMalformed, ok_bind, htotal, Store.field?_hitsJson]
    rfl
  unfold read readWhole
  rw [haggs]
  dsimp only
  rw [hread]
  rfl

theorem aggregations_of_search {store : Store} {request : Request.Search}
    {aggs : List (String × Aggregation)} {response : Store.Response}
    (haggs : request.body.aggs = some aggs) (h : store.search request = .ok response) :
    exists indices results, store.resolveIndices request.index = .ok indices
      ∧ evaluateAll store.now (store.select indices request) aggs = .ok results
      ∧ response.aggregations = some results := by
  rcases bind_eq_ok_iff.mp h with ⟨indices, hindices, h⟩
  rcases bind_eq_ok_iff.mp h with ⟨aggregations, haggregations, heq⟩
  cases heq
  rw [haggs, Option.mapM_some] at haggregations
  rcases bind_eq_ok_iff.mp haggregations with ⟨results, hresults, heq⟩
  cases heq
  exact ⟨indices, results, hindices, hresults, rfl⟩

def innerNames (statement : Statement) : List String :=
  bucketNames (statement.groups.map Plan.termName)
    (statement.calls.map AggregateCall.displayName)

theorem mirrors_outline {options : Plan.Options} {statement : Statement}
    (outline : Outline options statement) {now : Instant} {docs : List Document}
    {results : List (String × AggregateResult)}
    (h : evaluateAll now docs (Plan.nest outline.leaves outline.levels) = .ok results)
    (hfree : forall name, name ∈ innerNames statement -> name ∉ headNames) :
    exists row, readRow (Json.ofFields (AggregateResult.entriesJson results))
        (Plan.nest outline.leaves outline.levels) = .ok row
      ∧ Mirrors now outline.measures (statement.groups.map Plan.termName)
          (Plan.nest outline.leaves outline.levels) docs results row := by
  rcases Store.exists_leafNodes_eq outline.selected with ⟨selector?, hleaves⟩
  have hnames := outline.isLeafMap.distinct
  have hperm : (fieldMap outline.leaves).Perm (Store.leafNodes outline.measures selector?) :=
    outline.perm_leaves.trans (.of_eq hleaves)
  have hraw : Holds (Json.ofFields (AggregateResult.entriesJson results)) results :=
    fun _ => Store.field?_entriesJson
      ((Store.evaluateAll_names h).nodup (nodup_names_nest hnames outline.levels))
  rw [<- outline.names_levels]
  refine mirrors_nest hperm hnames h hraw ?_
  rw [outline.names_levels, Plan.names_of_measures outline.measured]
  exact hfree

/-- Where no name inside buckets is that of their key or of their count, every response of
a store can be read, and the answer mirrors what the store found. -/
theorem read_search {options : Plan.Options} {text : String} {statement : Statement} {plan : Plan}
    {store : Store} {response : Store.Response} (hparse : Sql.parse text = .ok statement)
    (hplan : Plan.ofText options text = .ok plan)
    (hsearch : store.search plan.request = .ok response)
    (hfree : forall name, name ∈ innerNames statement -> name ∉ headNames) :
    exists answer, read plan.request response.json = .ok answer
      ∧ (statement.isAggregation = false ->
          answer = .hits { total := response.total, sources := response.listed.map sourceOf })
      ∧ (statement.isAggregation = true -> exists indices aggs measures results row,
          store.resolveIndices plan.request.index = .ok indices
            ∧ plan.request.body.aggs = some aggs
            ∧ Plan.measures statement.calls = .ok measures
            ∧ response.aggregations = some results
            ∧ answer = .aggregations row
            ∧ Mirrors store.now measures (statement.groups.map Plan.termName) aggs
                (store.select indices plan.request) results row) := by
  rw [Plan.ofText, hparse] at hplan
  cases haggregation : statement.isAggregation with
  | false =>
      have haggs := (Plan.plain_of_ofStatement hplan haggregation).right.left
      refine ⟨_, read_hits haggs response, fun _ => rfl, ?_⟩
      rintro ⟨⟩
  | true =>
      rcases Plan.exists_outline hplan haggregation with ⟨outline, rfl⟩
      rcases aggregations_of_search rfl hsearch with ⟨indices, results, hindices, hresults, hfound⟩
      rcases mirrors_outline outline hresults hfree with ⟨row, hrow, hmirrors⟩
      have hread : read outline.plan.request response.json = .ok (.aggregations row) := by
        rw [Store.read_aggregations rfl hfound, hrow]
        rfl
      refine ⟨_, hread, ?_, fun _ => ?_⟩
      · rintro ⟨⟩
      · exact ⟨indices, _, outline.measures, results, row, hindices, rfl, outline.measured, hfound,
          rfl, hmirrors⟩

theorem read_search_sharedTags :
    exists plan response answer, Plan.ofText {} Store.sharedTags.canonicalText = .ok plan
      ∧ Store.people.search plan.request = .ok response
      ∧ read plan.request response.json = .ok answer
      ∧ exists aggs measures docs results row, answer = .aggregations row
          ∧ Mirrors Store.people.now measures ["city", "tags"] aggs docs results row := by
  have hok : (Plan.ofStatement {} Store.sharedTags).isOk = true := by decide +kernel
  have hplain : forall call, call ∈ Store.sharedTags.calls ->
      Plan.percentileField? call = none := by
    decide +kernel
  cases hstatement : Plan.ofStatement {} Store.sharedTags with
  | error e =>
      rw [hstatement] at hok
      cases hok
  | ok plan =>
      have hplan : Plan.ofText {} Store.sharedTags.canonicalText = .ok plan := by
        rw [Plan.ofText, Store.parse_sharedTags]
        exact hstatement
      rcases Plan.ofStatement_grouped hstatement Store.groupsBy_sharedTags with
        ⟨measures, nodes, hcheck, hmeasures, hnodes, rfl⟩
      have hsound := Sql.isSound_parse _ Store.parse_sharedTags
      have hcomputable : forall measure, measure ∈ measures -> Store.Computable
          (Store.selectedDocs Store.people ["people"] Store.sharedTags) measure.kind.toMetric := by
        intro measure hmeasure
        rcases exists_of_mem_mapM hmeasures hmeasure with ⟨call, hcall, hmade⟩
        refine Plan.computable_of_measure hmade (fun field hfield => ?_)
        cases (hplain call hcall).symm.trans hfield
      have hfits : Store.Fits 10000 ["city", "tags"]
          (Store.selectedDocs Store.people ["people"] Store.sharedTags) := by decide +kernel
      rcases Store.tabulated_groupedPlan hsound hcheck hmeasures hnodes (List.cons_ne_nil _ _)
        (by decide +kernel) hcomputable hfits Store.people.now with ⟨results, _, hevaluated, _⟩
      rw [<- Store.select_groupedPlan hsound] at hevaluated
      rcases Store.search_of_evaluateAll hevaluated rfl Store.resolveIndices_people with
        ⟨response, hsearch, _⟩
      rcases read_search Store.parse_sharedTags hplan hsearch (by decide +kernel) with
        ⟨answer, hread, _, hmirrors⟩
      rcases hmirrors (by decide) with
        ⟨indices, aggs, measures, results, row, _, _, _, _, hanswer, hmirrors⟩
      exact ⟨_, response, answer, hplan, hsearch, hread, aggs, measures, _, results, row, hanswer,
        hmirrors⟩

/-!
# Hidden counts
-/

theorem toNat?_json (result : AggregateResult) : result.json.toNat? = none := by
  cases result with
  | metric result => rw [AggregateResult.json]; cases result <;> rfl
  | buckets groups => rw [AggregateResult.json]; rfl

theorem readHead_hidden {group : Store.Group} (hnames : (group.2.map Prod.fst).Nodup)
    (hkey : "key" ∉ group.2.map Prod.fst) (hextra : "key" ∉ group.1.extra.map Prod.fst)
    (hhidden : "doc_count" ∈ group.2.map Prod.fst) (name : String) :
    readHead name (groupJson group) = .error (.noDocCount name) := by
  rcases List.mem_map.mp hhidden with ⟨entry, hentry, hname⟩
  have hcount := Store.field?_groupJson_result hnames hentry
  rw [hname] at hcount
  unfold readHead
  rw [Store.field?_groupJson_key hkey hextra, hcount, Option.bind_some, toNat?_json]
  rfl

theorem readRow_hidden {raw : Json} {name : String} {bucketing : Request.Bucketing}
    {subs : List (String × Aggregation)} {group : Store.Group} {groups : List Store.Group}
    (hraw : raw.field? name = some (AggregateResult.buckets (group :: groups)).json)
    (h : readHead name (groupJson group) = .error (.noDocCount name)) :
    readRow raw [(name, .node (Kinds.ofBucketing bucketing) (Store.innerSubs subs))]
      = .error (.noDocCount name) := by
  have hlist : bucketList name (AggregateResult.buckets (group :: groups)).json
      = .ok (groupJson group :: groups.map groupJson) := by
    rw [AggregateResult.json, Store.groupsJson_eq_map]
    rfl
  rw [readRow, Aggregation.kinds, Store.selector_ofBucketing, hraw]
  show (readValue name _ (.node _ _) >>= _) = _
  rw [Store.readValue_ofBucketing, hlist, ok_bind, List.mapM_cons, h]
  rfl

theorem read_hidden {options : Plan.Options} {statement : Statement} {plan : Plan} {store : Store}
    {response : Store.Response} {term : Sql.GroupTerm} {name : String} {group : Store.Group}
    {groups : List Store.Group} (hplan : Plan.ofStatement options statement = .ok plan)
    (hsearch : store.search plan.request = .ok response) (hgroups : statement.groups = [term])
    (hhidden : "doc_count" ∈ statement.calls.map AggregateCall.displayName)
    (hkey : "key" ∉ statement.calls.map AggregateCall.displayName)
    (hfound : response.aggregations = some [(name, .buckets (group :: groups))]) :
    read plan.request response.json
      = .error (.backend (.malformed (.noDocCount (Plan.termName term)))) := by
  have haggregation : statement.isAggregation = true := by
    unfold Statement.isAggregation
    rw [hgroups]
    rfl
  rcases Plan.exists_outline hplan haggregation with ⟨outline, rfl⟩
  rcases aggregations_of_search rfl hsearch with ⟨indices, results, _, hresults, hsame⟩
  cases hfound.symm.trans hsame
  have hlevels := outline.names_levels
  rw [hgroups, List.map_singleton] at hlevels
  rcases List.map_eq_singleton_iff.mp hlevels with ⟨level, hlevel, hname⟩
  rw [hlevel] at hresults
  rcases level_of_evaluateAll hresults with ⟨buckets, _, heq, hbuckets, hformed⟩
  cases heq
  rcases hformed group List.mem_cons_self with ⟨hbucket, hevaluated⟩
  rcases Store.exists_leafNodes_eq outline.selected with ⟨selector?, hleaves⟩
  have hdistinct := outline.isLeafMap.distinct
  have hinner : (group.2.map Prod.fst).Perm (statement.calls.map AggregateCall.displayName) := by
    rw [<- Plan.names_of_measures outline.measured]
    exact names_results_perm (outline.perm_leaves.trans (.of_eq hleaves)) hevaluated
  have hhead : readHead level.name (groupJson group) = .error (.noDocCount level.name) :=
    readHead_hidden ((Store.evaluateAll_names hevaluated).nodup hdistinct)
      (fun hmem => hkey (hinner.mem_iff.mp hmem)) (Store.key_not_mem_extra hbuckets hbucket)
      (hinner.mem_iff.mpr hhidden) level.name
  have hraw : (Json.ofFields (AggregateResult.entriesJson
      [(level.name, .buckets (group :: groups))])).field? level.name
        = some (AggregateResult.buckets (group :: groups)).json := by
    have hmem := List.mem_singleton_self (level.name, AggregateResult.buckets (group :: groups))
    refine Store.field?_entriesJson ?_ hmem
    exact List.nodup_singleton level.name
  rw [Store.read_aggregations rfl hfound, hlevel, Plan.nest_cons, readRow_hidden hraw hhead, hname]
  rfl

/-- The people of each city, in a column that has the name of a bucket's count. -/
def countedCities : Statement :=
  { source := { index := "people", docType := none }
    select :=
      [ .aggregate
          { function := "COUNT"
            argument := some .star
            distinct := false
            parameters := []
            positional := []
            label := some "doc_count" } ]
    filter := none
    groups := [.plain "city"]
    having := none
    order := []
    limit := none }

theorem wellFormed_countedCities : countedCities.WellFormed where
  select_ne_nil := by decide
  select := by
    unfold countedCities
    rw [List.forall_mem_singleton]
    exact Store.wellFormed_countAll "doc_count"
  source := ⟨by decide, fun _ hdocType => by cases hdocType⟩
  filter := fun _ hcondition => by cases hcondition
  groups := by
    unfold countedCities
    rw [List.forall_mem_singleton]
    exact Store.isName_city
  having := fun _ hcondition => by cases hcondition
  order := fun _ hitem => by cases hitem
  limit := fun _ hn => by cases hn

theorem evaluateAll_countedCities :
    exists group groups, evaluateAll Store.people.now Store.people.docs
        [Store.termsNode "city" 10000
          [Plan.measureNode { name := "doc_count", kind := .docCount }]]
      = .ok [("city", .buckets (group :: groups))] := by
  have hleaf : forall leaf,
      leaf ∈ [Plan.measureNode { name := "doc_count", kind := .docCount }] ->
        Store.IsLeaf leaf.2 ∧ leaf.2.kinds.selector = none := by
    intro leaf hleaf
    rw [List.mem_singleton.mp hleaf]
    exact ⟨.metric _, rfl⟩
  have hcomputable : forall docs : List Document, forall leaf,
      leaf ∈ [Plan.measureNode { name := "doc_count", kind := .docCount }] -> forall metric,
        leaf.2.kinds.metric? = some metric -> Store.Computable docs metric := by
    intro docs leaf hleaf metric hmetric
    rw [List.mem_singleton.mp hleaf] at hmetric
    cases hmetric
    trivial
  have hresults : forall entry,
      entry ∈ Store.distinctValues [] (Store.allValues Store.people.docs "city") ->
        evaluateAll Store.people.now (Store.docsWith Store.people.docs "city" entry.1)
          [Plan.measureNode { name := "doc_count", kind := .docCount }] = .ok _ :=
    fun entry _ => Store.evaluateAll_leaves (fun leaf h => (hleaf leaf h).left) (hcomputable _)
  have hsize : Store.distinctCount Store.people.docs "city" <= 10000 := by decide +kernel
  rcases Store.evaluate_termsNode hresults hsize (Store.selectsBy_of_no_selector
    (fun leaf h => (hleaf leaf h).right) Store.people.now) with ⟨kept, hkept, hevaluated⟩
  cases kept with
  | nil => exact absurd hkept.length_eq (by decide +kernel)
  | cons entry rest =>
      exact ⟨_, _, Store.evaluateAll_eq_ok_iff.mpr (.cons ⟨rfl, hevaluated⟩ .nil)⟩

/-- The count of the column takes the place of the count of the bucket, which cannot be
read any more. -/
theorem read_search_countedCities :
    exists plan response, Plan.ofText {} countedCities.canonicalText = .ok plan
      ∧ Store.people.search plan.request = .ok response
      ∧ read plan.request response.json = .error (.backend (.malformed (.noDocCount "city"))) := by
  have hok : (Plan.ofStatement {} countedCities).isOk = true := by decide +kernel
  have hcounts : Plan.measures countedCities.calls
      = .ok [{ name := "doc_count", kind := .docCount }] := by decide +kernel
  have hparse : Sql.parse countedCities.canonicalText = .ok countedCities :=
    Sql.parse_of_spells wellFormed_countedCities (Sql.spells_canonicalText wellFormed_countedCities)
  cases hstatement : Plan.ofStatement {} countedCities with
  | error e =>
      rw [hstatement] at hok
      cases hok
  | ok plan =>
      have hplan : Plan.ofText {} countedCities.canonicalText = .ok plan := by
        rw [Plan.ofText, hparse]
        exact hstatement
      have hgroups : Plan.GroupsBy countedCities ["city"] := ⟨rfl, by decide, rfl, rfl⟩
      rcases Plan.ofStatement_grouped hstatement hgroups with
        ⟨measures, nodes, _, hmeasures, hnodes, rfl⟩
      cases hcounts.symm.trans hmeasures
      cases hnodes
      rcases evaluateAll_countedCities with ⟨group, groups, hevaluated⟩
      have hdocs : Store.people.select ["people"]
          (Plan.groupedPlan 10000 countedCities ["city"]
            [{ name := "doc_count", kind := .docCount }] []).request = Store.people.docs :=
        List.filter_eq_self.mpr (by decide +kernel)
      rw [<- hdocs] at hevaluated
      rcases Store.search_of_evaluateAll hevaluated rfl Store.resolveIndices_people with
        ⟨response, hsearch, hfound⟩
      exact ⟨_, response, hplan, hsearch,
        read_hidden hstatement hsearch rfl (by decide +kernel) (by decide +kernel) hfound⟩

end Answer
end Rollup
