import Mathlib.Data.List.Perm.Basic
import Rollup.Client
import Rollup.Proofs.FieldMap
import Rollup.Proofs.Grouping.Partition
import Rollup.Proofs.Outcome

/-!
# Rows of a level of buckets

A level divides documents by the values of a field. Its result is written as JSON, read
back and laid out in rows: those that the level inside has for each value, one value
after the other.
-/

namespace Rollup
namespace Store

open Calendar (Instant)
open Request (Aggregation Bucketing Kinds)
open Answer (BucketHead Row)
open Plan (Column)

def termLabel : Json -> Json
  | .bool true => .str "true"
  | .bool false => .str "false"
  | .float x => Answer.numberCell x
  | value => value

def bucketEntryNames : List String :=
  ["key", "key_as_string", "doc_count"]

/-!
# Results as JSON
-/

theorem entriesJson_eq_map (results : List (String × AggregateResult)) :
    AggregateResult.entriesJson results = results.map (fun entry => (entry.1, entry.2.json)) := by
  induction results with
  | nil => rw [AggregateResult.entriesJson, List.map_nil]
  | cons entry rest ih => rw [AggregateResult.entriesJson, List.map_cons, ih]

theorem field?_entriesJson {results : List (String × AggregateResult)}
    (h : (results.map Prod.fst).Nodup) {entry : String × AggregateResult}
    (hentry : entry ∈ results) :
    (Json.ofFields (AggregateResult.entriesJson results)).field? entry.1 = some entry.2.json := by
  have hkeys : ((AggregateResult.entriesJson results).map Prod.fst).Nodup := by
    rw [entriesJson_eq_map, List.map_map]
    exact h
  rw [field?_ofFields hkeys]
  refine lookup_eq_some_of_mem hkeys ?_
  rw [entriesJson_eq_map]
  exact List.mem_map.mpr ⟨entry, hentry, rfl⟩

def Bucket.entries (bucket : Bucket) : List (String × Json) :=
  [("key", bucket.key)] ++ bucket.extra ++ [("doc_count", .ofNat bucket.docs.length)]

def groupJson (group : Group) : Json :=
  Json.ofFields (group.1.entries ++ AggregateResult.entriesJson group.2)

theorem groupsJson_eq_map (groups : List Group) :
    AggregateResult.groupsJson groups = groups.map groupJson := by
  induction groups with
  | nil => rw [AggregateResult.groupsJson, List.map_nil]
  | cons group rest ih =>
      rw [AggregateResult.groupsJson, List.map_cons, ih]
      rfl

theorem field?_groupJson_result {group : Group} (h : (group.2.map Prod.fst).Nodup)
    {entry : String × AggregateResult} (hentry : entry ∈ group.2) :
    (groupJson group).field? entry.1 = some entry.2.json := by
  have hkeys : ((AggregateResult.entriesJson group.2).reverse.map Prod.fst).Nodup := by
    rw [entriesJson_eq_map, List.map_reverse, List.map_map, List.nodup_reverse]
    exact h
  have hmem : (entry.1, entry.2.json) ∈ (AggregateResult.entriesJson group.2).reverse := by
    rw [entriesJson_eq_map, List.mem_reverse]
    exact List.mem_map.mpr ⟨entry, hentry, rfl⟩
  show (fieldMap _).lookup entry.1 = _
  rw [lookup_fieldMap_reverse, List.reverse_append, List.lookup_append,
    lookup_eq_some_of_mem hkeys hmem]
  rfl

theorem field?_groupJson_own {group : Group} {key : String} (h : key ∉ group.2.map Prod.fst) :
    (groupJson group).field? key = group.1.entries.reverse.lookup key := by
  have hnone : (AggregateResult.entriesJson group.2).reverse.lookup key = none := by
    refine lookup_eq_none_of_not_mem ?_
    rw [entriesJson_eq_map, List.map_reverse, List.map_map, List.mem_reverse]
    exact h
  show (fieldMap _).lookup key = _
  rw [lookup_fieldMap_reverse, List.reverse_append, List.lookup_append, hnone, Option.none_or]

theorem field?_groupJson_docCount {group : Group} (h : "doc_count" ∉ group.2.map Prod.fst) :
    (groupJson group).field? "doc_count" = some (.ofNat group.1.docs.length) := by
  rw [field?_groupJson_own h, Bucket.entries, List.reverse_append]
  rfl

theorem field?_groupJson_key {group : Group} (h : "key" ∉ group.2.map Prod.fst)
    (hextra : "key" ∉ group.1.extra.map Prod.fst) :
    (groupJson group).field? "key" = some group.1.key := by
  have hnone : group.1.extra.reverse.lookup "key" = none := by
    refine lookup_eq_none_of_not_mem ?_
    rw [List.map_reverse, List.mem_reverse]
    exact hextra
  rw [field?_groupJson_own h, Bucket.entries, List.reverse_append, List.reverse_append,
    List.lookup_append, List.lookup_append, hnone]
  rfl

/-- The head of a bucket is read back, unless a result inside has the name of its key or of
its count. -/
theorem readHead_groupJson (group : Group) (hkey : "key" ∉ group.2.map Prod.fst)
    (hcount : "doc_count" ∉ group.2.map Prod.fst)
    (hextra : "key" ∉ group.1.extra.map Prod.fst) (name : String) :
    exists head, Answer.readHead name (groupJson group) = .ok head
      ∧ head.key = group.1.key
      ∧ head.docCount = group.1.docs.length
      ∧ head.keyText = ((groupJson group).field? "key_as_string").bind Json.toString? := by
  unfold Answer.readHead
  rw [field?_groupJson_key hkey hextra, field?_groupJson_docCount hcount]
  exact ⟨_, rfl, rfl, rfl, rfl⟩

/-!
# Term buckets
-/

@[simp] theorem docs_termBucket (value : Json) (docs : List Document) :
    (termBucket value docs).docs = docs := by
  unfold termBucket
  split <;> rfl

theorem key_not_mem_extra_termBucket (value : Json) (docs : List Document) :
    "key" ∉ (termBucket value docs).extra.map Prod.fst := by
  unfold termBucket
  split <;> simp

/-- The names are none of a bucket's own, and each stands there once. -/
def NamesApart (names : List String) : Prop :=
  names.Nodup ∧ forall name, name ∈ names -> name ∉ bucketEntryNames

theorem readHead_termGroup {value : Json} {docs : List Document}
    {results : List (String × AggregateResult)} (h : NamesApart (results.map Prod.fst))
    (name : String) :
    exists head, Answer.readHead name (groupJson (termBucket value docs, results)) = .ok head
      ∧ head.label = termLabel value := by
  have hfree : forall key, key ∈ bucketEntryNames -> key ∉ results.map Prod.fst :=
    fun key hkey hmem => h.right key hmem hkey
  rcases readHead_groupJson (termBucket value docs, results) (hfree _ (by decide))
    (hfree _ (by decide)) (key_not_mem_extra_termBucket value docs) name with
    ⟨head, hhead, hkey, _, htext⟩
  rw [field?_groupJson_own (hfree _ (by decide))] at htext
  refine ⟨head, hhead, ?_⟩
  unfold BucketHead.label
  rw [hkey, htext]
  cases value with
  | bool truth => cases truth <;> rfl
  | _ => rfl

/-!
# Buckets in order
-/

def innerSubs (subs : List (String × Aggregation)) : Option (List (String × Aggregation)) :=
  match subs with
  | [] => none
  | inner => some inner

def termsNode (field : String) (size : Nat) (subs : List (String × Aggregation)) :
    String × Aggregation :=
  (field, .node (Kinds.ofBucketing (.terms { field := field, size := some size })) (innerSubs subs))

theorem orderGroups_terms {alpha : Type} (groupOf : alpha -> Group) (field : String) (size : Nat)
    (subs : List (String × Aggregation)) (entries : List alpha) :
    exists sorted : List alpha, sorted.Perm entries
      ∧ orderGroups (.terms { field := field, size := some size }) subs (entries.map groupOf)
        = .ok (sorted.map groupOf) := by
  refine ⟨entries.mergeSort (fun a b =>
    compareGroups defaultTermOrder.flatten (groupOf a) (groupOf b) != .gt),
    List.mergeSort_perm _ _, ?_⟩
  have hsort : (entries.mergeSort (fun a b =>
        compareGroups defaultTermOrder.flatten (groupOf a) (groupOf b) != .gt)).map groupOf
      = (entries.map groupOf).mergeSort (fun a b =>
        compareGroups defaultTermOrder.flatten a b != .gt) :=
    List.map_mergeSort (fun _ _ _ _ => rfl)
  rw [hsort]
  rfl

theorem evaluateAll_eq_ok_iff {now : Instant} {docs : List Document}
    {subs : List (String × Aggregation)} {results : List (String × AggregateResult)} :
    evaluateAll now docs subs = .ok results
      <-> List.Forall₂ (fun sub result => result.1 = sub.1
            ∧ evaluate now sub.1 docs sub.2 = .ok result.2)
          (subs.filter (fun sub => sub.2.kinds.selector.isNone)) results := by
  induction subs generalizing results with
  | nil =>
      rw [evaluateAll, List.filter_nil, List.forall₂_nil_left_iff]
      exact ⟨fun h => by cases h; rfl, fun h => by rw [h]⟩
  | cons sub rest ih =>
      obtain ⟨name, node⟩ := sub
      rw [evaluateAll]
      cases hselector : node.kinds.selector with
      | some selector =>
          rw [List.filter_cons_of_neg (by simp [hselector]), <- ih]
          rfl
      | none =>
          rw [List.filter_cons_of_pos (by simp [hselector])]
          constructor
          · intro h
            rcases bind_eq_ok_iff.mp h with ⟨result, hresult, h⟩
            rcases bind_eq_ok_iff.mp h with ⟨others, hothers, heq⟩
            cases heq
            exact .cons ⟨rfl, hresult⟩ (ih.mp hothers)
          · intro h
            cases h with
            | @cons _ result _ others hresult hothers =>
                obtain ⟨found, value⟩ := result
                rcases hresult with ⟨hname, hvalue⟩
                cases hname
                rw [hvalue, ih.mpr hothers]
                rfl

theorem evaluateAll_names {now : Instant} {docs : List Document}
    {subs : List (String × Aggregation)} {results : List (String × AggregateResult)}
    (h : evaluateAll now docs subs = .ok results) :
    (results.map Prod.fst).Sublist (subs.map Prod.fst) := by
  rw [keys_eq_of_forall₂ (evaluateAll_eq_ok_iff.mp h) (fun _ _ hrel => hrel.left)]
  exact List.filter_sublist.map Prod.fst

/-!
# Rows
-/

/-- Evaluated over the documents, written and read back, the aggregations have these rows
behind the labels, up to their order. -/
def Tabulated (now : Instant) (columns : List Column) (labels : List Json)
    (subs : List (String × Aggregation)) (docs : List Document) (rows : List (List Json)) : Prop :=
  exists results row,
    evaluateAll now docs subs = .ok results
      ∧ (forall raw : Json,
          (forall entry, entry ∈ results -> raw.field? entry.1 = some entry.2.json) ->
            Answer.readRow raw subs = .ok row)
      ∧ ((Answer.innerRows? columns labels row).getD
          [Answer.leafCells columns labels row]).Perm rows

theorem bucketTableRows_eq_flatMap (columns : List Column) (labels : List Json)
    (rows : List (BucketHead × Row)) :
    Answer.bucketTableRows columns labels rows
      = rows.flatMap (fun entry =>
          (Answer.innerRows? columns (labels ++ [entry.1.label]) entry.2).getD
            [Answer.leafCells columns (labels ++ [entry.1.label]) entry.2]) := by
  induction rows with
  | nil => rw [Answer.bucketTableRows, List.flatMap_nil]
  | cons entry rest ih =>
      obtain ⟨head, row⟩ := entry
      rw [Answer.bucketTableRows, List.flatMap_cons, ih]
      cases Answer.innerRows? columns (labels ++ [head.label]) row <;> rfl

theorem flatMap_filter {alpha beta : Type} (p : alpha -> Bool) (f : alpha -> List beta)
    (xs : List alpha) :
    (xs.filter p).flatMap f = xs.flatMap (fun x => if p x then f x else []) := by
  induction xs with
  | nil => rfl
  | cons x xs ih =>
      rw [List.flatMap_cons]
      by_cases hx : p x
      · rw [List.filter_cons_of_pos hx, List.flatMap_cons, ih, if_pos hx]
      · rw [List.filter_cons_of_neg hx, ih, if_neg hx, List.nil_append]

/-!
# One level
-/

/-- The selectors among the aggregations keep the groups whose documents are to be kept. -/
def SelectsBy (now : Instant) (subs : List (String × Aggregation)) (keep : List Document -> Bool) :
    Prop :=
  forall groups : List Group,
    (forall group, group ∈ groups -> evaluateAll now group.1.docs subs = .ok group.2) ->
      selectGroups subs groups = .ok (groups.filter (fun group => keep group.1.docs))

def termGroup (docs : List Document) (field : String)
    (results : String × Json -> List (String × AggregateResult)) (entry : String × Json) : Group :=
  (termBucket entry.2 (docsWith docs field entry.1), results entry)

theorem bucketing?_ofBucketing (bucketing : Bucketing) :
    (Kinds.ofBucketing bucketing).bucketing? = some bucketing := by
  cases bucketing <;> rfl

theorem selector_ofBucketing (bucketing : Bucketing) :
    (Kinds.ofBucketing bucketing).selector = none := by
  cases bucketing <;> rfl

theorem evaluate_of_bucketing? {aggregation : Aggregation} {bucketing : Bucketing}
    (h : aggregation.kinds.bucketing? = some bucketing) (now : Instant) (name : String)
    (docs : List Document) :
    evaluate now name docs aggregation = (do
      let buckets <- formBuckets now bucketing docs
      let groups <- buckets.mapM (fun bucket => do
        let found <- evaluateAll now bucket.docs aggregation.subs
        return (bucket, found))
      let ordered <- orderGroups bucketing aggregation.subs groups
      let selected <- selectGroups aggregation.subs (cutGroups bucketing ordered)
      return .buckets selected) := by
  obtain ⟨kinds, subs?⟩ := aggregation
  change kinds.bucketing? = some bucketing at h
  cases subs? with
  | none =>
      have hgroups : forall buckets : List Bucket, buckets.mapM (fun bucket => do
            let found <- evaluateAll now bucket.docs []
            return (bucket, found))
          = (.ok (buckets.map (fun bucket => (bucket, [])))
            : Except BackendError (List Group)) := by
        intro buckets
        simp only [evaluateAll, ok_bind]
        exact List.mapM_pure
      simp only [Aggregation.subs, hgroups]
      rw [evaluate, h]
      rfl
  | some subs =>
      rw [evaluate, h]
      rfl

theorem evaluate_of_metric? {node : Aggregation} {metric : Request.Metric}
    (hbucketing : node.kinds.bucketing? = none) (hmetric : node.kinds.metric? = some metric)
    (now : Instant) (name : String) (docs : List Document) :
    evaluate now name docs node = (do return .metric (<- evaluateMetric metric docs)) := by
  obtain ⟨kinds, subs?⟩ := node
  change kinds.bucketing? = none at hbucketing
  change kinds.metric? = some metric at hmetric
  cases subs? <;> rw [evaluate, hbucketing, hmetric]

theorem evaluate_untyped {node : Aggregation} (hbucketing : node.kinds.bucketing? = none)
    (hmetric : node.kinds.metric? = none) (now : Instant) (name : String) (docs : List Document) :
    evaluate now name docs node = .error (.rejected (.untyped name)) := by
  obtain ⟨kinds, subs?⟩ := node
  change kinds.bucketing? = none at hbucketing
  change kinds.metric? = none at hmetric
  cases subs? <;> rw [evaluate, hbucketing, hmetric]

theorem subs_innerSubs (kinds : Kinds) (subs : List (String × Aggregation)) :
    (Aggregation.node kinds (innerSubs subs)).subs = subs := by
  cases subs <;> rfl

theorem evaluate_ofBucketing (now : Instant) (name : String) (docs : List Document)
    (bucketing : Bucketing) (subs : List (String × Aggregation)) :
    evaluate now name docs (.node (Kinds.ofBucketing bucketing) (innerSubs subs)) = (do
      let buckets <- formBuckets now bucketing docs
      let groups <- buckets.mapM (fun bucket => do
        let found <- evaluateAll now bucket.docs subs
        return (bucket, found))
      let ordered <- orderGroups bucketing subs groups
      let selected <- selectGroups subs (cutGroups bucketing ordered)
      return .buckets selected) := by
  have hkinds : (Aggregation.node (Kinds.ofBucketing bucketing) (innerSubs subs)).kinds.bucketing?
      = some bucketing := bucketing?_ofBucketing bucketing
  rw [evaluate_of_bucketing? hkinds, subs_innerSubs]

theorem readValue_ofBucketing (name : String) (raw : Json) (bucketing : Bucketing)
    (subs : List (String × Aggregation)) :
    Answer.readValue name raw (.node (Kinds.ofBucketing bucketing) (innerSubs subs)) = (do
      let buckets <- Answer.bucketList name raw
      let rows <- buckets.mapM (fun bucket => do
        let head <- Answer.readHead name bucket
        let row <- Answer.readRow bucket subs
        return (head, row))
      return .buckets rows) := by
  cases subs with
  | nil =>
      simp only [Answer.readRow, ok_bind]
      show Answer.readValue name raw (.node _ none) = _
      rw [Answer.readValue, bucketing?_ofBucketing]
      rfl
  | cons sub rest =>
      show Answer.readValue name raw (.node _ (some (sub :: rest))) = _
      rw [Answer.readValue, bucketing?_ofBucketing]
      rfl

section

variable {now : Instant} {docs : List Document} {field : String} {size : Nat}
  {subs : List (String × Aggregation)} {keep : List Document -> Bool}
  {results : String × Json -> List (String × AggregateResult)}
  (hresults : forall entry, entry ∈ distinctValues [] (allValues docs field) ->
    evaluateAll now (docsWith docs field entry.1) subs = .ok (results entry))

include hresults

theorem evaluate_termsNode (hsize : distinctCount docs field <= size)
    (hselect : SelectsBy now subs keep) :
    exists kept : List (String × Json),
      kept.Perm ((distinctValues [] (allValues docs field)).filter
        (fun entry => keep (docsWith docs field entry.1)))
      ∧ evaluate now field docs (termsNode field size subs).2
        = .ok (.buckets (kept.map (termGroup docs field results))) := by
  have hgroups : (termBuckets { field := field, size := some size } docs).mapM (fun bucket => do
        let found <- evaluateAll now bucket.docs subs
        return (bucket, found))
      = .ok ((distinctValues [] (allValues docs field)).map (termGroup docs field results)) := by
    rw [termBuckets_eq]
    refine mapM_map_eq_ok (fun entry hentry => ?_)
    rw [docs_termBucket, hresults entry hentry]
    rfl
  rcases orderGroups_terms (termGroup docs field results) field size subs
    (distinctValues [] (allValues docs field)) with ⟨sorted, hperm, hsorted⟩
  have hcut : cutGroups (.terms { field := field, size := some size })
      (sorted.map (termGroup docs field results)) = sorted.map (termGroup docs field results) := by
    refine List.take_of_length_le ?_
    rw [List.length_map, hperm.length_eq, length_distinctValues]
    exact hsize
  have hselected : selectGroups subs (sorted.map (termGroup docs field results))
      = .ok ((sorted.filter (fun entry => keep (docsWith docs field entry.1))).map
          (termGroup docs field results)) := by
    have hfilter : sorted.filter
          ((fun group : Group => keep group.1.docs) ∘ termGroup docs field results)
        = sorted.filter (fun entry => keep (docsWith docs field entry.1)) :=
      List.filter_congr (fun entry _ => congrArg keep (docs_termBucket _ _))
    rw [hselect, List.filter_map, hfilter]
    · intro group hgroup
      rcases List.mem_map.mp hgroup with ⟨entry, hentry, rfl⟩
      rw [termGroup, docs_termBucket]
      exact hresults entry (hperm.mem_iff.mp hentry)
  refine ⟨sorted.filter (fun entry => keep (docsWith docs field entry.1)), hperm.filter _, ?_⟩
  have hformed : formBuckets now (.terms { field := field, size := some size }) docs
      = .ok (termBuckets { field := field, size := some size } docs) := rfl
  rw [termsNode, evaluate_ofBucketing, hformed, ok_bind, hgroups, ok_bind, hsorted, ok_bind, hcut,
    hselected]
  rfl

theorem readValue_termsNode (size : Nat) (hnames : NamesApart (subs.map Prod.fst))
    {row : String × Json -> Row}
    (hread : forall entry, entry ∈ distinctValues [] (allValues docs field) -> forall raw : Json,
      (forall result, result ∈ results entry -> raw.field? result.1 = some result.2.json) ->
        Answer.readRow raw subs = .ok (row entry))
    {kept : List (String × Json)}
    (hkept : forall entry, entry ∈ kept -> entry ∈ distinctValues [] (allValues docs field)) :
    exists head : String × Json -> BucketHead,
      (forall entry, entry ∈ kept -> (head entry).label = termLabel entry.2)
      ∧ Answer.readValue field
          (AggregateResult.buckets (kept.map (termGroup docs field results))).json
          (termsNode field size subs).2
        = .ok (.buckets (kept.map (fun entry => (head entry, row entry)))) := by
  have hapart : forall entry, entry ∈ kept -> NamesApart ((results entry).map Prod.fst) := by
    intro entry hentry
    have hsublist := evaluateAll_names (hresults entry (hkept entry hentry))
    exact ⟨hsublist.nodup hnames.left, fun name hname => hnames.right name (hsublist.subset hname)⟩
  have hheads : forall entry : String × Json, exists head : BucketHead, entry ∈ kept ->
      Answer.readHead field (groupJson (termGroup docs field results entry)) = .ok head
        ∧ head.label = termLabel entry.2 := by
    intro entry
    by_cases hentry : entry ∈ kept
    · rcases readHead_termGroup (hapart entry hentry) field with ⟨head, hhead⟩
      exact ⟨head, fun _ => hhead⟩
    · exact ⟨⟨.null, none, 0, none, none⟩, fun h => absurd h hentry⟩
  choose head hhead using hheads
  refine ⟨head, fun entry hentry => (hhead entry hentry).right, ?_⟩
  have hlist : Answer.bucketList field
      (AggregateResult.buckets (kept.map (termGroup docs field results))).json
        = .ok (kept.map (groupJson ∘ termGroup docs field results)) := by
    rw [<- List.map_map, <- groupsJson_eq_map, AggregateResult.json]
    rfl
  rw [termsNode, readValue_ofBucketing, hlist, ok_bind, mapM_map_eq_ok]
  · rfl
  · intro entry hentry
    rw [Function.comp_apply, (hhead entry hentry).left, ok_bind, hread entry (hkept entry hentry)]
    · rfl
    · exact fun result hresult => field?_groupJson_result (hapart entry hentry).left hresult

end

theorem Tabulated.level {now : Instant} {columns : List Column} {labels : List Json}
    {docs : List Document} {field : String} {size : Nat} {subs : List (String × Aggregation)}
    {keep : List Document -> Bool} {rows : String × Json -> List (List Json)}
    (hsize : distinctCount docs field <= size) (hnames : NamesApart (subs.map Prod.fst))
    (hselect : SelectsBy now subs keep)
    (hinner : forall entry, entry ∈ distinctValues [] (allValues docs field) ->
      Tabulated now columns (labels ++ [termLabel entry.2]) subs (docsWith docs field entry.1)
        (rows entry)) :
    Tabulated now columns labels [termsNode field size subs] docs
      ((distinctValues [] (allValues docs field)).flatMap (fun entry =>
        if keep (docsWith docs field entry.1) then rows entry else [])) := by
  unfold Tabulated at hinner
  choose! results row hresults hread hrows using hinner
  rcases evaluate_termsNode hresults hsize hselect with ⟨kept, hkept, heval⟩
  have hmem : forall entry, entry ∈ kept -> entry ∈ distinctValues [] (allValues docs field) :=
    fun entry hentry => (List.mem_filter.mp (hkept.mem_iff.mp hentry)).left
  rcases readValue_termsNode hresults size hnames hread hmem with
    ⟨head, hlabel, hvalue⟩
  refine ⟨[(field, .buckets (kept.map (termGroup docs field results)))],
    [(field, .buckets (kept.map (fun entry => (head entry, row entry))))], ?_, ?_, ?_⟩
  · show evaluateAll now docs [(field, (termsNode field size subs).2)] = _
    rw [evaluateAll, heval, evaluateAll]
    rfl
  · intro raw hraw
    show Answer.readRow raw [(field, (termsNode field size subs).2)] = _
    rw [Answer.readRow, hraw _ List.mem_cons_self, Answer.readRow]
    show (do
      let value <- Answer.readValue field _ (termsNode field size subs).2
      let values <- Except.ok []
      return (field, value) :: values) = _
    rw [hvalue]
    rfl
  · have htable : (Answer.innerRows? columns labels
          [(field, .buckets (kept.map (fun entry => (head entry, row entry))))]).getD
            [Answer.leafCells columns labels
              [(field, .buckets (kept.map (fun entry => (head entry, row entry))))]]
        = Answer.bucketTableRows columns labels
            (kept.map (fun entry => (head entry, row entry))) := by
      rw [Answer.innerRows?, Answer.valueRows?]
      rfl
    rw [htable, bucketTableRows_eq_flatMap, List.flatMap_map, <- flatMap_filter]
    refine hkept.flatMap (fun entry hentry => ?_)
    rw [hlabel entry hentry]
    exact hrows entry (hmem entry hentry)

end Store
end Rollup
