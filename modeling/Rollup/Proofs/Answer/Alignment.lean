import Rollup.Proofs.Grouping.Table
import Rollup.Proofs.Number.Nearest
import Rollup.Proofs.Plan.Chain

/-!
# Alignment of tables

A response that can be read is laid out in a table whose rows are as wide as its header.
For an aggregating query the rows are the paths of buckets in the response, from the
outermost level to the innermost, in the order in which the response lists them.
-/

namespace Rollup
namespace Answer

open Plan (Column Level Measure Outline)
open Request (Aggregation Bucketing Kinds Metric)
open Sql (AggregateCall SelectItem Statement)

/-!
# Paths of buckets

These definitions look at the response alone.
-/

def listedBuckets (name : String) (raw : Json) : List Json :=
  (((raw.field? name).bind (Json.field? "buckets")).bind Json.toList?).getD []

def bucketPaths : List String -> Json -> List (List Json)
  | [], _ => [[]]
  | name :: names, raw =>
      (listedBuckets name raw).flatMap (fun bucket =>
        (bucketPaths names bucket).map (fun path => bucket :: path))

def numberAt (key : String) (raw : Json) : Option Float :=
  (raw.field? key).bind Json.toFloat?

/-- The cell has the value of a number, as an integer or as the number itself. It is empty for what
is missing or not finite. -/
inductive ShowsNumber : Option Float -> Json -> Prop
  | missing : ShowsNumber none .null
  | infinite {x : Float} (h : x.isFinite = false) : ShowsNumber (some x) .null
  | integer {x : Float} {n : Int} (h : (Float.ofInt n == x) = true) : ShowsNumber (some x) (.int n)
  | float {x : Float} (h : x.isFinite = true) : ShowsNumber (some x) (.float x)

/-- What names a bucket in a table: its text, or else its key. -/
inductive ShowsLabel (bucket : Json) : Json -> Prop
  | text {text : String} (h : bucket.field? "key_as_string" = some (.str text)) :
      ShowsLabel bucket (.str text)
  | number {x : Float} {label : Json}
      (hnone : forall text, bucket.field? "key_as_string" ≠ some (.str text))
      (hkey : bucket.field? "key" = some (.float x)) (h : ShowsNumber (some x) label) :
      ShowsLabel bucket label
  | key {key : Json} (hnone : forall text, bucket.field? "key_as_string" ≠ some (.str text))
      (hkey : bucket.field? "key" = some key) (hother : forall x, key ≠ .float x) :
      ShowsLabel bucket key

def ShowsMetric (entry cell : Json) : Metric -> Prop
  | .stats _ => exists count min max avg sum, entry.field? "count" = some count
      ∧ ShowsNumber (numberAt "min" entry) min ∧ ShowsNumber (numberAt "max" entry) max
      ∧ ShowsNumber (numberAt "avg" entry) avg
      ∧ ShowsNumber (some ((numberAt "sum" entry).getD 0)) sum
      ∧ cell = Json.ofFields
          [("count", count), ("min", min), ("max", max), ("avg", avg), ("sum", sum)]
  | .percentiles _ => exists values cells,
      (entry.field? "values").bind Json.toFields? = some values
        ∧ List.Forall₂ (fun value shown => shown.1 = value.1
            ∧ ShowsNumber value.2.toFloat? shown.2) values cells
        ∧ cell = Json.ofFields cells
  | .topHits _ => exists hits,
      ((entry.field? "hits").bind (Json.field? "hits")).bind Json.toList? = some hits
        ∧ cell = .arr (hits.map (fun hit => (hit.field? "_source").getD .null))
  | _ => ShowsNumber (numberAt "value" entry) cell

def ShowsEntry (bucket : Json) (measure : Measure) (cell : Json) : Prop :=
  exists entry, bucket.field? measure.name = some entry
    ∧ ShowsMetric entry cell measure.kind.toMetric

/-- The row of a path: the labels of its buckets, then the measures in the innermost of
them, or in the whole response if the path is empty. -/
def IsPathRow (measures : List Measure) (root : Json) (path row : List Json) : Prop :=
  exists labels cells, row = labels ++ cells ∧ List.Forall₂ ShowsLabel path labels
    ∧ List.Forall₂ (ShowsEntry (path.getLastD root)) measures cells

theorem length_of_mem_bucketPaths {names : List String} {raw : Json} {path : List Json}
    (h : path ∈ bucketPaths names raw) : path.length = names.length := by
  induction names generalizing raw path with
  | nil =>
      rw [bucketPaths, List.mem_singleton] at h
      rw [h]
      rfl
  | cons name names ih =>
      rw [bucketPaths] at h
      rcases List.mem_flatMap.mp h with ⟨bucket, _, hpath⟩
      rcases List.mem_map.mp hpath with ⟨inner, hinner, rfl⟩
      rw [List.length_cons, List.length_cons, ih hinner]

theorem IsPathRow.length_eq {measures : List Measure} {root : Json} {path row : List Json}
    (h : IsPathRow measures root path row) : row.length = path.length + measures.length := by
  rcases h with ⟨labels, cells, rfl, hlabels, hcells⟩
  rw [List.length_append, hlabels.length_eq, hcells.length_eq]

theorem IsPathRow.cons {measures : List Measure} {root bucket label : Json} {path row : List Json}
    (hlabel : ShowsLabel bucket label) (h : IsPathRow measures bucket path row) :
    IsPathRow measures root (bucket :: path) (label :: row) := by
  rcases h with ⟨labels, cells, rfl, hlabels, hcells⟩
  refine ⟨label :: labels, cells, rfl, .cons hlabel hlabels, ?_⟩
  rw [List.getLastD_cons]
  exact hcells

/-!
# What is read
-/

theorem orMalformed_eq_ok_iff {alpha : Type} {value : Option alpha} {cause : Malformed}
    {found : alpha} : orMalformed value cause = .ok found <-> value = some found := by
  unfold orMalformed
  cases value <;> simp

theorem readRow_eq_ok_iff {raw : Json} {subs : List (String × Aggregation)} {row : Row} :
    readRow raw subs = .ok row
      <-> List.Forall₂ (fun sub entry => entry.1 = sub.1
            ∧ exists part, raw.field? sub.1 = some part
              ∧ readValue sub.1 part sub.2 = .ok entry.2)
          (subs.filter (fun sub => sub.2.kinds.selector.isNone)) row := by
  induction subs generalizing row with
  | nil =>
      rw [readRow, List.filter_nil, List.forall₂_nil_left_iff]
      exact ⟨fun h => by cases h; rfl, fun h => by rw [h]⟩
  | cons sub rest ih =>
      obtain ⟨name, node⟩ := sub
      rw [readRow]
      cases hselector : node.kinds.selector with
      | some selector =>
          rw [List.filter_cons_of_neg (by simp [hselector]), <- ih]
          rfl
      | none =>
          rw [List.filter_cons_of_pos (by simp [hselector])]
          constructor
          · intro h
            rcases bind_eq_ok_iff.mp h with ⟨part, hpart, h⟩
            rcases bind_eq_ok_iff.mp h with ⟨value, hvalue, h⟩
            rcases bind_eq_ok_iff.mp h with ⟨values, hvalues, heq⟩
            cases heq
            exact .cons ⟨rfl, part, orMalformed_eq_ok_iff.mp hpart, hvalue⟩ (ih.mp hvalues)
          · intro h
            cases h with
            | @cons _ entry _ values hentry hrest =>
                rcases hentry with ⟨hname, part, hpart, hvalue⟩
                have hpart : orMalformed (raw.field? name) (.missing name) = .ok part :=
                  orMalformed_eq_ok_iff.mpr hpart
                rw [hpart, ok_bind, hvalue, ok_bind, ih.mpr hrest]
                cases hname
                rfl

theorem bucketList_eq_ok_iff {name : String} {raw : Json} {buckets : List Json} :
    bucketList name raw = .ok buckets
      <-> (raw.field? "buckets").bind Json.toList? = some buckets :=
  orMalformed_eq_ok_iff

/-!
# Cells of numbers, labels and metrics
-/

theorem showsNumber_numberCell (x : Float) : ShowsNumber (some x) (numberCell x) := by
  unfold numberCell Json.ofFloat
  split
  · rename_i hwhole
    rw [Bool.and_eq_true, decide_eq_true_eq] at hwhole
    exact .integer (Number.ofInt_truncateInt64 hwhole.left hwhole.right)
  · split
    · rename_i hfinite
      exact .float hfinite
    · rename_i hinfinite
      exact .infinite (Bool.eq_false_iff.mpr hinfinite)

theorem showsNumber_numberCell? (x? : Option Float) : ShowsNumber x? (numberCell? x?) := by
  cases x? with
  | none => exact .missing
  | some x => exact showsNumber_numberCell x

theorem showsLabel_of_readHead {name : String} {bucket : Json} {head : BucketHead}
    (h : readHead name bucket = .ok head) : ShowsLabel bucket head.label := by
  unfold readHead at h
  rcases bind_eq_ok_iff.mp h with ⟨key, hkey, h⟩
  rcases bind_eq_ok_iff.mp h with ⟨count, _, heq⟩
  cases heq
  have hkey := orMalformed_eq_ok_iff.mp hkey
  unfold BucketHead.label
  dsimp only
  cases htext : (bucket.field? "key_as_string").bind Json.toString? with
  | some text =>
      rcases Option.bind_eq_some_iff.mp htext with ⟨part, hpart, hstring⟩
      cases part with
      | str found =>
          cases hstring
          exact .text hpart
      | _ => cases hstring
  | none =>
      have hnone : forall text, bucket.field? "key_as_string" ≠ some (.str text) := by
        intro text hpart
        rw [hpart] at htext
        cases htext
      cases key with
      | float x => exact .number hnone hkey (showsNumber_numberCell x)
      | _ => exact .key hnone hkey (fun _ heq => by cases heq)

theorem showsNumber_readNumber {name : String} {entry : Json} {value : Value}
    (h : readNumber name entry = .ok value) : ShowsNumber (numberAt "value" entry) value.cell := by
  unfold readNumber at h
  unfold numberAt
  split at h
  · rename_i hnull
    cases h
    rw [hnull]
    exact .missing
  · rename_i found _ hfound
    split at h
    · rename_i x hx
      cases h
      rw [hfound, Option.bind_some, hx]
      exact showsNumber_numberCell x
    · cases h
  · cases h

theorem field?_of_toNat? {entry : Json} {key : String} {count : Nat}
    (h : (entry.field? key).bind Json.toNat? = some count) :
    entry.field? key = some (.ofNat count) := by
  rcases Option.bind_eq_some_iff.mp h with ⟨part, hpart, hnat⟩
  rw [hpart]
  unfold Json.toNat? at hnat
  split at hnat
  · split at hnat
    · rename_i hpositive
      cases hnat
      rw [Json.ofNat, Int.toNat_of_nonneg hpositive]
    · cases hnat
  · cases hnat

theorem showsMetric_readMetric {name : String} {metric : Metric} {entry : Json} {value : Value}
    (h : readMetric name (Kinds.ofMetric metric) entry = .ok value) :
    ShowsMetric entry value.cell metric := by
  cases metric with
  | stats field =>
      rcases bind_eq_ok_iff.mp h with ⟨count, hcount, heq⟩
      cases heq
      exact ⟨_, _, _, _, _, field?_of_toNat? (orMalformed_eq_ok_iff.mp hcount),
        showsNumber_numberCell? _, showsNumber_numberCell? _, showsNumber_numberCell? _,
        showsNumber_numberCell _, rfl⟩
  | percentiles spec =>
      rcases bind_eq_ok_iff.mp h with ⟨values, hvalues, heq⟩
      cases heq
      refine ⟨values, _, orMalformed_eq_ok_iff.mp hvalues, ?_, rfl⟩
      rw [List.map_map, List.forall₂_map_right_iff, List.forall₂_same]
      exact fun value _ => ⟨rfl, showsNumber_numberCell? _⟩
  | topHits spec =>
      rcases bind_eq_ok_iff.mp h with ⟨hits, hhits, heq⟩
      cases heq
      exact ⟨hits, orMalformed_eq_ok_iff.mp hhits, rfl⟩
  | _ => exact showsNumber_readNumber h

theorem valueRows?_readMetric {name : String} {metric : Metric} {entry : Json} {value : Value}
    (h : readMetric name (Kinds.ofMetric metric) entry = .ok value) (columns : List Column)
    (labels : List Json) : valueRows? columns labels value = none := by
  have hnumber : forall found, readNumber name entry = .ok found ->
      valueRows? columns labels found = none := by
    intro found hfound
    unfold readNumber at hfound
    split at hfound
    · cases hfound
      rfl
    · split at hfound
      · cases hfound
        rfl
      · cases hfound
    · cases hfound
  cases metric with
  | stats field =>
      rcases bind_eq_ok_iff.mp h with ⟨_, _, heq⟩
      cases heq
      rfl
  | percentiles spec =>
      rcases bind_eq_ok_iff.mp h with ⟨_, _, heq⟩
      cases heq
      rfl
  | topHits spec =>
      rcases bind_eq_ok_iff.mp h with ⟨_, _, heq⟩
      cases heq
      rfl
  | _ => exact hnumber value h

/-!
# Rows of levels
-/

theorem innerRows?_eq_none {columns : List Column} {labels : List Json} {row : Row}
    (h : forall entry, entry ∈ row -> valueRows? columns labels entry.2 = none) :
    innerRows? columns labels row = none := by
  induction row with
  | nil => rw [innerRows?]
  | cons entry rest ih =>
      rw [innerRows?, h entry List.mem_cons_self]
      exact ih (fun other hother => h other (List.mem_cons_of_mem entry hother))

section

variable {raw : Json} {leaves : List (String × Aggregation)} {measures : List Measure}
  {selector? : Option Request.Selector}
  (hperm : leaves.Perm (Store.leafNodes measures selector?))

include hperm

theorem exists_measure_of_mem {row : Row} (h : readRow raw leaves = .ok row)
    {entry : String × Value} (hentry : entry ∈ row) :
    exists measure part, measure ∈ measures
      ∧ readMetric measure.name (Kinds.ofMetric measure.kind.toMetric) part = .ok entry.2 := by
  rcases exists_left_of_mem (readRow_eq_ok_iff.mp h) hentry with ⟨sub, hsub, _, part, _, hvalue⟩
  rcases List.mem_filter.mp hsub with ⟨hmem, hselector⟩
  rcases Store.mem_leaves hperm hmem with ⟨measure, hmeasure, rfl⟩ | ⟨selector, _, rfl⟩
  · refine ⟨measure, part, hmeasure, ?_⟩
    rw [<- Store.readValue_ofMetric]
    exact hvalue
  · cases hselector

theorem showsEntry_lookup (hnames : (leaves.map Prod.fst).Nodup) {row : Row}
    (h : readRow raw leaves = .ok row) {measure : Measure} (hmeasure : measure ∈ measures) :
    ShowsEntry raw measure (((row.lookup measure.name).map Value.cell).getD .null) := by
  have hall := readRow_eq_ok_iff.mp h
  have hsub : Plan.measureNode measure
      ∈ leaves.filter (fun sub => sub.2.kinds.selector.isNone) := by
    refine List.mem_filter.mpr ⟨Store.measureNode_mem_leaves hperm hmeasure, ?_⟩
    show (Kinds.ofMetric measure.kind.toMetric).selector.isNone = true
    rw [Store.selector_ofMetric]
    rfl
  have hkeys : (row.map Prod.fst).Nodup := by
    rw [keys_eq_of_forall₂ hall (fun _ _ hrel => hrel.left)]
    exact (List.filter_sublist.map Prod.fst).nodup hnames
  rcases exists_right_of_mem hall hsub with ⟨entry, hentry, hname, part, hpart, hvalue⟩
  obtain ⟨name, value⟩ := entry
  have hname : name = measure.name := hname
  have hlookup : row.lookup measure.name = some value :=
    lookup_eq_some_of_mem hkeys (hname ▸ hentry)
  refine ⟨part, hpart, ?_⟩
  rw [hlookup]
  have hmetric :
      readMetric measure.name (Kinds.ofMetric measure.kind.toMetric) part = .ok value := by
    rw [<- Store.readValue_ofMetric]
    exact hvalue
  exact showsMetric_readMetric hmetric

theorem rows_of_readRow_leaves (hnames : (leaves.map Prod.fst).Nodup) {row : Row}
    (h : readRow raw leaves = .ok row) {columns : List Column} {labels : List Json}
    (hcolumns : columns.drop labels.length
      = measures.map (fun measure => Column.same measure.name)) :
    exists cells, (innerRows? columns labels row).getD [leafCells columns labels row]
        = [labels ++ cells]
      ∧ IsPathRow measures raw [] cells := by
  have hflat : innerRows? columns labels row = none := by
    refine innerRows?_eq_none (fun entry hentry => ?_)
    rcases exists_measure_of_mem hperm h hentry with ⟨measure, part, _, hvalue⟩
    exact valueRows?_readMetric hvalue columns labels
  refine ⟨measures.map (fun measure => ((row.lookup measure.name).map Value.cell).getD .null), ?_,
    [], _, rfl, .nil, ?_⟩
  · rw [hflat, Option.getD_none, leafCells, hcolumns, List.map_map]
    rfl
  · rw [List.forall₂_map_right_iff, List.forall₂_same]
    exact fun measure hmeasure => showsEntry_lookup hperm hnames h hmeasure

end

theorem buckets_of_readRow_level {raw : Json} {leaves : List (String × Aggregation)}
    {level : Level} {levels : List Level} {row : Row}
    (h : readRow raw (Plan.nest leaves (level :: levels)) = .ok row) :
    exists rows, row = [(level.name, .buckets rows)]
      ∧ List.Forall₂ (fun bucket (entry : BucketHead × Row) =>
          ShowsLabel bucket entry.1.label
            ∧ readRow bucket (Plan.nest leaves levels) = .ok entry.2)
        (listedBuckets level.name raw) rows := by
  have hall := readRow_eq_ok_iff.mp h
  rw [Plan.kept_nest_cons, Plan.nest_cons] at hall
  cases hall with
  | @cons _ entry _ none hentry hnone =>
      cases hnone
      obtain ⟨name, value⟩ := entry
      rcases hentry with ⟨hname, part, hpart, hvalue⟩
      rw [Store.readValue_ofBucketing] at hvalue
      rcases bind_eq_ok_iff.mp hvalue with ⟨buckets, hbuckets, hvalue⟩
      rcases bind_eq_ok_iff.mp hvalue with ⟨rows, hrows, heq⟩
      cases heq
      cases hname
      refine ⟨rows, rfl, ?_⟩
      have hlisted : listedBuckets level.name raw = buckets := by
        unfold listedBuckets
        rw [hpart, Option.bind_some, bucketList_eq_ok_iff.mp hbuckets]
        rfl
      rw [hlisted]
      refine (mapM_eq_ok_iff.mp hrows).imp (fun bucket entry hread => ?_)
      rcases bind_eq_ok_iff.mp hread with ⟨head, hhead, hread⟩
      rcases bind_eq_ok_iff.mp hread with ⟨inner, hinner, heq⟩
      cases heq
      exact ⟨showsLabel_of_readHead hhead, hinner⟩

/-- The rows of a chain of levels are those of the paths of buckets.
The induction is on the levels, with the labels of the buckets outside them. -/
theorem rows_of_readRow {leaves : List (String × Aggregation)} {measures : List Measure}
    {selector? : Option Request.Selector} {columns : List Column}
    (hperm : (fieldMap leaves).Perm (Store.leafNodes measures selector?))
    (hnames : ((fieldMap leaves).map Prod.fst).Nodup) {levels : List Level} {raw : Json}
    {labels : List Json} {row : Row} (h : readRow raw (Plan.nest leaves levels) = .ok row)
    (hcolumns : columns.drop (labels.length + levels.length)
      = measures.map (fun measure => Column.same measure.name)) :
    List.Forall₂ (fun path shown => exists cells, shown = labels ++ cells
        ∧ IsPathRow measures raw path cells)
      (bucketPaths (levels.map Level.name) raw)
      ((innerRows? columns labels row).getD [leafCells columns labels row]) := by
  induction levels generalizing raw labels row with
  | nil =>
      rcases rows_of_readRow_leaves hperm hnames h hcolumns with ⟨cells, hrows, hcells⟩
      rw [hrows]
      exact .cons ⟨cells, rfl, hcells⟩ .nil
  | cons level levels ih =>
      rcases buckets_of_readRow_level h with ⟨rows, rfl, hrows⟩
      rw [innerRows?, valueRows?]
      show List.Forall₂ _ _ (bucketTableRows columns labels rows)
      rw [Store.bucketTableRows_eq_flatMap, List.map_cons, bucketPaths]
      refine List.rel_flatMap hrows (fun bucket entry hentry => ?_)
      have hwidth : (labels ++ [entry.1.label]).length + levels.length
          = labels.length + (level :: levels).length := by
        rw [List.length_append, List.length_cons, List.length_cons, List.length_nil]
        omega
      rw [List.forall₂_map_left_iff]
      refine (ih hentry.right (hwidth ▸ hcolumns)).imp ?_
      rintro path shown ⟨cells, rfl, hcells⟩
      refine ⟨entry.1.label :: cells, ?_, hcells.cons hentry.left⟩
      rw [List.append_assoc, List.singleton_append]

/-!
# Tables
-/

/-- The columns have different names and every row has a cell for each. -/
structure IsAligned (table : Table) : Prop where
  distinct : table.columns.Nodup
  width : forall row, row ∈ table.rows -> row.length = table.columns.length

theorem IsAligned.json {table : Table} (h : IsAligned table) :
    exists objects, table.json = .arr objects
      ∧ List.Forall₂ (fun row object => exists fields, object = .obj fields
          ∧ fields.Perm (table.columns.zip row)) table.rows objects := by
  refine ⟨_, rfl, ?_⟩
  rw [List.forall₂_map_right_iff, List.forall₂_same]
  intro row hrow
  refine ⟨_, rfl, fieldMap_perm ?_⟩
  have hkeys : (table.columns.zip row).map Prod.fst = table.columns :=
    List.map_fst_zip (Nat.le_of_eq (h.width row hrow).symm)
  rw [hkeys]
  exact h.distinct

theorem nodup_sourceKeys (sources : List Json) : (sourceKeys sources).Nodup := by
  unfold sourceKeys
  rw [List.nodup_iff_pairwise_ne, List.pairwise_map]
  exact (ascending_fieldMap _).imp (fun hlt => String.ne_of_lt hlt)

theorem names_fieldColumns_sublist (items : List SelectItem) :
    ((Plan.fieldColumns items).map Column.name).Sublist
      ((items.filter (fun item => !item.isStar)).map SelectItem.displayName) := by
  unfold Plan.fieldColumns
  split
  · exact List.nil_sublist _
  · rename_i hstar
    clear hstar
    induction items with
    | nil => exact List.Sublist.refl _
    | cons item rest ih =>
        cases item with
        | star => exact ih
        | field name label => exact ih.cons_cons _
        | aggregate call => exact ih.cons _

theorem isAligned_hits {columns : List Column} (h : (columns.map Column.name).Nodup)
    (found : Hits) : IsAligned (table (.hits found) columns) := by
  constructor
  · show ((hitColumns columns found).map Column.name).Nodup
    unfold hitColumns
    split
    · rw [List.map_map]
      show ((sourceKeys found.sources).map id).Nodup
      rw [List.map_id]
      exact nodup_sourceKeys found.sources
    · exact h
  · intro row hrow
    rcases List.mem_map.mp hrow with ⟨source, _, rfl⟩
    rw [List.length_map]
    exact (List.length_map _).symm

theorem readWhole_of_read {request : Request.Search} {response : Json} {answer : Answer}
    (h : read request response = .ok answer) : readWhole request response = .ok answer := by
  unfold read at h
  split at h
  · rename_i found hfound
    cases h
    exact hfound
  · cases h

theorem isAligned_search {plan : Plan} (haggs : plan.request.body.aggs = none)
    (hcolumns : (plan.columns.map Column.name).Nodup) {response : Json} {answer : Answer}
    (hread : read plan.request response = .ok answer) : IsAligned (answer.table plan.columns) := by
  have hwhole := readWhole_of_read hread
  unfold readWhole at hwhole
  rw [haggs] at hwhole
  rcases bind_eq_ok_iff.mp hwhole with ⟨found, _, hanswer⟩
  cases hanswer
  exact isAligned_hits hcolumns found

theorem rows_of_outline {options : Plan.Options} {statement : Statement}
    (outline : Outline options statement) {response : Json} {answer : Answer}
    (hread : read outline.plan.request response = .ok answer) :
    exists root, response.field? "aggregations" = some root
      ∧ (answer.table outline.plan.columns).columns = outline.plan.columns.map Column.name
      ∧ List.Forall₂ (IsPathRow outline.measures root)
          (bucketPaths (statement.groups.map Plan.termName) root)
          (answer.table outline.plan.columns).rows := by
  rcases bind_eq_ok_iff.mp (readWhole_of_read hread) with ⟨root, hroot, h⟩
  rcases bind_eq_ok_iff.mp h with ⟨row, hrow, heq⟩
  cases heq
  refine ⟨root, orMalformed_eq_ok_iff.mp hroot, rfl, ?_⟩
  rcases Store.exists_leafNodes_eq outline.selected with ⟨selector?, hleaves⟩
  have hperm : (fieldMap outline.leaves).Perm (Store.leafNodes outline.measures selector?) :=
    outline.perm_leaves.trans (.of_eq hleaves)
  have hcolumns : outline.plan.columns.drop (([] : List Json).length + outline.levels.length)
      = outline.measures.map (fun measure => Column.same measure.name) := by
    rw [List.length_nil, Nat.zero_add, Outline.plan]
    exact List.drop_left' (List.length_map _)
  have hrows := rows_of_readRow hperm outline.isLeafMap.distinct hrow hcolumns
  rw [outline.names_levels] at hrows
  refine hrows.imp ?_
  rintro path shown ⟨cells, rfl, hcells⟩
  exact hcells

/-- The table of an answer is aligned, and its objects keep all cells. For an aggregating
query it has one row for each path of buckets in the response, in the order there: the
labels of the buckets, and then the measures in the innermost of them. -/
theorem isAligned_table {options : Plan.Options} {text : String} {plan : Plan} {response : Json}
    {answer : Answer} (hplan : Plan.ofText options text = .ok plan)
    (hread : read plan.request response = .ok answer) :
    IsAligned (answer.table plan.columns)
      ∧ (exists objects, (answer.table plan.columns).json = .arr objects
          ∧ List.Forall₂ (fun row object => exists fields, object = .obj fields
              ∧ fields.Perm ((answer.table plan.columns).columns.zip row))
            (answer.table plan.columns).rows objects)
      ∧ exists statement, Sql.parse text = .ok statement
        ∧ (statement.isAggregation = true -> exists root measures,
            response.field? "aggregations" = some root
              ∧ Plan.measures statement.calls = .ok measures
              ∧ (answer.table plan.columns).columns
                = statement.groups.map Plan.termName ++ measures.map Measure.name
              ∧ List.Forall₂ (IsPathRow measures root)
                  (bucketPaths (statement.groups.map Plan.termName) root)
                  (answer.table plan.columns).rows) := by
  unfold Plan.ofText at hplan
  split at hplan
  · cases hplan
  rename_i statement hparse
  cases haggregation : statement.isAggregation with
  | false =>
      rcases Plan.plain_of_ofStatement hplan haggregation with ⟨hchecked, haggs, hcolumns⟩
      have hnodup : (plan.columns.map Column.name).Nodup := by
        rw [hcolumns]
        exact (names_fieldColumns_sublist statement.select).nodup
          (Plan.nodup_of_checkNames hchecked)
      have haligned := isAligned_search haggs hnodup hread
      exact ⟨haligned, haligned.json, statement, hparse, fun h => nomatch haggregation.symm.trans h⟩
  | true =>
      rcases Plan.exists_outline hplan haggregation with ⟨outline, rfl⟩
      rcases rows_of_outline outline hread with ⟨root, hroot, hcolumns, hrows⟩
      have hnames : (answer.table outline.plan.columns).columns
          = statement.groups.map Plan.termName ++ outline.measures.map Measure.name := by
        rw [hcolumns, outline.names_columns, Plan.names_of_measures outline.measured]
      have haligned : IsAligned (answer.table outline.plan.columns) := by
        constructor
        · rw [hcolumns]
          exact outline.nodup_columns
        · intro row hrow
          rcases exists_left_of_mem hrows hrow with ⟨path, hpath, hshown⟩
          rw [hshown.length_eq, length_of_mem_bucketPaths hpath, hnames, List.length_append,
            List.length_map, List.length_map]
      exact ⟨haligned, haligned.json, statement, hparse,
        fun _ => ⟨root, outline.measures, hroot, outline.measured, hnames, hrows⟩⟩

def bucketWith (key : String) (count : Int) (name : String) (inner : Json) : Json :=
  Json.ofFields [("key", .str key), ("doc_count", .int count), (name, inner)]

def taggedCities : Json :=
  .obj
    [ ("aggregations", .obj
        [ ("city", .obj
            [ ("buckets", .arr
                [ bucketWith "Oslo" 3 "tags" (.obj
                    [ ("buckets", .arr
                        [ bucketWith "vip" 2 "n" (.obj [("value", .int 2)])
                        , bucketWith "new" 2 "n" (.obj [("value", .float 2.5)]) ]) ])
                , bucketWith "Rome" 1 "tags" (.obj [("buckets", .arr [])]) ]) ]) ]) ]

theorem isAligned_table_taggedCities :
    exists plan answer, Plan.ofText {} Store.sharedTags.canonicalText = .ok plan
      ∧ read plan.request taggedCities = .ok answer
      ∧ IsAligned (answer.table plan.columns)
      ∧ (exists root measures, List.Forall₂ (IsPathRow measures root)
          (bucketPaths ["city", "tags"] root) (answer.table plan.columns).rows)
      ∧ (answer.table plan.columns).columns = ["city", "tags", "n"]
      ∧ (answer.table plan.columns).rows.map (List.map Json.text)
        = [["\"Oslo\"", "\"vip\"", "2"], ["\"Oslo\"", "\"new\"", "2.5"]] := by
  have hshown : (do
      let plan <- Plan.ofStatement {} Store.sharedTags
      let answer <- read plan.request taggedCities
      let shown : Table := answer.table plan.columns
      return (shown.columns, shown.rows.map (List.map Json.text))).toOption
        = some (["city", "tags", "n"],
          [["\"Oslo\"", "\"vip\"", "2"], ["\"Oslo\"", "\"new\"", "2.5"]]) := by
    decide +kernel
  have hparse := Store.parse_sharedTags
  cases hstatement : Plan.ofStatement {} Store.sharedTags with
  | error e =>
      rw [hstatement] at hshown
      cases hshown
  | ok plan =>
      rw [hstatement, ok_bind] at hshown
      cases hread : read plan.request taggedCities with
      | error e =>
          rw [hread] at hshown
          cases hshown
      | ok answer =>
          rw [hread, ok_bind] at hshown
          rcases Prod.mk.inj (Option.some.inj hshown) with ⟨hcolumns, hcells⟩
          have hplan : Plan.ofText {} Store.sharedTags.canonicalText = .ok plan := by
            rw [Plan.ofText, hparse]
            exact hstatement
          rcases isAligned_table hplan hread with ⟨haligned, _, statement, hsame, hpaths⟩
          cases hparse.symm.trans hsame
          rcases hpaths (by decide) with ⟨root, measures, _, _, _, hrows⟩
          exact ⟨plan, answer, hplan, hread, haligned, ⟨root, measures, hrows⟩, hcolumns, hcells⟩

end Answer
end Rollup
