import Mathlib.Algebra.Group.Nat.Defs
import Rollup.Proofs.Json.Record
import Rollup.Request.Body

/-!
# Requests are read back

The body of a request is a value of the request format if its maps are in order, each key
once, and its counts fit their words. Main statement: such a body, if its numbers are finite
and no bound of a range is `null`, is read back from its JSON value as it was, however deep
its filters and aggregations nest.
-/

namespace Rollup
namespace Request

open Json (ofFields ofPresent ofFloat presentFields ReadsBack bind_of_some)

/-!
# Sort keys
-/

theorem readsBack_size {n : Nat} (h : n < 2 ^ 64) : ReadsBack Json.ofNat Json.size? n :=
  Json.readsBack_natBelow h

theorem readsBack_direction (direction : Sql.Direction) :
    ReadsBack Sql.Direction.tree directionOf? direction := by
  cases direction with
  | asc => exact ⟨rfl, rfl⟩
  | desc => exact ⟨rfl, rfl⟩

theorem readsBack_order {order : List SortEntry}
    (h : forall entry, entry ∈ order -> Ascending entry) :
    ReadsBack orderListJson (Json.list? SortEntry.ofOrderJson?) order := by
  apply Json.readsBack_list
  intro entry hentry
  exact Json.readsBack_map (h entry hentry) (fun key _ => readsBack_direction key.2)

theorem readsBack_sort {sort : List SortEntry}
    (h : forall entry, entry ∈ sort -> Ascending entry) :
    ReadsBack sortListJson (Json.list? SortEntry.ofSortJson?) sort := by
  have hkey : forall direction : Sql.Direction,
      ReadsBack (fun direction => .obj [("order", direction.tree)])
        (fun value => (Json.record? true ["order"] value).bind
          (Json.required? directionOf? "order")) direction :=
    fun direction => ⟨(readsBack_direction direction).read, rfl⟩
  apply Json.readsBack_list
  intro entry hentry
  exact Json.readsBack_map (h entry hentry) (fun key _ => hkey key.2)

theorem readsBack_strings (items : List String) : ReadsBack stringsJson strings? items :=
  Json.readsBack_list (fun item _ => Json.readsBack_str item)

theorem listOrEmpty?_presentFields {alpha : Type} {write : alpha -> Json}
    {read? : Json -> Option alpha} {entries : List (String × Option Json)} {name : String}
    {values : List alpha} (hnames : (entries.map Prod.fst).Nodup)
    (h : entries.lookup name = some (unlessEmpty (values.map write)))
    (hread : forall value, value ∈ values -> read? (write value) = some value) :
    Json.listOrEmpty? read? name (presentFields entries) = some values := by
  rw [Json.listOrEmpty?, Json.lookup_presentFields hnames h]
  cases values with
  | nil => rfl
  | cons value rest => exact Json.mapM_map_eq_some hread

/-!
# Metrics and buckets
-/

theorem readsBack_field (field : String) : ReadsBack fieldJson fieldOf? field :=
  ⟨rfl, rfl⟩

structure Percentiles.IsWritable (spec : Percentiles) : Prop where
  percents : forall x, x ∈ spec.percents -> x.isFinite = true

theorem Percentiles.IsWritable.readsBack {spec : Percentiles} (h : spec.IsWritable) :
    ReadsBack Percentiles.json Percentiles.ofJson? spec := by
  have hpercents := Json.readsBack_list (fun x hx => Json.readsBack_float (h.percents x hx))
  refine ⟨?_, rfl⟩
  have hnames : ["field", "percents"].Nodup := by decide
  refine bind_of_some (Json.record?_ofPresent true _
    [("field", some (.str spec.field)), ("percents", some (.arr (spec.percents.map ofFloat)))]) ?_
  refine bind_of_some (Json.required?_presentFields hnames rfl rfl) ?_
  refine bind_of_some (Json.required?_presentFields hnames rfl hpercents.read) ?_
  rfl

theorem readsBack_sourceFilter (source : SourceFilter) :
    ReadsBack SourceFilter.json SourceFilter.ofJson? source := by
  have hwritten : forall items : List String,
      (if items.isEmpty then none else some (stringsJson items))
        = unlessEmpty (items.map Json.str) := by
    intro items
    cases items with
    | nil => rfl
    | cons item rest => rfl
  refine ⟨?_, rfl⟩
  have hnames : ["includes", "excludes"].Nodup := by decide
  refine bind_of_some (Json.record?_ofPresent true _ _) ?_
  iterate 2
    refine bind_of_some
      (listOrEmpty?_presentFields hnames (congrArg some (hwritten _)) (fun _ _ => rfl)) ?_
  rfl

structure TopHits.IsWritable (spec : TopHits) : Prop where
  size : spec.size < 2 ^ 64
  skip : forall n, spec.skip = some n -> n < 2 ^ 64
  sort : forall sort, spec.sort = some sort -> forall entry, entry ∈ sort -> Ascending entry

theorem TopHits.IsWritable.readsBack {spec : TopHits} (h : spec.IsWritable) :
    ReadsBack TopHits.json TopHits.ofJson? spec := by
  refine ⟨?_, rfl⟩
  have hnames : ["size", "from", "sort", "_source"].Nodup := by decide
  refine bind_of_some (Json.record?_ofPresent true _ _) ?_
  refine bind_of_some (Json.required?_presentFields hnames rfl (readsBack_size h.size).read) ?_
  refine bind_of_some (Json.optional?_presentFields hnames rfl
    (fun n hn => readsBack_size (h.skip n hn))) ?_
  refine bind_of_some (Json.optional?_presentFields hnames rfl
    (fun sort hsort => readsBack_sort (h.sort sort hsort))) ?_
  refine bind_of_some (Json.optional?_presentFields hnames rfl
    (fun source _ => readsBack_sourceFilter source)) ?_
  rfl

structure Terms.IsWritable (spec : Terms) : Prop where
  size : forall n, spec.size = some n -> n < 2 ^ 64
  order : forall order, spec.order = some order -> forall entry, entry ∈ order -> Ascending entry

theorem Terms.IsWritable.readsBack {spec : Terms} (h : spec.IsWritable) :
    ReadsBack Terms.json Terms.ofJson? spec := by
  refine ⟨?_, rfl⟩
  have hnames : ["field", "size", "order"].Nodup := by decide
  refine bind_of_some (Json.record?_ofPresent true _ _) ?_
  refine bind_of_some (Json.required?_presentFields hnames rfl rfl) ?_
  refine bind_of_some (Json.optional?_presentFields hnames rfl
    (fun n hn => readsBack_size (h.size n hn))) ?_
  refine bind_of_some (Json.optional?_presentFields hnames rfl
    (fun order horder => readsBack_order (h.order order horder))) ?_
  rfl

structure NumberRange.IsWritable (range : NumberRange) : Prop where
  low : forall x, range.low = some x -> x.isFinite = true
  high : forall x, range.high = some x -> x.isFinite = true

theorem NumberRange.IsWritable.readsBack {range : NumberRange} (h : range.IsWritable) :
    ReadsBack NumberRange.json NumberRange.ofJson? range := by
  refine ⟨?_, rfl⟩
  have hnames : ["from", "to"].Nodup := by decide
  refine bind_of_some (Json.record?_ofPresent true _ _) ?_
  refine bind_of_some (Json.optional?_presentFields hnames rfl
    (fun x hx => Json.readsBack_float (h.low x hx))) ?_
  refine bind_of_some (Json.optional?_presentFields hnames rfl
    (fun x hx => Json.readsBack_float (h.high x hx))) ?_
  rfl

structure Ranges.IsWritable (spec : Ranges) : Prop where
  ranges : forall range, range ∈ spec.ranges -> range.IsWritable

theorem Ranges.IsWritable.readsBack {spec : Ranges} (h : spec.IsWritable) :
    ReadsBack Ranges.json Ranges.ofJson? spec := by
  have hranges := Json.readsBack_list (fun range hrange => (h.ranges range hrange).readsBack)
  refine ⟨?_, rfl⟩
  have hnames : ["field", "ranges"].Nodup := by decide
  refine bind_of_some (Json.record?_ofPresent true _
    [ ("field", some (.str spec.field))
    , ("ranges", some (.arr (spec.ranges.map NumberRange.json))) ]) ?_
  refine bind_of_some (Json.required?_presentFields hnames rfl rfl) ?_
  refine bind_of_some (Json.required?_presentFields hnames rfl hranges.read) ?_
  rfl

theorem readsBack_dateRange (range : DateRange) :
    ReadsBack DateRange.json DateRange.ofJson? range := by
  refine ⟨?_, rfl⟩
  have hnames : ["from", "to"].Nodup := by decide
  refine bind_of_some (Json.record?_ofPresent true _ _) ?_
  iterate 2
    refine bind_of_some (Json.optional?_presentFields hnames rfl
      (fun text _ => Json.readsBack_str text)) ?_
  rfl

theorem readsBack_dateRanges (spec : DateRanges) :
    ReadsBack DateRanges.json DateRanges.ofJson? spec := by
  have hranges := Json.readsBack_list
    (fun range (_ : range ∈ spec.ranges) => readsBack_dateRange range)
  refine ⟨?_, rfl⟩
  have hnames : ["field", "format", "ranges"].Nodup := by decide
  refine bind_of_some (Json.record?_ofPresent true _ _) ?_
  refine bind_of_some (Json.required?_presentFields hnames rfl rfl) ?_
  refine bind_of_some (Json.optional?_presentFields hnames rfl
    (fun text _ => Json.readsBack_str text)) ?_
  refine bind_of_some (Json.required?_presentFields hnames rfl hranges.read) ?_
  rfl

structure DateHistogram.IsWritable (spec : DateHistogram) : Prop where
  minDocCount : forall n, spec.minDocCount = some n -> n < 2 ^ 64
  order : forall order, spec.order = some order -> forall entry, entry ∈ order -> Ascending entry

theorem DateHistogram.IsWritable.readsBack {spec : DateHistogram} (h : spec.IsWritable) :
    ReadsBack DateHistogram.json DateHistogram.ofJson? spec := by
  refine ⟨?_, rfl⟩
  have hnames : ["field", "calendar_interval", "fixed_interval", "format", "time_zone",
      "min_doc_count", "order"].Nodup := by decide
  refine bind_of_some (Json.record?_ofPresent true _ _) ?_
  refine bind_of_some (Json.required?_presentFields hnames rfl rfl) ?_
  iterate 4
    refine bind_of_some (Json.optional?_presentFields hnames rfl
      (fun text _ => Json.readsBack_str text)) ?_
  refine bind_of_some (Json.optional?_presentFields hnames rfl
    (fun n hn => readsBack_size (h.minDocCount n hn))) ?_
  refine bind_of_some (Json.optional?_presentFields hnames rfl
    (fun order horder => readsBack_order (h.order order horder))) ?_
  rfl

structure Histogram.IsWritable (spec : Histogram) : Prop where
  interval : spec.interval.isFinite = true
  minDocCount : forall n, spec.minDocCount = some n -> n < 2 ^ 64
  order : forall order, spec.order = some order -> forall entry, entry ∈ order -> Ascending entry

theorem Histogram.IsWritable.readsBack {spec : Histogram} (h : spec.IsWritable) :
    ReadsBack Histogram.json Histogram.ofJson? spec := by
  refine ⟨?_, rfl⟩
  have hnames : ["field", "interval", "min_doc_count", "order"].Nodup := by decide
  refine bind_of_some (Json.record?_ofPresent true _ _) ?_
  refine bind_of_some (Json.required?_presentFields hnames rfl rfl) ?_
  refine bind_of_some
    (Json.required?_presentFields hnames rfl (Json.readsBack_float h.interval).read) ?_
  refine bind_of_some (Json.optional?_presentFields hnames rfl
    (fun n hn => readsBack_size (h.minDocCount n hn))) ?_
  refine bind_of_some (Json.optional?_presentFields hnames rfl
    (fun order horder => readsBack_order (h.order order horder))) ?_
  rfl

structure Selector.IsWritable (spec : Selector) : Prop where
  paths : Ascending spec.paths

theorem Selector.IsWritable.readsBack {spec : Selector} (h : spec.IsWritable) :
    ReadsBack Selector.json Selector.ofJson? spec := by
  have hpaths := Json.readsBack_map h.paths (fun path _ => Json.readsBack_str path.2)
  refine ⟨?_, rfl⟩
  have hnames : ["buckets_path", "script"].Nodup := by decide
  refine bind_of_some (Json.record?_ofPresent true _
    [("buckets_path", some (ofFields (spec.paths.map (fun path => (path.1, .str path.2))))),
      ("script", some (.str spec.script))]) ?_
  refine bind_of_some (Json.required?_presentFields hnames rfl hpaths.read) ?_
  refine bind_of_some (Json.required?_presentFields hnames rfl rfl) ?_
  rfl

/-!
# Aggregations
-/

structure Kinds.IsWritable (kinds : Kinds) : Prop where
  percentiles : forall spec, kinds.percentiles = some spec -> spec.IsWritable
  topHits : forall spec, kinds.topHits = some spec -> spec.IsWritable
  terms : forall spec, kinds.terms = some spec -> spec.IsWritable
  range : forall spec, kinds.range = some spec -> spec.IsWritable
  dateHistogram : forall spec, kinds.dateHistogram = some spec -> spec.IsWritable
  histogram : forall spec, kinds.histogram = some spec -> spec.IsWritable
  selector : forall spec, kinds.selector = some spec -> spec.IsWritable

theorem nodup_nodeFields : nodeFields.Nodup := by decide

theorem Kinds.IsWritable.ofFields? {kinds : Kinds} (h : kinds.IsWritable) (aggs? : Option Json) :
    Kinds.ofFields? (presentFields (kinds.entries ++ [("aggs", aggs?)])) = some kinds := by
  have hnames : ((kinds.entries ++ [("aggs", aggs?)]).map Prod.fst).Nodup := nodup_nodeFields
  iterate 7
    refine bind_of_some (Json.optional?_presentFields hnames rfl
      (fun field _ => readsBack_field field)) ?_
  refine bind_of_some (Json.optional?_presentFields hnames rfl
    (fun spec hspec => (h.percentiles spec hspec).readsBack)) ?_
  refine bind_of_some (Json.optional?_presentFields hnames rfl
    (fun spec hspec => (h.topHits spec hspec).readsBack)) ?_
  refine bind_of_some (Json.optional?_presentFields hnames rfl
    (fun spec hspec => (h.terms spec hspec).readsBack)) ?_
  refine bind_of_some (Json.optional?_presentFields hnames rfl
    (fun spec hspec => (h.range spec hspec).readsBack)) ?_
  refine bind_of_some (Json.optional?_presentFields hnames rfl
    (fun spec _ => readsBack_dateRanges spec)) ?_
  refine bind_of_some (Json.optional?_presentFields hnames rfl
    (fun spec hspec => (h.dateHistogram spec hspec).readsBack)) ?_
  refine bind_of_some (Json.optional?_presentFields hnames rfl
    (fun spec hspec => (h.histogram spec hspec).readsBack)) ?_
  refine bind_of_some (Json.optional?_presentFields hnames rfl
    (fun spec hspec => (h.selector spec hspec).readsBack)) ?_
  rfl

theorem Aggregation.jsonEntries_eq_map (subs : List (String × Aggregation)) :
    Aggregation.jsonEntries subs = subs.map (fun sub => (sub.1, sub.2.json)) := by
  induction subs with
  | nil => rw [Aggregation.jsonEntries, List.map_nil]
  | cons sub rest ih =>
      rcases sub with ⟨name, sub⟩
      rw [Aggregation.jsonEntries, List.map_cons, ih]

def subsJson (subs? : Option (List (String × Aggregation))) : Option Json :=
  subs?.map (fun subs => ofFields (Aggregation.jsonEntries subs))

theorem Aggregation.json_node (kinds : Kinds) (subs? : Option (List (String × Aggregation))) :
    (Aggregation.node kinds subs?).json
      = ofPresent (kinds.entries ++ [("aggs", subsJson subs?)]) := by
  cases subs? with
  | none => rw [Aggregation.json, subsJson, Option.map_none]
  | some subs => rw [Aggregation.json, subsJson, Option.map_some]

theorem subs?_presentFields {read? : Json -> Option Aggregation}
    {entries : List (String × Option Json)} {subs? : Option (List (String × Aggregation))}
    (hnames : (entries.map Prod.fst).Nodup) (hother : "aggregations" ∉ entries.map Prod.fst)
    (h : entries.lookup "aggs" = some (subsJson subs?))
    (hkeys : forall subs, subs? = some subs -> Ascending subs)
    (hread : forall subs, subs? = some subs -> forall sub, sub ∈ subs ->
      read? sub.2.json = some sub.2) :
    Request.subs? read? (presentFields entries) = some subs? := by
  rw [Request.subs?, Json.lookup_presentFields hnames h, Json.lookup_presentFields_eq_none hother]
  cases subs? with
  | none => rfl
  | some subs =>
      show Json.nullable? (Json.map? read?) (ofFields (Aggregation.jsonEntries subs))
        = some (some subs)
      rw [Json.nullable?_of_not_null rfl, Aggregation.jsonEntries_eq_map,
        Json.map?_ofFields (hkeys subs rfl) (hread subs rfl)]
      rfl

inductive Aggregation.IsWritable : Aggregation -> Prop
  | node {kinds : Kinds} {subs? : Option (List (String × Aggregation))}
      (kinds_writable : kinds.IsWritable)
      (keys : forall subs, subs? = some subs -> Ascending subs)
      (inner : forall subs, subs? = some subs -> forall sub, sub ∈ subs -> IsWritable sub.2) :
      IsWritable (.node kinds subs?)

theorem Aggregation.depth_lt {kinds : Kinds} {subs : List (String × Aggregation)}
    (hkeys : Ascending subs) {sub : String × Aggregation} (h : sub ∈ subs) :
    sub.2.json.depth < (Aggregation.node kinds (some subs)).json.depth := by
  have hnames : ((kinds.entries ++ [("aggs", subsJson (some subs))]).map Prod.fst).Nodup :=
    nodup_nodeFields
  have hinner : sub.2.json.depth < (ofFields (Aggregation.jsonEntries subs)).depth := by
    rw [ofFields, Aggregation.jsonEntries_eq_map, fieldMap_map_snd, hkeys.fieldMap_eq]
    apply @Json.depth_lt_of_lookup sub.1
    rw [lookup_map_snd, lookup_eq_some_of_mem hkeys.nodup_keys h]
    rfl
  have houter := Json.depth_lt_of_lookup (Json.lookup_presentFields hnames
    (rfl : List.lookup "aggs" _ = some (some (ofFields (Aggregation.jsonEntries subs)))))
  rw [Aggregation.json_node]
  exact Nat.lt_trans hinner houter

theorem Aggregation.IsWritable.ofJsonWithin? {aggregation : Aggregation}
    (h : aggregation.IsWritable) {depth : Nat} (hdepth : aggregation.json.depth <= depth) :
    Aggregation.ofJsonWithin? depth aggregation.json = some aggregation := by
  induction h generalizing depth with
  | @node kinds subs? hkinds keys inner ih =>
      -- Every level of the value takes one of the levels allowed, and the levels below are fewer.
      cases depth with
      | zero =>
          rw [Aggregation.json_node] at hdepth
          exact absurd hdepth (Nat.not_succ_le_zero _)
      | succ depth =>
          have hnames : ((kinds.entries ++ [("aggs", subsJson subs?)]).map Prod.fst).Nodup :=
            nodup_nodeFields
          have hother : "aggregations" ∉ nodeFields := by decide
          have hsubs : forall subs, subs? = some subs -> forall sub, sub ∈ subs ->
              Aggregation.ofJsonWithin? depth sub.2.json = some sub.2 := by
            rintro subs rfl sub hsub
            apply ih subs rfl sub hsub
            exact Nat.le_of_lt_succ
              (Nat.lt_of_lt_of_le (Aggregation.depth_lt (keys subs rfl) hsub) hdepth)
          rw [Aggregation.json_node, Aggregation.ofJsonWithin?]
          refine bind_of_some (Json.record?_ofPresent true _ _) ?_
          refine bind_of_some (hkinds.ofFields? _) ?_
          refine bind_of_some (subs?_presentFields hnames hother rfl keys hsubs) ?_
          rfl

/-!
# Filters
-/

/-- A bound that is `null` would be read as none. -/
structure Bounds.IsWritable (bounds : Bounds) : Prop where
  gte : forall value, bounds.gte = some value -> value.isNull = false
  gt : forall value, bounds.gt = some value -> value.isNull = false
  lte : forall value, bounds.lte = some value -> value.isNull = false
  lt : forall value, bounds.lt = some value -> value.isNull = false

theorem Bounds.IsWritable.readsBack {bounds : Bounds} (h : bounds.IsWritable) :
    ReadsBack Bounds.json Bounds.ofJson? bounds := by
  refine ⟨?_, rfl⟩
  have hnames : ["gte", "gt", "lte", "lt"].Nodup := by decide
  have hsame : forall value? : Option Json, some value? = some (value?.map id) := by
    intro value?
    cases value? with
    | none => rfl
    | some value => rfl
  refine bind_of_some (Json.record?_ofPresent true _ _) ?_
  refine bind_of_some (Json.optional?_presentFields hnames (hsame _)
    (fun value hvalue => ⟨rfl, h.gte value hvalue⟩)) ?_
  refine bind_of_some (Json.optional?_presentFields hnames (hsame _)
    (fun value hvalue => ⟨rfl, h.gt value hvalue⟩)) ?_
  refine bind_of_some (Json.optional?_presentFields hnames (hsame _)
    (fun value hvalue => ⟨rfl, h.lte value hvalue⟩)) ?_
  refine bind_of_some (Json.optional?_presentFields hnames (hsame _)
    (fun value hvalue => ⟨rfl, h.lt value hvalue⟩)) ?_
  rfl

inductive Filter.IsWritable : Filter -> Prop
  | matchAll : IsWritable .matchAll
  | term {fields : List (String × Json)} (keys : Ascending fields) : IsWritable (.term fields)
  | terms {fields : List (String × List Json)} (keys : Ascending fields) :
      IsWritable (.terms fields)
  | range {fields : List (String × Bounds)} (keys : Ascending fields)
      (bounds : forall entry, entry ∈ fields -> entry.2.IsWritable) : IsWritable (.range fields)
  | wildcard {fields : List (String × String)} (keys : Ascending fields) :
      IsWritable (.wildcard fields)
  | present (field : String) : IsWritable (.present field)
  | bool {must should mustNot filter : List Filter} {minimum : Option Nat}
      (must_writable : forall part, part ∈ must -> IsWritable part)
      (should_writable : forall part, part ∈ should -> IsWritable part)
      (mustNot_writable : forall part, part ∈ mustNot -> IsWritable part)
      (filter_writable : forall part, part ∈ filter -> IsWritable part)
      (minimum_fits : forall n, minimum = some n -> n < 2 ^ 32) :
      IsWritable (.bool must should mustNot filter minimum)

theorem Filter.jsonList_eq_map (parts : List Filter) :
    Filter.jsonList parts = parts.map Filter.json := by
  induction parts with
  | nil => rw [Filter.jsonList, List.map_nil]
  | cons part rest ih => rw [Filter.jsonList, List.map_cons, ih]

def boolEntries (must should mustNot filter : List Filter) (minimum : Option Nat) :
    List (String × Option Json) :=
  [ ("must", unlessEmpty (must.map Filter.json))
  , ("should", unlessEmpty (should.map Filter.json))
  , ("must_not", unlessEmpty (mustNot.map Filter.json))
  , ("filter", unlessEmpty (filter.map Filter.json))
  , ("minimum_should_match", minimum.map Json.ofNat) ]

theorem Filter.json_bool (must should mustNot filter : List Filter) (minimum : Option Nat) :
    (Filter.bool must should mustNot filter minimum).json
      = .obj [("bool", ofPresent (boolEntries must should mustNot filter minimum))] := by
  simp only [Filter.json, Filter.jsonList_eq_map, boolEntries]

theorem nodup_boolEntries (must should mustNot filter : List Filter) (minimum : Option Nat) :
    ((boolEntries must should mustNot filter minimum).map Prod.fst).Nodup := by
  show ["must", "should", "must_not", "filter", "minimum_should_match"].Nodup
  decide

theorem Filter.depth_lt {must should mustNot filter parts : List Filter} {minimum : Option Nat}
    {name : String}
    (hparts : (boolEntries must should mustNot filter minimum).lookup name
      = some (unlessEmpty (parts.map Filter.json)))
    {part : Filter} (h : part ∈ parts) :
    part.json.depth < (Filter.bool must should mustNot filter minimum).json.depth := by
  have hlist : unlessEmpty (parts.map Filter.json) = some (.arr (parts.map Filter.json)) := by
    cases parts with
    | nil => cases h
    | cons first rest => rfl
  have hitem := Json.depth_lt_of_mem (@List.mem_map_of_mem _ _ _ _ Filter.json h)
  have hclause := Json.depth_lt_of_lookup
    ((Json.lookup_presentFields (nodup_boolEntries ..) hparts).trans hlist)
  have hcontent := @Json.depth_lt_of_lookup "bool" _
    [("bool", ofPresent (boolEntries must should mustNot filter minimum))] rfl
  rw [Filter.json_bool]
  exact Nat.lt_trans (Nat.lt_trans hitem hclause) hcontent

theorem Filter.depth_pos (filter : Filter) : 0 < filter.json.depth := by
  cases filter <;> (rw [Filter.json, Json.depth]; exact Nat.succ_pos _)

theorem Filter.IsWritable.ofJsonWithin? {filter : Filter} (h : filter.IsWritable) {depth : Nat}
    (hdepth : filter.json.depth <= depth + 1) :
    Filter.ofJsonWithin? (depth + 1) filter.json = some filter := by
  induction h generalizing depth with
  | matchAll => rfl
  | @term fields keys =>
      have hfields : Json.map? some (ofFields fields) = some fields := by
        simpa using @Json.map?_ofFields _ id some fields keys (fun _ _ => rfl)
      rw [Filter.json, Filter.ofJsonWithin?]
      refine bind_of_some rfl (bind_of_some rfl ?_)
      exact bind_of_some hfields rfl
  | @terms fields keys =>
      have hlist : forall values : List Json, Json.list? some (.arr values) = some values := by
        intro values
        show values.mapM some = some values
        simpa using @Json.mapM_map_eq_some _ _ some id values (fun _ _ => rfl)
      rw [Filter.json, Filter.ofJsonWithin?]
      refine bind_of_some rfl (bind_of_some rfl ?_)
      exact bind_of_some (Json.map?_ofFields keys (fun entry _ => hlist entry.2)) rfl
  | @range fields keys bounds =>
      rw [Filter.json, Filter.ofJsonWithin?]
      refine bind_of_some rfl (bind_of_some rfl ?_)
      exact bind_of_some
        (Json.map?_ofFields keys (fun entry hentry => (bounds entry hentry).readsBack.read)) rfl
  | @wildcard fields keys =>
      rw [Filter.json, Filter.ofJsonWithin?]
      refine bind_of_some rfl (bind_of_some rfl ?_)
      exact bind_of_some (Json.map?_ofFields keys (fun _ _ => rfl)) rfl
  | present field => rfl
  | @bool must should mustNot filter minimum hmust hshould hmustNot hfilter hminimum ihMust ihShould
      ihMustNot ihFilter =>
      have hnames := nodup_boolEntries must should mustNot filter minimum
      have hread : forall {name : String} {parts : List Filter},
          (boolEntries must should mustNot filter minimum).lookup name
            = some (unlessEmpty (parts.map Filter.json)) ->
          (forall part, part ∈ parts -> forall {depth : Nat}, part.json.depth <= depth + 1 ->
            Filter.ofJsonWithin? (depth + 1) part.json = some part) ->
          Json.listOrEmpty? (Filter.ofJsonWithin? depth) name
            (presentFields (boolEntries must should mustNot filter minimum)) = some parts := by
        intro name parts hparts ih
        apply listOrEmpty?_presentFields hnames hparts
        intro part hpart
        have hless := Nat.lt_of_lt_of_le (Filter.depth_lt hparts hpart) hdepth
        cases depth with
        | zero => exact absurd (Nat.lt_one_iff.mp hless) (Nat.ne_of_gt part.depth_pos)
        | succ depth => exact ih part hpart (Nat.le_of_lt_succ hless)
      rw [Filter.json_bool, Filter.ofJsonWithin?]
      refine bind_of_some rfl (bind_of_some rfl ?_)
      refine bind_of_some (Json.record?_ofPresent true _ _) ?_
      refine bind_of_some (hread rfl ihMust) ?_
      refine bind_of_some (hread rfl ihShould) ?_
      refine bind_of_some (hread rfl ihMustNot) ?_
      refine bind_of_some (hread rfl ihFilter) ?_
      refine bind_of_some (Json.optional?_presentFields hnames rfl
        (fun n hn => Json.readsBack_natBelow (hminimum n hn))) ?_
      rfl

theorem Filter.IsWritable.readsBack {filter : Filter} (h : filter.IsWritable) :
    ReadsBack Filter.json Filter.ofJson? filter := by
  constructor
  · rw [Filter.ofJson?]
    obtain ⟨depth, hdepth⟩ := Nat.exists_eq_succ_of_ne_zero (Nat.ne_of_gt filter.depth_pos)
    rw [hdepth]
    exact h.ofJsonWithin? (Nat.le_of_eq hdepth)
  · cases h <;> (rw [Filter.json]; rfl)

/-!
# Bodies
-/

/-- Keys of maps ascend, counts fit their words, floats are finite and no bound is `null`. -/
structure Body.IsWritable (body : Body) : Prop where
  query : forall filter, body.query = some filter -> filter.IsWritable
  size : forall n, body.size = some n -> n < 2 ^ 64
  sort : forall sort, body.sort = some sort -> forall entry, entry ∈ sort -> Ascending entry
  aggs_keys : forall aggs, body.aggs = some aggs -> Ascending aggs
  aggs : forall aggs, body.aggs = some aggs -> forall agg, agg ∈ aggs -> agg.2.IsWritable

theorem Body.ofJson_json {body : Body} (h : body.IsWritable) :
    Body.ofJson? body.json = some body := by
  have hnames : ["query", "size", "_source", "sort", "aggs"].Nodup := by decide
  have hother : "aggregations" ∉ ["query", "size", "_source", "sort", "aggs"] := by decide
  refine bind_of_some (Json.record?_ofPresent true _ _) ?_
  refine bind_of_some (Json.optional?_presentFields hnames rfl
    (fun filter hfilter => (h.query filter hfilter).readsBack)) ?_
  refine bind_of_some (Json.optional?_presentFields hnames rfl
    (fun n hn => readsBack_size (h.size n hn))) ?_
  refine bind_of_some (Json.optional?_presentFields hnames rfl
    (fun items _ => readsBack_strings items)) ?_
  refine bind_of_some (Json.optional?_presentFields hnames rfl
    (fun sort hsort => readsBack_sort (h.sort sort hsort))) ?_
  refine bind_of_some (subs?_presentFields hnames hother rfl h.aggs_keys
    (fun aggs haggs agg hagg => (h.aggs aggs haggs agg hagg).ofJsonWithin? (Nat.le_refl _))) ?_
  rfl

/-- Ratings by city, of those who are adult but no pensioners or have no town. -/
def ratedCities : Body :=
  { query := some
      (.bool []
        [ .range [("age", { gte := some (.int 18), lt := some (.float 65.5) })]
        , .bool [] [] [.present "town"] [] none ]
        [] [.terms [("city", [.str "Oslo", .null])]] (some 1))
    size := some 0
    source := some []
    aggs := some
      [ ("city", .node { terms := some { field := "city", order := some [[("rating", .desc)]] } }
          (some
            [ ("rating", .node { avg := some "rating" } none)
            , ("spread",
                .node { percentiles := some { field := "rating", percents := [2.5, 99.9] } }
                  none) ])) ] }

theorem isWritable_ratedCities : ratedCities.IsWritable where
  query := by
    rintro filter ⟨⟩
    have hage : (Filter.range
        [("age", { gte := some (.int 18), lt := some (.float 65.5) })]).IsWritable := by
      apply Filter.IsWritable.range (List.pairwise_singleton _ _)
      rw [List.forall_mem_singleton]
      constructor
      · rintro _ ⟨⟩
        rfl
      · rintro _ ⟨⟩
      · rintro _ ⟨⟩
      · rintro _ ⟨⟩
        rfl
    have htown : (Filter.bool [] [] [.present "town"] [] none).IsWritable := by
      constructor
      · rintro _ ⟨⟩
      · rintro _ ⟨⟩
      · rw [List.forall_mem_singleton]
        exact .present "town"
      · rintro _ ⟨⟩
      · rintro _ ⟨⟩
    constructor
    · rintro _ ⟨⟩
    · rw [List.forall_mem_cons, List.forall_mem_singleton]
      exact ⟨hage, htown⟩
    · rintro _ ⟨⟩
    · rw [List.forall_mem_singleton]
      exact .terms (List.pairwise_singleton _ _)
    · rintro _ ⟨⟩
      decide
  size := by
    rintro _ ⟨⟩
    decide
  sort := by rintro _ ⟨⟩
  aggs_keys := by
    rintro _ ⟨⟩
    exact List.pairwise_singleton _ _
  aggs := by
    rintro _ ⟨⟩
    rw [List.forall_mem_singleton]
    have hterms : Terms.IsWritable { field := "city", order := some [[("rating", .desc)]] } := by
      constructor
      · rintro _ ⟨⟩
      · rintro _ ⟨⟩
        rw [List.forall_mem_singleton]
        exact List.pairwise_singleton _ _
    have hspread : Percentiles.IsWritable { field := "rating", percents := [2.5, 99.9] } := by
      constructor
      rw [List.forall_mem_cons, List.forall_mem_singleton]
      exact ⟨by decide, by decide⟩
    apply Aggregation.IsWritable.node
    · constructor
      case terms =>
        rintro _ ⟨⟩
        exact hterms
      all_goals rintro _ ⟨⟩
    · rintro _ ⟨⟩
      unfold Ascending
      decide
    · rintro _ ⟨⟩
      rw [List.forall_mem_cons, List.forall_mem_singleton]
      constructor
      · apply Aggregation.IsWritable.node
        · constructor <;> rintro _ ⟨⟩
        · rintro _ ⟨⟩
        · rintro _ ⟨⟩
      · apply Aggregation.IsWritable.node
        · constructor
          case percentiles =>
            rintro _ ⟨⟩
            exact hspread
          all_goals rintro _ ⟨⟩
        · rintro _ ⟨⟩
        · rintro _ ⟨⟩

theorem ofJson_json_ratedCities :
    ratedCities.IsWritable ∧ Body.ofJson? ratedCities.json = some ratedCities :=
  ⟨isWritable_ratedCities, Body.ofJson_json isWritable_ratedCities⟩

end Request
end Rollup
