import Rollup.Proofs.Grouping.Leaves
import Rollup.Proofs.Grouping.Planning
import Rollup.Proofs.Selection
import Rollup.Proofs.Sql.RoundTrip
import Rollup.Proofs.Sql.Shape
import Rollup.Proofs.Text.Split

/-!
# The table of a grouped query

A query that groups by plain fields shows one row for each tuple of values that a
document has and of which HAVING holds. Its cells are the measures over exactly the
documents with these values.
-/

namespace Rollup
namespace Store

open Calendar (Instant)
open Request (Aggregation Selector)
open Plan (Column Measure termLevels)
open Sql (Statement)

/-!
# Rows by tuples
-/

def groupRows (measures : List Measure) (keep : List Document -> Bool) (labels : List Json)
    (fields : List String) (docs : List Document) : List (List Json) :=
  ((valueTuples fields docs).filter (fun tuple =>
      keep (groupDocs docs fields (tupleKeys tuple)))).map (fun tuple =>
    labels ++ tuple.map termLabel
      ++ measureCells measures (groupDocs docs fields (tupleKeys tuple)))

section

variable {measures : List Measure} {keep : List Document -> Bool}

theorem groupRows_nil (labels : List Json) (docs : List Document) :
    groupRows measures keep labels [] docs
      = if keep docs then [labels ++ measureCells measures docs] else [] := by
  have hdocs : groupDocs docs [] (tupleKeys []) = docs := groupDocs_nil docs
  unfold groupRows valueTuples
  rw [List.filter_singleton, hdocs]
  cases keep docs with
  | false => rfl
  | true =>
      show [labels ++ [] ++ measureCells measures (groupDocs docs [] (tupleKeys []))] = _
      rw [hdocs, List.append_nil]
      rfl

theorem groupRows_cons (labels : List Json) (field : String) (fields : List String)
    (docs : List Document) :
    groupRows measures keep labels (field :: fields) docs
      = (distinctValues [] (allValues docs field)).flatMap (fun entry =>
          groupRows measures keep (labels ++ [termLabel entry.2]) fields
            (docsWith docs field entry.1)) := by
  unfold groupRows
  rw [valueTuples, List.filter_flatMap, List.map_flatMap]
  refine List.flatMap_congr (fun entry hentry => ?_)
  have hdocs : forall tuple, groupDocs docs (field :: fields) (tupleKeys (entry.2 :: tuple))
      = groupDocs (docsWith docs field entry.1) fields (tupleKeys tuple) := by
    intro tuple
    rw [tupleKeys, List.map_cons, (mem_distinctValues hentry).left, groupDocs_cons]
    rfl
  have hkeep : (fun tuple => keep (groupDocs docs (field :: fields) (tupleKeys tuple)))
        ∘ (fun tuple => entry.2 :: tuple)
      = fun tuple => keep (groupDocs (docsWith docs field entry.1) fields (tupleKeys tuple)) :=
    funext (fun tuple => congrArg keep (hdocs tuple))
  rw [List.filter_map, List.map_map, hkeep]
  refine List.map_congr_left (fun tuple _ => ?_)
  show labels ++ (termLabel entry.2 :: tuple.map termLabel)
    ++ measureCells measures (groupDocs docs (field :: fields) (tupleKeys (entry.2 :: tuple))) = _
  rw [hdocs, List.append_assoc labels [_], List.singleton_append]

end

/-!
# Levels of plain fields
-/

/-- No level has more buckets than the size allows. -/
def Fits (size : Nat) : List String -> List Document -> Prop
  | [], _ => True
  | field :: fields, docs =>
      distinctCount docs field <= size
        ∧ forall entry, entry ∈ distinctValues [] (allValues docs field) ->
            Fits size fields (docsWith docs field entry.1)

instance decidableFits (size : Nat) :
    (fields : List String) -> (docs : List Document) -> Decidable (Fits size fields docs)
  | [], _ => isTrue trivial
  | field :: fields, docs =>
      have := fun docs => decidableFits size fields docs
      inferInstanceAs (Decidable (distinctCount docs field <= size
        ∧ forall entry, entry ∈ distinctValues [] (allValues docs field) ->
            Fits size fields (docsWith docs field entry.1)))

theorem nest_termLevels_cons (leaves : List (String × Aggregation)) (size : Nat) (field : String)
    (fields : List String) :
    Plan.nest leaves (termLevels size (field :: fields))
      = [termsNode field size (Plan.nest leaves (termLevels size fields))] := by
  rfl

theorem namesApart_nest (leaves : List (String × Aggregation)) (size : Nat) {fields : List String}
    (hne : fields ≠ []) (hfields : forall field, field ∈ fields -> field ∉ bucketEntryNames) :
    NamesApart ((Plan.nest leaves (termLevels size fields)).map Prod.fst) := by
  cases fields with
  | nil => exact absurd rfl hne
  | cons field rest =>
      refine ⟨List.nodup_singleton field, fun name hname => ?_⟩
      rw [List.mem_singleton.mp hname]
      exact hfields field List.mem_cons_self

theorem selector_nest (leaves : List (String × Aggregation)) (size : Nat) {fields : List String}
    (hne : fields ≠ []) (sub : String × Aggregation)
    (hsub : sub ∈ Plan.nest leaves (termLevels size fields)) : sub.2.kinds.selector = none := by
  cases fields with
  | nil => exact absurd rfl hne
  | cons field rest =>
      rw [List.mem_singleton.mp hsub]
      rfl

theorem tabulated_nest {now : Instant} {columns : List Column} {size depth : Nat}
    {leaves : List (String × Aggregation)} {measures : List Measure}
    {keep : List Document -> Bool} {all : List Document}
    (hleaf : forall docs, docs.Sublist all -> forall labels : List Json, labels.length = depth ->
      Tabulated now columns labels (fieldMap leaves) docs [labels ++ measureCells measures docs])
    (hnames : NamesApart ((fieldMap leaves).map Prod.fst))
    (hselect : SelectsBy now (fieldMap leaves) keep)
    {fields : List String} (hne : fields ≠ [])
    (hfields : forall field, field ∈ fields -> field ∉ bucketEntryNames)
    {docs : List Document} (hdocs : docs.Sublist all) (hfits : Fits size fields docs)
    {labels : List Json} (hdepth : labels.length + fields.length = depth) :
    Tabulated now columns labels (Plan.nest leaves (termLevels size fields)) docs
      (groupRows measures keep labels fields docs) := by
  induction fields generalizing docs labels with
  | nil => exact absurd rfl hne
  | cons field fields ih =>
      have hrestricted : forall key, (docsWith docs field key).Sublist all :=
        fun key => List.filter_sublist.trans hdocs
      rw [nest_termLevels_cons, groupRows_cons]
      -- HAVING selects among the innermost buckets. The levels around them keep every bucket.
      cases fields with
      | nil =>
          simp only [groupRows_nil]
          refine Tabulated.level hfits.left hnames hselect (fun entry _ => ?_)
          refine hleaf _ (hrestricted entry.1) _ ?_
          rw [List.length_append]
          exact hdepth
      | cons second rest =>
          have hrest : second :: rest ≠ [] := List.cons_ne_nil second rest
          have hothers : forall other, other ∈ second :: rest -> other ∉ bucketEntryNames :=
            fun other hother => hfields other (List.mem_cons_of_mem _ hother)
          have hinner : forall entry, entry ∈ distinctValues [] (allValues docs field) ->
              Tabulated now columns (labels ++ [termLabel entry.2])
                (Plan.nest leaves (termLevels size (second :: rest)))
                (docsWith docs field entry.1)
                (groupRows measures keep (labels ++ [termLabel entry.2]) (second :: rest)
                  (docsWith docs field entry.1)) := by
            intro entry hentry
            refine ih hrest hothers (hrestricted entry.1) (hfits.right entry hentry) ?_
            rw [List.length_append, List.length_singleton, Nat.add_right_comm, Nat.add_assoc]
            exact hdepth
          simpa only [if_true] using Tabulated.level hfits.left
            (namesApart_nest leaves size hrest hothers)
            (selectsBy_of_no_selector (selector_nest leaves size hrest) now) hinner

/-!
# Documents of a statement
-/

/-- The documents that a statement is about: those of the indices for which WHERE holds, and that
have the type of the statement as far as both have one. -/
def selectedDocs (store : Store) (indices : List String) (statement : Statement) :
    List Document :=
  store.docs.filter (fun doc =>
    indices.contains doc.index
      && statement.source.docType.all (fun wanted =>
          doc.docType.all (fun actual => wanted == actual))
      && (match statement.filter with
          | some condition => condition.holds (fun test => decide (Satisfies doc test))
          | none => true))

theorem typeMatches_eq_all (wanted? actual? : Option String) :
    typeMatches wanted? actual?
      = wanted?.all (fun wanted => actual?.all (fun actual => wanted == actual)) := by
  cases wanted? with
  | none => rfl
  | some wanted => cases actual? <;> rfl

theorem select_eq_selectedDocs {statement : Statement} (hsound : statement.IsSound)
    {request : Request.Search} (htype : request.docType = statement.source.docType)
    (hquery : request.body.query = statement.filter.map Plan.conditionFilter) (store : Store)
    (indices : List String) :
    store.select indices request = selectedDocs store indices statement := by
  unfold select selectedDocs
  rw [htype, hquery]
  refine List.filter_congr (fun doc _ => ?_)
  rw [typeMatches_eq_all]
  congr 1
  cases hfilter : statement.filter with
  | none => rfl
  | some condition =>
      have hwell : condition.WellFormed 0 1 (fun _ => True) :=
        (hsound.filter condition hfilter).mono (Nat.zero_le 1) (Nat.le_refl 1) (fun _ h => h)
      show matchesFilter doc (Plan.conditionFilter condition) = _
      rw [matchesFilter_conditionFilter doc hwell]
      congr 1
      funext test
      exact matchesFilter_predicateFilter doc test

theorem select_groupedPlan {statement : Statement} (hsound : statement.IsSound) (store : Store)
    (indices : List String) (size : Nat) (fields : List String) (measures : List Measure)
    (nodes : List (String × Aggregation)) :
    store.select indices (Plan.groupedPlan size statement fields measures nodes).request
      = selectedDocs store indices statement :=
  select_eq_selectedDocs hsound rfl rfl store indices

/-!
# Answers
-/

theorem field?_aggregations {response : Response} {results : List (String × AggregateResult)}
    (h : response.aggregations = some results) :
    response.json.field? "aggregations"
      = some (Json.ofFields (AggregateResult.entriesJson results)) := by
  unfold Response.json
  rw [h]
  refine (field?_ofFields ?_ "aggregations").trans rfl
  show List.Nodup ["took", "timed_out", "hits", "aggregations"]
  decide

theorem read_aggregations {request : Request.Search} {aggs : List (String × Aggregation)}
    (haggs : request.body.aggs = some aggs) {response : Response}
    {results : List (String × AggregateResult)} (h : response.aggregations = some results) :
    Answer.read request response.json
      = ((Answer.readRow (Json.ofFields (AggregateResult.entriesJson results)) aggs).map
          Answer.aggregations).mapError (fun cause => .backend (.malformed cause)) := by
  unfold Answer.read Answer.readWhole
  rw [haggs]
  dsimp only
  rw [field?_aggregations h, Answer.orMalformed, ok_bind]
  cases Answer.readRow (Json.ofFields (AggregateResult.entriesJson results)) aggs <;> rfl

theorem search_of_evaluateAll {store : Store} {request : Request.Search} {indices : List String}
    {aggs : List (String × Aggregation)} {results : List (String × AggregateResult)}
    (h : evaluateAll store.now (store.select indices request) aggs = .ok results)
    (haggs : request.body.aggs = some aggs)
    (hindices : store.resolveIndices request.index = .ok indices) :
    exists response, store.search request = .ok response
      ∧ response.aggregations = some results := by
  unfold search
  rw [hindices, ok_bind, haggs]
  dsimp only [Option.mapM_some]
  rw [h]
  exact ⟨_, rfl, rfl⟩

def havingHolds (statement : Statement) (measures : List Measure) (docs : List Document) : Bool :=
  match statement.having with
  | some having => having.holds (Plan.thresholdHolds statement.calls measures (measureValue docs))
  | none => true

section

variable {statement : Statement} {levels : List Plan.Level} {measures : List Measure}
  {nodes : List (String × Aggregation)}

theorem exists_leafNodes_eq (h : Plan.havingNodes statement levels measures = .ok nodes) :
    exists selector?, measures.map Plan.measureNode ++ nodes = leafNodes measures selector? := by
  rcases Plan.havingNodes_cases h with ⟨_, rfl⟩ | ⟨_, selector, _, _, _, rfl⟩
  · exact ⟨none, rfl⟩
  · exact ⟨some selector, rfl⟩

theorem names_leaves (h : Plan.havingNodes statement levels measures = .ok nodes)
    (hmeasures : Plan.measures statement.calls = .ok measures)
    (hcheck : Plan.checkNames statement.select = .ok ()) :
    ((measures.map Plan.measureNode ++ nodes).map Prod.fst).Nodup
      ∧ forall name, name ∈ (measures.map Plan.measureNode ++ nodes).map Prod.fst ->
          name ∈ statement.calls.map Sql.AggregateCall.displayName ∨ name = Plan.selectorName := by
  have hnames : (measures.map Plan.measureNode).map Prod.fst
      = statement.calls.map Sql.AggregateCall.displayName := by
    rw [<- Plan.names_of_measures hmeasures, List.map_map]
    rfl
  rw [List.map_append, hnames]
  rcases Plan.havingNodes_cases h with ⟨_, rfl⟩ | ⟨_, selector, _, _, hfree, rfl⟩
  · rw [List.map_nil, List.append_nil]
    exact ⟨Plan.nodup_displayNames hcheck, fun name hname => Or.inl hname⟩
  · have hnew : Plan.selectorName ∉ statement.calls.map Sql.AggregateCall.displayName := by
      rw [<- Plan.names_of_measures hmeasures]
      intro hmem
      rcases List.mem_map.mp hmem with ⟨measure, hmeasure, hname⟩
      exact hfree measure hmeasure hname
    constructor
    · refine List.nodup_append.mpr
        ⟨Plan.nodup_displayNames hcheck, List.nodup_singleton _, fun name hname other hother => ?_⟩
      have hother : other = Plan.selectorName := List.mem_singleton.mp hother
      rintro rfl
      exact hnew (hother ▸ hname)
    · intro name hname
      exact (List.mem_append.mp hname).imp_right List.mem_singleton.mp

theorem selectsBy_havingHolds (h : Plan.havingNodes statement levels measures = .ok nodes)
    (hsound : statement.IsSound) {leaves : List (String × Aggregation)}
    (hperm : leaves.Perm (measures.map Plan.measureNode ++ nodes))
    (hnames : (leaves.map Prod.fst).Nodup)
    (hcount : forall having, statement.having = some having -> forall measure,
      RefersTo statement.calls measures having measure -> measure.name = "_count" ->
        measure.kind = .docCount) (now : Instant) :
    SelectsBy now leaves (havingHolds statement measures) := by
  unfold havingHolds
  rcases Plan.havingNodes_cases h with
    ⟨hnone, rfl⟩ | ⟨having, selector, hsome, hselector, _, rfl⟩
  · have hplain : forall sub, sub ∈ leaves -> sub.2.kinds.selector = none := by
      intro sub hsub
      rw [List.append_nil] at hperm
      rcases List.mem_map.mp (hperm.mem_iff.mp hsub) with ⟨measure, _, rfl⟩
      exact selector_ofMetric _
    rw [hnone]
    exact selectsBy_of_no_selector hplain now
  · rw [hsome]
    exact selectsBy_having hperm hnames (hcount having hsome) (hsound.having having hsome) hselector
      now

end

/-!
# Grouped queries
-/

def reservedNames : List String :=
  ["key", "key_as_string", "doc_count", "from", "to", "_count", "_key", "_term"]

theorem not_mem_bucketEntryNames {name : String} (h : name ∉ reservedNames) :
    name ∉ bucketEntryNames :=
  fun hmem => h (List.mem_append_left ["from", "to", "_count", "_key", "_term"] hmem)

theorem tabulated_groupedPlan {statement : Statement} {fields : List String} {size : Nat}
    {levels : List Plan.Level} {measures : List Measure} {nodes : List (String × Aggregation)}
    {docs : List Document} (hsound : statement.IsSound)
    (hcheck : Plan.checkNames statement.select = .ok ())
    (hmeasures : Plan.measures statement.calls = .ok measures)
    (hnodes : Plan.havingNodes statement levels measures = .ok nodes) (hne : fields ≠ [])
    (hreserved : forall name,
      name ∈ fields ++ statement.calls.map Sql.AggregateCall.displayName -> name ∉ reservedNames)
    (hcomputable : forall measure, measure ∈ measures -> Computable docs measure.kind.toMetric)
    (hfits : Fits size fields docs) (now : Instant) :
    Tabulated now (Plan.groupedPlan size statement fields measures nodes).columns []
      (Plan.nest (measures.map Plan.measureNode ++ nodes) (termLevels size fields)) docs
      (groupRows measures (havingHolds statement measures) [] fields docs) := by
  rcases names_leaves hnodes hmeasures hcheck with ⟨hnodup, hnames⟩
  rcases exists_leafNodes_eq hnodes with ⟨selector?, hleaves⟩
  -- The leaves stand in the innermost level in the order of their names.
  have hperm := fieldMap_perm hnodup
  have hsorted := (hperm.map Prod.fst).nodup_iff.mpr hnodup
  have hapart : NamesApart
      ((fieldMap (measures.map Plan.measureNode ++ nodes)).map Prod.fst) := by
    refine ⟨hsorted, fun name hname => ?_⟩
    rcases hnames name ((hperm.map Prod.fst).mem_iff.mp hname) with hcall | rfl
    · exact not_mem_bucketEntryNames (hreserved name (List.mem_append_right fields hcall))
    · decide
  have hcount : forall having, statement.having = some having -> forall measure,
      RefersTo statement.calls measures having measure -> measure.name = "_count" ->
        measure.kind = .docCount := by
    rintro having _ measure ⟨_, _, hreferenced⟩ hname
    have hmeasure := Plan.mem_of_referencedMeasure? hreferenced
    have hcall : measure.name ∈ statement.calls.map Sql.AggregateCall.displayName := by
      rw [<- Plan.names_of_measures hmeasures]
      exact List.mem_map.mpr ⟨measure, hmeasure, rfl⟩
    refine absurd ?_ (hreserved measure.name (List.mem_append_right fields hcall))
    rw [hname]
    decide
  have hfields : forall field, field ∈ fields -> field ∉ bucketEntryNames :=
    fun field hfield =>
      not_mem_bucketEntryNames (hreserved field (List.mem_append_left _ hfield))
  refine tabulated_nest (fun part hpart labels hlabels => ?_) hapart
    (selectsBy_havingHolds hnodes hsound hperm hsorted hcount now) hne hfields
    (List.Sublist.refl docs) hfits (Nat.zero_add fields.length)
  refine tabulated_leaves (hperm.trans (.of_eq hleaves)) hsorted
    (fun measure hmeasure => (hcomputable measure hmeasure).mono hpart) ?_
  exact List.drop_left' (by rw [List.length_map, hlabels])

theorem exists_canonicalPlan {options : Plan.Options} {statement : Statement}
    (hwell : statement.WellFormed) (hok : (Plan.ofStatement options statement).isOk = true) :
    Sql.parse statement.canonicalText = .ok statement
      ∧ exists plan, Plan.ofStatement options statement = .ok plan
        ∧ Plan.ofText options statement.canonicalText = .ok plan := by
  have hparse : Sql.parse statement.canonicalText = .ok statement :=
    Sql.parse_of_spells hwell (Sql.spells_canonicalText hwell)
  refine ⟨hparse, ?_⟩
  cases hplan : Plan.ofStatement options statement with
  | error e =>
      rw [hplan] at hok
      cases hok
  | ok plan =>
      refine ⟨plan, rfl, ?_⟩
      rw [Plan.ofText, hparse]
      exact hplan

/-!
# A query over two fields

Adults are counted by their city and by each of their tags. A tag that one adult of a
city has is not shown.
-/

def sharedTags : Statement :=
  { source := { index := "people", docType := none }
    select :=
      [ .field "city" none
      , .field "tags" none
      , .aggregate
          { function := "COUNT"
            argument := some .star
            distinct := false
            parameters := []
            positional := []
            label := some "n" } ]
    filter := some (.leaf (.compare "age" .gte (.number "18")))
    groups := [.plain "city", .plain "tags"]
    having := some (.leaf { target := .name "n", op := .gt, value := .number "1" })
    order := []
    limit := none }

def person (id city : String) (age : Int) (tags : List Json) : Document :=
  { index := "people"
    docType := none
    id := id
    source := .obj [("age", .int age), ("city", .str city), ("tags", .arr tags)] }

def people : Store :=
  { indices := ["people"]
    docs :=
      [ person "1" "Oslo" 20 [.str "new", .str "vip"]
      , person "2" "Oslo" 30 [.str "vip"]
      , person "3" "Rome" 40 [.str "vip"]
      , person "4" "Oslo" 10 [.str "new"] ] }

theorem isName_city : Sql.IsName "city" := by decide

theorem isName_tags : Sql.IsName "tags" := by decide

theorem groupsBy_sharedTags : Plan.GroupsBy sharedTags ["city", "tags"] :=
  ⟨rfl, by decide, rfl, rfl⟩

theorem wellFormed_countAll (label : String) :
    (Sql.SelectItem.aggregate
      { function := "COUNT"
        argument := some .star
        distinct := false
        parameters := []
        positional := []
        label := some label }).WellFormed where
  word := Sql.isWord_of_hasWordShape (rfl : Sql.hasWordShape "COUNT".toList = true)
  unreserved := (rfl : Sql.isReserved "COUNT" = false)
  field := fun _ hname => by cases hname
  distinct := fun h => by cases h
  named := fun _ hparameter => by cases hparameter
  positional := fun _ hvalue => by cases hvalue

theorem wellFormed_sharedTags : sharedTags.WellFormed where
  select_ne_nil := by decide
  select := by
    unfold sharedTags
    rw [List.forall_mem_cons, List.forall_mem_cons, List.forall_mem_singleton]
    exact ⟨isName_city, isName_tags, wellFormed_countAll "n"⟩
  source := ⟨by decide, fun _ hdocType => by cases hdocType⟩
  filter := by
    intro condition hcondition
    cases hcondition
    exact ⟨.leaf ⟨by decide, .unsigned (.whole (by decide))⟩, by decide⟩
  groups := by
    unfold sharedTags
    rw [List.forall_mem_cons, List.forall_mem_singleton]
    exact ⟨isName_city, isName_tags⟩
  having := by
    intro condition hcondition
    cases hcondition
    exact ⟨.leaf ⟨trivial, .unsigned (.whole (by decide))⟩, by decide⟩
  order := fun _ hitem => by cases hitem
  limit := fun _ hn => by cases hn

theorem parse_sharedTags : Sql.parse sharedTags.canonicalText = .ok sharedTags :=
  Sql.parse_of_spells wellFormed_sharedTags (Sql.spells_canonicalText wellFormed_sharedTags)

theorem splitOn_people : "people".splitOn "," = ["people"] :=
  Text.splitOn_eq_map_ofList "people" ','

theorem resolveIndices_people : people.resolveIndices "people" = .ok ["people"] := by
  unfold resolveIndices patternParts
  rw [splitOn_people]
  decide +kernel

end Store
end Rollup
