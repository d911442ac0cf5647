import Rollup.Proofs.Answer.Mirror
import Rollup.Proofs.Order.Documents

/-!
# Answers to plain queries

A query without groups and measures lists documents: those of which WHERE holds, arranged
by ORDER BY and cut to LIMIT. It shows the fields that are selected of each.
-/

namespace Rollup
namespace Plan

open Sql (ColumnRef Direction OrderItem SelectItem Statement)

/-- The field that a name in ORDER BY stands for: the one that is selected under this alias, or
else the one of this name. -/
inductive StandsFor (items : List SelectItem) (name : String) : String -> Prop
  | aliased {field : String} (h : SelectItem.field field (some name) ∈ items) :
      StandsFor items name field
  | itself (h : forall field, SelectItem.field field (some name) ∉ items) :
      StandsFor items name name

def ListsBy (items : List SelectItem) (item : OrderItem) (key : String × Direction) : Prop :=
  exists name, item.target = .name name ∧ StandsFor items name key.1 ∧ key.2 = item.direction

/-- The keys that a plain query is sorted by. `_doc` and `_score` are no fields. -/
def HasKeys (statement : Statement) (keys : List (String × Direction)) : Prop :=
  exists all, List.Forall₂ (ListsBy statement.select) statement.order all
    ∧ keys = all.filter (fun key => key.1 != "_doc" && key.1 != "_score")

/-- The item takes a key of a document: as the text of a wildcard, or because its path leads
through the key. -/
def takesKey (key : String) : SelectItem -> Bool
  | .star => true
  | .field name _ =>
      Text.matchesWildcard name key
        || (!key.toList.contains '.' && (key.toList ++ ['.']).isPrefixOf name.toList)
  | .aggregate _ => false

def shownSource (statement : Statement) : Json -> Json
  | .obj fields => .obj (fields.filter (fun field => statement.select.any (takesKey field.1)))
  | source => source

/-!
# Plans
-/

theorem exists_sort_of_ofStatement {options : Options} {statement : Statement} {plan : Plan}
    (h : ofStatement options statement = .ok plan)
    (haggregation : statement.isAggregation = false) :
    exists sort, hitSort statement = .ok sort
      ∧ plan.request =
          { index := statement.source.index
            docType := statement.source.docType
            body :=
              { query := statement.filter.map conditionFilter
                size := some (statement.limit.getD options.searchSize)
                source :=
                  if statement.select.any SelectItem.isStar then
                    none
                  else
                    some ((fieldColumns statement.select).map Column.field)
                sort := if sort = [] then none else some sort } } := by
  rcases exists_plainPlan h haggregation with ⟨_, _, sort, hsort, rfl⟩
  exact ⟨sort, hsort, rfl⟩

theorem aliasedField?_cons (field : String) (label? : Option String) (rest : List SelectItem)
    (name : String) :
    aliasedField? (.field field label? :: rest) name
      = if label? = some name then some field else aliasedField? rest name := by
  unfold aliasedField?
  cases label? with
  | none => rfl
  | some label =>
      rw [List.findSome?_cons]
      dsimp only
      by_cases hlabel : label = name
      · rw [if_pos hlabel, if_pos (congrArg some hlabel)]
      · rw [if_neg hlabel, if_neg (fun heq => hlabel (Option.some.inj heq))]

theorem mem_of_aliasedField? {items : List SelectItem} {name field : String}
    (h : aliasedField? items name = some field) : SelectItem.field field (some name) ∈ items := by
  induction items with
  | nil => cases h
  | cons item rest ih =>
      cases item with
      | field found label? =>
          rw [aliasedField?_cons] at h
          split at h
          · rename_i hlabel
            cases h
            rw [hlabel]
            exact List.mem_cons_self
          · exact List.mem_cons_of_mem _ (ih h)
      | _ => exact List.mem_cons_of_mem _ (ih h)

theorem notMem_of_aliasedField? {items : List SelectItem} {name : String}
    (h : aliasedField? items name = none) (field : String) :
    SelectItem.field field (some name) ∉ items := by
  intro hmem
  have hfound := List.findSome?_eq_none_iff.mp h _ hmem
  dsimp only at hfound
  rw [if_pos rfl] at hfound
  cases hfound

theorem standsFor_orderField (items : List SelectItem) (name : String) :
    StandsFor items name (orderField items name) := by
  unfold orderField
  cases hfield : aliasedField? items name with
  | some field => exact .aliased (mem_of_aliasedField? hfield)
  | none => exact .itself (notMem_of_aliasedField? hfield)

theorem hasKeys_of_hitSort {statement : Statement} {sort : List Request.SortEntry}
    (h : hitSort statement = .ok sort) : HasKeys statement (Store.sortKeys sort) := by
  refine ⟨sort.flatten, ?_, rfl⟩
  have hitems := mapM_eq_ok_iff.mp h
  clear h
  generalize statement.order = items at hitems
  induction hitems with
  | nil => exact .nil
  | @cons item entry rest entries hitem _ ih =>
      obtain ⟨target, direction⟩ := item
      cases target with
      | name text =>
          cases hitem
          exact .cons ⟨text, rfl, standsFor_orderField statement.select text, rfl⟩ ih
      | aggregate call => cases hitem

def fieldName? : SelectItem -> Option String
  | .field name _ => some name
  | _ => none

theorem fields_fieldColumns {items : List SelectItem} (h : items.any SelectItem.isStar = false) :
    (fieldColumns items).map Column.field = items.filterMap fieldName? := by
  rw [fieldColumns, h, if_neg Bool.false_ne_true, List.map_filterMap]
  apply List.filterMap_congr
  intro item _
  cases item <;> rfl

end Plan

namespace Store

open Plan (HasKeys fieldName? shownSource takesKey)
open Sql (Direction SelectItem Statement)

/-!
# Selected keys
-/

theorem parentKey?_eq_none {path : String} (h : '.' ∉ path.toList) : parentKey? path = none := by
  have hpieces : path.splitOn "." = [path] := by
    rw [Text.splitOn_eq_map_ofList path '.', List.splitOn_eq_singleton h]
    simp
  rw [parentKey?, hpieces]

theorem parentKey?_eq_some {path : String} {before behind : List Char}
    (hpath : path.toList = before ++ '.' :: behind) (hbefore : '.' ∉ before) :
    parentKey? path = some (String.ofList before) := by
  have hpieces : path.splitOn "."
      = String.ofList before :: (behind.splitOn '.').map String.ofList := by
    rw [Text.splitOn_eq_map_ofList path '.', hpath, List.splitOn_append_cons_self,
      List.splitOn_eq_singleton hbefore]
    rfl
  rw [parentKey?, hpieces]
  cases hrest : behind.splitOn '.' with
  | nil => exact absurd hrest (List.splitOn_ne_nil _ _)
  | cons first rest => rfl

/-- A path leads through the key that stands before its first point. -/
theorem parentKey?_eq_some_iff {path key : String} :
    parentKey? path = some key
      <-> '.' ∉ key.toList ∧ (key.toList ++ ['.']) <+: path.toList := by
  by_cases hmem : '.' ∈ path.toList
  · rcases List.eq_append_cons_of_mem hmem with ⟨before, behind, hpath, hbefore⟩
    rw [parentKey?_eq_some hpath hbefore]
    constructor
    · intro h
      cases h
      rw [String.toList_ofList]
      exact ⟨hbefore, behind, by rw [hpath]; simp⟩
    · rintro ⟨hkey, rest, hrest⟩
      rw [hpath, List.append_assoc, List.singleton_append] at hrest
      rw [(Text.append_cons_inj hkey hbefore hrest).left.symm, String.ofList_toList]
  · rw [parentKey?_eq_none hmem]
    constructor
    · intro h
      cases h
    · rintro ⟨_, hstart⟩
      exact absurd (hstart.subset (List.mem_append_right _ List.mem_cons_self)) hmem

theorem takesKey_field_iff {key name : String} {label? : Option String} :
    takesKey key (.field name label?) = true
      <-> Text.matchesWildcard name key = true ∨ parentKey? name = some key := by
  rw [parentKey?_eq_some_iff, takesKey]
  simp

theorem isIncluded_iff {names : List String} (h : names ≠ []) {key : String} :
    isIncluded names key = true
      <-> exists name, name ∈ names
        ∧ (Text.matchesWildcard name key = true ∨ parentKey? name = some key) := by
  have hfilled : names.isEmpty = false := List.isEmpty_eq_false_iff.mpr h
  rw [isIncluded, hfilled]
  simp only [Bool.false_or, Bool.or_eq_true, List.any_eq_true, List.contains_iff_mem,
    List.mem_filterMap, and_or_left, exists_or]

theorem isIncluded_fieldNames {items : List SelectItem} (hne : items ≠ [])
    (hfields : forall item, item ∈ items -> exists name label?, item = .field name label?)
    (key : String) :
    isIncluded (items.filterMap fieldName?) key = items.any (takesKey key) := by
  have hnames : items.filterMap fieldName? ≠ [] := by
    cases items with
    | nil => exact absurd rfl hne
    | cons item rest =>
        rcases hfields item List.mem_cons_self with ⟨name, label?, rfl⟩
        exact List.cons_ne_nil _ _
  rw [Bool.eq_iff_iff, isIncluded_iff hnames, List.any_eq_true]
  constructor
  · rintro ⟨name, hname, htaken⟩
    rcases List.mem_filterMap.mp hname with ⟨item, hitem, hfield⟩
    rcases hfields item hitem with ⟨found, label?, rfl⟩
    cases hfield
    exact ⟨_, hitem, takesKey_field_iff.mpr htaken⟩
  · rintro ⟨item, hitem, htaken⟩
    rcases hfields item hitem with ⟨name, label?, rfl⟩
    exact ⟨name, List.mem_filterMap.mpr ⟨_, hitem, rfl⟩, takesKey_field_iff.mp htaken⟩

/-!
# Listing documents
-/

theorem filterSource_nil (source : Json) : filterSource [] [] source = source := by
  cases source with
  | obj fields => exact congrArg Json.obj (List.filter_eq_self.mpr (fun _ _ => rfl))
  | _ => rfl

theorem sourceOf_hit (doc : Document) (includes excludes : List String) :
    Answer.sourceOf (doc.hit includes excludes) = filterSource includes excludes doc.source := by
  unfold Answer.sourceOf Document.hit
  cases doc.docType with
  | none =>
      rw [field?_ofFields]
      · rfl
      · show List.Nodup ["_index", "_id", "_score", "_source"]
        decide
  | some name =>
      rw [field?_ofFields]
      · rfl
      · show List.Nodup ["_index", "_id", "_score", "_source", "_type"]
        decide

def arrangedDocs (sort : Option (List Request.SortEntry)) (docs : List Document) : List Document :=
  match sort with
  | some entries => sortDocuments entries docs
  | none => docs

theorem answer_of_no_aggregations {store : Store} {plan : Plan} {indices : List String}
    (haggs : plan.request.body.aggs = none)
    (hindices : store.resolveIndices plan.request.index = .ok indices) :
    store.answer plan = .ok (.hits
      { total := (store.select indices plan.request).length
        sources :=
          ((arrangedDocs plan.request.body.sort (store.select indices plan.request)).take
            (plan.request.body.size.getD defaultHitSize)).map (fun doc =>
              filterSource (plan.request.body.source.getD []) [] doc.source) }) := by
  unfold answer search
  rw [hindices, ok_bind, haggs]
  show Answer.read plan.request (Response.json _) = _
  rw [Answer.read_hits haggs, List.map_map]
  simp only [Function.comp_def, sourceOf_hit]
  rfl

theorem sortDocuments_nil (docs : List Document) : sortDocuments [] docs = docs := by
  rw [sortDocuments_eq_mergeSort]
  apply List.mergeSort_of_pairwise
  exact List.pairwise_of_forall (fun _ _ => rfl)

theorem fields_of_plain {statement : Statement} (hplain : statement.isAggregation = false)
    (hstar : statement.select.any SelectItem.isStar = false) {item : SelectItem}
    (h : item ∈ statement.select) : exists name label?, item = .field name label? := by
  cases item with
  | field name label? => exact ⟨name, label?, rfl⟩
  | star => exact absurd rfl (List.any_eq_false.mp hstar _ h)
  | aggregate call =>
      have hcall : call ∈ statement.calls := List.mem_filterMap.mpr ⟨_, h, rfl⟩
      rw [Statement.isAggregation, Bool.or_eq_false_iff, bne_eq_false_iff_eq,
        bne_eq_false_iff_eq] at hplain
      rw [hplain.right] at hcall
      cases hcall

theorem filterSource_shown {statement : Statement} (hplain : statement.isAggregation = false)
    (hne : statement.select ≠ []) (source : Json) :
    filterSource
        ((if statement.select.any SelectItem.isStar then
            none
          else
            some ((Plan.fieldColumns statement.select).map Plan.Column.field)).getD [])
        [] source
      = shownSource statement source := by
  cases hstar : statement.select.any SelectItem.isStar with
  | true =>
      refine (filterSource_nil source).trans ?_
      rcases List.any_eq_true.mp hstar with ⟨item, hitem, hisStar⟩
      cases source with
      | obj fields =>
          refine congrArg Json.obj (List.filter_eq_self.mpr ?_).symm
          intro field _
          refine List.any_eq_true.mpr ⟨item, hitem, ?_⟩
          cases item with
          | star => rfl
          | _ => cases hisStar
      | _ => rfl
  | false =>
      have hfields := fun item (hitem : item ∈ statement.select) =>
        fields_of_plain hplain hstar hitem
      rw [if_neg Bool.false_ne_true, Option.getD_some, Plan.fields_fieldColumns hstar]
      cases source with
      | obj fields =>
          refine congrArg Json.obj (List.filter_congr ?_)
          rintro ⟨key, value⟩ _
          dsimp only
          rw [isIncluded_fieldNames hne hfields, isExcluded, List.any_nil, Bool.not_false,
            Bool.and_true]
      | _ => rfl

/-- A plain query finds the documents of its indices and type for which WHERE holds. It lists
the first of them, as arranged by ORDER BY, with the selected fields. -/
theorem answer_plainQuery {store : Store} {options : Plan.Options} {text : String}
    {statement : Statement} {plan : Plan} {indices : List String}
    (hparse : Sql.parse text = .ok statement) (hplan : Plan.ofText options text = .ok plan)
    (hplain : statement.isAggregation = false)
    (hindices : store.resolveIndices statement.source.index = .ok indices)
    (hfinite : forall doc, doc ∈ store.docs -> doc.source.isFinite = true) :
    exists keys arranged, HasKeys statement keys
        ∧ IsArranged keys (selectedDocs store indices statement) arranged
        ∧ store.answer plan = .ok (.hits
            { total := (selectedDocs store indices statement).length
              sources :=
                (arranged.take (min (statement.limit.getD options.searchSize)
                  (selectedDocs store indices statement).length)).map (fun entry =>
                    shownSource statement entry.1.source) }) := by
  have hsound : statement.IsSound := Sql.isSound_parse statement hparse
  have hshape := Sql.ensures_parse Sql.hasShape_statement text statement hparse
  have hstatement : Plan.ofStatement options statement = .ok plan := by
    rw [Plan.ofText, hparse] at hplan
    exact hplan
  rcases Plan.exists_sort_of_ofStatement hstatement hplain with ⟨sort, hsort, hrequest⟩
  have hdocs : store.select indices plan.request = selectedDocs store indices statement :=
    select_eq_selectedDocs hsound (by rw [hrequest]) (by rw [hrequest]) store indices
  have hselected : forall doc, doc ∈ selectedDocs store indices statement ->
      doc.source.isFinite = true :=
    fun doc hdoc => hfinite doc (List.mem_of_mem_filter hdoc)
  rcases isArranged_sortDocuments sort hselected with ⟨arranged, harranged, hsorted⟩
  refine ⟨_, arranged, Plan.hasKeys_of_hitSort hsort, harranged, ?_⟩
  have hlisted : arrangedDocs plan.request.body.sort (selectedDocs store indices statement)
      = arranged.map Prod.fst := by
    rw [hrequest, <- hsorted]
    by_cases hnil : sort = []
    · rw [hnil]
      exact (sortDocuments_nil _).symm
    · show arrangedDocs (if sort = [] then none else some sort) _ = _
      rw [if_neg hnil]
      rfl
  have hlength : arranged.length = (selectedDocs store indices statement).length := by
    rw [harranged.perm.length_eq, List.length_zipIdx]
  have haggs : plan.request.body.aggs = none := by rw [hrequest]
  have hsize : plan.request.body.size = some (statement.limit.getD options.searchSize) := by
    rw [hrequest]
  have hindex : store.resolveIndices plan.request.index = .ok indices := by
    rw [hrequest]
    exact hindices
  have hshown : forall source : Json,
      filterSource (plan.request.body.source.getD []) [] source = shownSource statement source := by
    rw [hrequest]
    exact filterSource_shown hplain hshape.select_ne_nil
  simp only [answer_of_no_aggregations haggs hindex, hdocs, hlisted, hsize, hshown,
    <- List.map_take, List.map_map, Option.getD_some, <- hlength, <- List.take_eq_take_min]
  rfl

def adultsByCity : Statement :=
  { source := { index := "people", docType := some "guest" }
    select := [.field "city" none, .field "age" (some "years")]
    filter := some (.leaf (.compare "age" .gte (.number "18")))
    groups := []
    having := none
    order :=
      [ { target := .name "city", direction := .desc }
      , { target := .name "years", direction := .asc } ]
    limit := some 2 }

theorem wellFormed_adultsByCity : adultsByCity.WellFormed where
  select_ne_nil := by decide
  select := by
    unfold adultsByCity
    rw [List.forall_mem_cons, List.forall_mem_singleton]
    exact ⟨isName_city, (by decide : Sql.IsName "age")⟩
  source := by
    refine ⟨by decide, ?_⟩
    intro docType hdocType
    cases hdocType
    decide
  filter := by
    intro condition hcondition
    cases hcondition
    exact ⟨.leaf ⟨by decide, .unsigned (.whole (by decide))⟩, by decide⟩
  groups := fun _ hterm => by cases hterm
  having := fun _ hcondition => by cases hcondition
  order := by
    unfold adultsByCity
    rw [List.forall_mem_cons, List.forall_mem_singleton]
    exact ⟨trivial, trivial⟩
  limit := by
    intro n hn
    cases hn
    decide

def guest (id city : String) (age : Int) : Document :=
  { person id city age [.str "vip"] with docType := some "guest" }

def hotel : Store :=
  { people with
    docs :=
      [ guest "1" "Oslo" 30
      , { guest "2" "Rome" 50 with docType := some "staff" }
      , guest "3" "Oslo" 20
      , person "4" "Rome" 40 []
      , guest "5" "Rome" 10 ] }

theorem selectedDocs_hotel :
    selectedDocs hotel ["people"] adultsByCity
      = [guest "1" "Oslo" 30, guest "3" "Oslo" 20, person "4" "Rome" 40 []] := by
  rw [selectedDocs, hotel, List.filter_cons_of_pos (by decide +kernel),
    List.filter_cons_of_neg (by decide +kernel), List.filter_cons_of_pos (by decide +kernel),
    List.filter_cons_of_pos (by decide +kernel), List.filter_cons_of_neg (by decide +kernel),
    List.filter_nil]

theorem standsFor_city {field : String} (h : Plan.StandsFor adultsByCity.select "city" field) :
    field = "city" := by
  cases h with
  | aliased h => simp [adultsByCity] at h
  | itself _ => rfl

theorem standsFor_years {field : String} (h : Plan.StandsFor adultsByCity.select "years" field) :
    field = "age" := by
  cases h with
  | aliased h => simpa [adultsByCity] using h
  | itself h => exact absurd (by simp [adultsByCity]) (h "age")

theorem eq_of_hasKeys_adultsByCity {keys : List (String × Direction)}
    (h : HasKeys adultsByCity keys) : keys = [("city", .desc), ("age", .asc)] := by
  rcases h with ⟨all, hall, rfl⟩
  rcases List.forall₂_cons_left_iff.mp hall with ⟨⟨first, _⟩, others, hfirst, hothers, rfl⟩
  rcases List.forall₂_cons_left_iff.mp hothers with ⟨⟨second, _⟩, none, hsecond, hnone, rfl⟩
  rcases hfirst with ⟨_, hcity, hfirst, rfl⟩
  rcases hsecond with ⟨_, hyears, hsecond, rfl⟩
  cases hnone
  cases hcity
  cases hyears
  cases standsFor_city hfirst
  cases standsFor_years hsecond
  rfl

theorem isArranged_hotel :
    IsArranged [("city", .desc), ("age", .asc)] (selectedDocs hotel ["people"] adultsByCity)
      [(person "4" "Rome" 40 [], 2), (guest "3" "Oslo" 20, 1), (guest "1" "Oslo" 30, 0)] where
  perm := by
    rw [selectedDocs_hotel]
    exact List.reverse_perm
      [(guest "1" "Oslo" 30, 0), (guest "3" "Oslo" 20, 1), (person "4" "Rome" 40 [], 2)]
  sorted := by
    rw [List.pairwise_cons, List.pairwise_cons, List.forall_mem_cons, List.forall_mem_singleton,
      List.forall_mem_singleton]
    refine ⟨⟨Or.inl ?_, Or.inl ?_⟩, Or.inl ?_, List.pairwise_singleton _ _⟩
    · exact precedes_of_compareDocuments (by decide) (by decide) (by decide +kernel)
    · exact precedes_of_compareDocuments (by decide) (by decide) (by decide +kernel)
    · exact precedes_of_compareDocuments (by decide) (by decide) (by decide +kernel)

theorem answer_plainQuery_adultsByCity :
    exists plan, Plan.ofText {} adultsByCity.canonicalText = .ok plan
      ∧ hotel.answer plan = .ok (.hits
          { total := 3
            sources :=
              [ .obj [("age", .int 40), ("city", .str "Rome")]
              , .obj [("age", .int 20), ("city", .str "Oslo")] ] }) := by
  rcases @exists_canonicalPlan {} _ wellFormed_adultsByCity (by decide +kernel) with
    ⟨hparse, plan, _, hplan⟩
  have hfinite : forall doc, doc ∈ hotel.docs -> doc.source.isFinite = true := by decide +kernel
  have hindices : hotel.resolveIndices "people" = .ok ["people"] := resolveIndices_people
  rcases answer_plainQuery hparse hplan rfl hindices hfinite with
    ⟨keys, arranged, hkeys, harranged, hanswer⟩
  rw [eq_of_hasKeys_adultsByCity hkeys] at harranged
  have hselected : forall doc, doc ∈ selectedDocs hotel ["people"] adultsByCity ->
      doc.source.isFinite = true :=
    fun doc hdoc => hfinite doc (List.mem_of_mem_filter hdoc)
  rw [harranged.unique hselected isArranged_hotel, selectedDocs_hotel] at hanswer
  exact ⟨plan, hplan, hanswer⟩

end Store
end Rollup
