import Rollup.Proofs.Answer.Listing
import Rollup.Proofs.Text.Split

/-!
# Selected fields

A plain query asks for the selected fields only, and the table looks them up in what it
gets. The names stand in the request as wildcard texts, where a backslash does not stand
for itself. A name that is included shows in the table what the whole document has.
-/

namespace Rollup

/-!
# Wildcards that match themselves
-/

namespace Text

theorem wildcardParts_cons {c : Char} (h : c ≠ '\\') (rest : List Char) :
    wildcardParts (c :: rest)
      = (if c = '*' then .many else if c = '?' then .one else .char c) :: wildcardParts rest := by
  by_cases hstar : c = '*'
  · rw [hstar]
    rfl
  by_cases hmark : c = '?'
  · rw [hmark]
    rfl
  rw [wildcardParts, if_neg hstar, if_neg hmark]
  all_goals simp_all

theorem matchParts_many {parts : List WildcardPart} {cs : List Char}
    (h : matchParts parts cs = true) : matchParts (.many :: parts) cs = true := by
  cases cs with
  | nil =>
      rw [matchParts]
      exact h
  | cons d cs =>
      rw [matchParts, h]
      rfl

theorem matchParts_wildcardParts {cs : List Char} (h : '\\' ∉ cs) :
    matchParts (wildcardParts cs) cs = true := by
  induction cs with
  | nil =>
      rw [wildcardParts, matchParts]
      rfl
  | cons c rest ih =>
      rw [List.mem_cons, not_or] at h
      obtain ⟨hc, hrest⟩ := h
      have hmatched := ih hrest
      rw [wildcardParts_cons (Ne.symm hc)]
      by_cases hstar : c = '*'
      · rw [if_pos hstar, matchParts, matchParts_many hmatched, hstar]
        simp
      by_cases hmark : c = '?'
      · rw [if_neg hstar, if_pos hmark, matchParts, hmatched, hmark]
        rfl
      · rw [if_neg hstar, if_neg hmark, matchParts, hmatched, beq_self_eq_true]
        rfl

theorem matchesWildcard_self {text : String} (h : '\\' ∉ text.toList) :
    matchesWildcard text text = true := by
  rw [matchesWildcard_eq]
  exact matchParts_wildcardParts h

end Text

/-!
# Filtered sources
-/

namespace Store

theorem lookup_filter_key {alpha : Type} (keep : String -> Bool) (key : String)
    (fields : List (String × alpha)) :
    (fields.filter (fun entry => keep entry.1)).lookup key
      = if keep key then fields.lookup key else none := by
  induction fields with
  | nil => simp
  | cons entry rest ih =>
      obtain ⟨name, value⟩ := entry
      by_cases hname : key = name
      · subst hname
        cases hkeep : keep key with
        | true => simp [hkeep]
        | false => simp [hkeep, ih]
      · have hskip : forall others : List (String × alpha),
            ((name, value) :: others).lookup key = others.lookup key := by
          intro others
          rw [List.lookup_cons, beq_eq_false_iff_ne.mpr hname]
        rw [hskip, <- ih, List.filter_cons]
        split
        · exact hskip _
        · rfl

theorem field?_filterSource (includes : List String) (key : String) (source : Json) :
    (filterSource includes [] source).field? key
      = if isIncluded includes key then source.field? key else none := by
  cases source with
  | obj fields =>
      have hfiltered : filterSource includes [] (.obj fields)
          = .obj (fields.filter (fun entry => isIncluded includes entry.1)) := by
        refine congrArg Json.obj (List.filter_congr (fun entry _ => ?_))
        exact Bool.and_true _
      rw [hfiltered]
      exact lookup_filter_key (isIncluded includes) key fields
  | _ => exact (ite_self none).symm

theorem isIncluded_parent {includes : List String} {path first second : String}
    {keys : List String} (hmem : path ∈ includes)
    (hsplit : path.splitOn "." = first :: second :: keys) :
    isIncluded includes first = true := by
  have hparent : parentKey? path = some first := by
    rw [parentKey?, hsplit]
  have hcontains : (includes.filterMap parentKey?).contains first = true :=
    List.contains_iff_mem.mpr (List.mem_filterMap.mpr ⟨path, hmem, hparent⟩)
  rw [isIncluded, hcontains, Bool.or_true]

theorem isIncluded_of_no_backslash {includes : List String} {name : String} (hmem : name ∈ includes)
    (h : '\\' ∉ name.toList) : isIncluded includes name = true := by
  have hmatched : includes.any (fun pattern => Text.matchesWildcard pattern name) = true :=
    List.any_eq_true.mpr ⟨name, hmem, Text.matchesWildcard_self h⟩
  rw [isIncluded, hmatched, Bool.or_true, Bool.true_or]

end Store

namespace Answer

open Plan (Column)
open Sql (Statement)
open Store (filterSource isIncluded)

theorem follow_cons (key : String) (keys : List String) (source : Json) :
    follow (key :: keys) source = (source.field? key).bind (follow keys) :=
  rfl

theorem lookupField_filterSource {includes : List String} {path : String} (hmem : path ∈ includes)
    (hincluded : isIncluded includes path = true) (source : Json) :
    lookupField (filterSource includes [] source) path = lookupField source path := by
  have hwhole : (filterSource includes [] source).field? path = source.field? path := by
    rw [Store.field?_filterSource, if_pos hincluded]
  unfold lookupField
  rw [hwhole]
  congr 1
  funext _
  cases hsplit : path.splitOn "." with
  | nil => exact absurd hsplit (Text.splitOn_ne_nil path '.')
  | cons first keys =>
      cases keys with
      | nil =>
          have hsame : first = path := @Text.eq_of_splitOn_eq_singleton path first '.' hsplit
          rw [hsame, follow_cons, follow_cons, hwhole]
      | cons second keys =>
          rw [follow_cons, follow_cons, Store.field?_filterSource,
            if_pos (Store.isIncluded_parent hmem hsplit)]

theorem documentCell_empty (column : Column) : documentCell (.obj []) column = .null := by
  have hnone : lookupField (.obj []) column.field = none := by
    unfold lookupField
    cases hsplit : column.field.splitOn "." with
    | nil => exact absurd hsplit (Text.splitOn_ne_nil column.field '.')
    | cons first keys => rfl
  rw [documentCell, hnone]

/-- A cell shows the whole source's value in every document, if and only if the name of its
field is included. -/
theorem forall_documentCell_iff {includes : List String} {column : Column}
    (hmem : column.field ∈ includes) :
    (forall source, documentCell (filterSource includes [] source) column
        = documentCell source column)
      <-> isIncluded includes column.field = true := by
  constructor
  · intro h
    cases hincluded : isIncluded includes column.field with
    | true => rfl
    | false =>
        -- A document with nothing but the field loses it.
        have hcell := h (.obj [(column.field, .bool true)])
        have hfiltered :
            filterSource includes [] (.obj [(column.field, .bool true)]) = .obj [] := by
          simp [filterSource, hincluded]
        have hshown : documentCell (.obj [(column.field, .bool true)]) column = .bool true := by
          simp [documentCell, lookupField, Json.field?]
        rw [hfiltered, hshown, documentCell_empty] at hcell
        cases hcell
  · intro hincluded source
    rw [documentCell, documentCell, lookupField_filterSource hmem hincluded]

theorem source_of_ofStatement {options : Plan.Options} {statement : Statement} {plan : Plan}
    (hplan : Plan.ofStatement options statement = .ok plan)
    (hplain : statement.isAggregation = false) {column : Column} (hcolumn : column ∈ plan.columns) :
    plan.request.body.source.getD [] = plan.columns.map Column.field := by
  have hcolumns := (Plan.plain_of_ofStatement hplan hplain).right.right
  rcases Plan.exists_sort_of_ofStatement hplan hplain with ⟨sort, _, hrequest⟩
  rw [hrequest, hcolumns]
  cases hstar : statement.select.any Sql.SelectItem.isStar with
  | false => rfl
  | true =>
      rw [hcolumns, Plan.fieldColumns, hstar] at hcolumn
      cases hcolumn

/-- The table of a plain query shows of each document what the whole document has in the
selected fields, if and only if their names are included. That holds of every name without
a backslash. -/
theorem documentCell_selectedField {options : Plan.Options} {statement : Statement} {plan : Plan}
    (hplan : Plan.ofStatement options statement = .ok plan)
    (hplain : statement.isAggregation = false) {column : Column} (hcolumn : column ∈ plan.columns) :
    ((forall source,
        documentCell (filterSource (plan.request.body.source.getD []) [] source) column
          = documentCell source column)
      <-> isIncluded (plan.columns.map Column.field) column.field = true)
    ∧ ('\\' ∉ column.field.toList -> forall source,
        documentCell (filterSource (plan.request.body.source.getD []) [] source) column
          = documentCell source column) := by
  have hmem : column.field ∈ plan.columns.map Column.field := List.mem_map_of_mem hcolumn
  rw [source_of_ofStatement hplan hplain hcolumn]
  refine ⟨forall_documentCell_iff hmem, fun hliteral => ?_⟩
  exact (forall_documentCell_iff hmem).mpr (Store.isIncluded_of_no_backslash hmem hliteral)

def fieldOfPeople (field : String) (label : Option String) : Statement :=
  { source := { index := "people", docType := none }
    select := [.field field label]
    filter := none
    groups := []
    having := none
    order := []
    limit := none }

theorem documentCell_selectedField_homeCity :
    exists plan, Plan.ofStatement {} (fieldOfPeople "home.c*" (some "home")) = .ok plan
      ∧ { name := "home", field := "home.c*" } ∈ plan.columns
      ∧ forall source,
          documentCell (filterSource (plan.request.body.source.getD []) [] source)
              { name := "home", field := "home.c*" }
            = documentCell source { name := "home", field := "home.c*" } := by
  have hok : (Plan.ofStatement {} (fieldOfPeople "home.c*" (some "home"))).isOk = true := by
    decide +kernel
  cases hplan : Plan.ofStatement {} (fieldOfPeople "home.c*" (some "home")) with
  | error e =>
      rw [hplan] at hok
      cases hok
  | ok plan =>
      have hcolumns := (Plan.plain_of_ofStatement hplan rfl).right.right
      have hcolumn : { name := "home", field := "home.c*" } ∈ plan.columns := by
        rw [hcolumns]
        exact List.mem_singleton_self _
      refine ⟨plan, rfl, hcolumn, ?_⟩
      exact (documentCell_selectedField hplan rfl hcolumn).right (by decide)

/-- A backslash in a name takes the character behind it as it is, so that the name is not
included and the field is lost. -/
theorem documentCell_backslash :
    exists plan, Plan.ofStatement {} (fieldOfPeople "a\\b" none) = .ok plan
      ∧ { name := "a\\b", field := "a\\b" } ∈ plan.columns
      ∧ documentCell (.obj [("a\\b", .int 1)]) { name := "a\\b", field := "a\\b" } = .int 1
      ∧ documentCell
          (filterSource (plan.request.body.source.getD []) [] (.obj [("a\\b", .int 1)]))
          { name := "a\\b", field := "a\\b" } = .null := by
  have hok : (Plan.ofStatement {} (fieldOfPeople "a\\b" none)).isOk = true := by decide +kernel
  have hexcluded : isIncluded ["a\\b"] "a\\b" = false := by
    have hsplit : "a\\b".splitOn "." = ["a\\b"] := Text.splitOn_eq_map_ofList "a\\b" '.'
    have hparent : Store.parentKey? "a\\b" = none := by
      rw [Store.parentKey?, hsplit]
    rw [isIncluded, List.filterMap_cons, hparent]
    decide +kernel
  cases hplan : Plan.ofStatement {} (fieldOfPeople "a\\b" none) with
  | error e =>
      rw [hplan] at hok
      cases hok
  | ok plan =>
      have hcolumns := (Plan.plain_of_ofStatement hplan rfl).right.right
      have hcolumn : { name := "a\\b", field := "a\\b" } ∈ plan.columns := by
        rw [hcolumns]
        exact List.mem_singleton_self _
      have hfiltered : filterSource ["a\\b"] [] (.obj [("a\\b", .int 1)]) = .obj [] := by
        simp [filterSource, hexcluded]
      refine ⟨plan, rfl, hcolumn, rfl, ?_⟩
      rw [source_of_ofStatement hplan rfl hcolumn, hcolumns]
      show documentCell (filterSource ["a\\b"] [] (.obj [("a\\b", .int 1)])) _ = .null
      rw [hfiltered, documentCell_empty]

end Answer
end Rollup
