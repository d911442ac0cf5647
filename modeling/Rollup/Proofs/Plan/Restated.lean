import Rollup.Proofs.Plan.Placement
import Rollup.Proofs.Sql.CanonicalName

/-!
# Restated calls

ORDER BY and HAVING can refer to a call of the select list by restating it. The reference
is resolved by the canonical name alone. Where this name cannot be misread, the restated
call and the call that it is resolved to are alike, and have the same measure.
-/

namespace Rollup
namespace Plan

open Sql (AggregateCall ColumnRef Direction Literal OrderItem Statement)

/-- ORDER BY or HAVING refers to a column by this call. -/
def Restates (statement : Statement) (call : AggregateCall) : Prop :=
  (exists item, item ∈ statement.order ∧ item.target = .aggregate call)
    ∨ exists condition threshold, statement.having = some condition
        ∧ threshold ∈ condition.leaves ∧ threshold.target = .aggregate call

/-!
# Measures of calls that are alike
-/

theorem eqIgnoreAsciiCase_of_isNumeral {raw : String} (h : Number.IsNumeral raw.toList)
    (word : String) (hword : 's' ∈ word.toList.map Char.toLower) :
    Text.eqIgnoreAsciiCase raw word = false := by
  have hdigits : forall n, n < 128 -> (Char.ofNat n).isDigit = true ->
      (Char.ofNat n).toLower ≠ 's' := by
    decide +kernel
  rw [Text.eqIgnoreAsciiCase, beq_eq_false_iff_ne]
  intro heq
  rw [<- heq] at hword
  rcases List.mem_map.mp hword with ⟨c, hc, hlower⟩
  rcases h.digit_or_sign hc with hdigit | rfl | rfl
  · have hbounds : 48 <= c.toNat ∧ c.toNat <= 57 := Char.isDigit_iff_toNat.mp hdigit
    exact hdigits c.toNat (by omega) (by simpa using hdigit) (by simpa using hlower)
  · exact absurd hlower (by decide)
  · exact absurd hlower (by decide)

theorem directionOf?_of_isSound {value : Literal} (h : value.IsSound) :
    directionOf? value = Direction.ofKeyword? value.render := by
  cases value with
  | text word => rfl
  | bool value => cases value <;> decide
  | number raw =>
      have hasc := eqIgnoreAsciiCase_of_isNumeral (h raw rfl) "asc" (by decide)
      have hdesc := eqIgnoreAsciiCase_of_isNumeral (h raw rfl) "desc" (by decide)
      rw [Literal.render, Direction.ofKeyword?, hasc, hdesc]
      rfl

theorem hitChoice_congr {parameters others : List (String × Literal)}
    (h : List.Forall₂ (fun own its => own.1 = its.1 ∧ own.2.render = its.2.render)
      parameters others)
    (hsound : forall parameter, parameter ∈ parameters -> parameter.2.IsSound)
    (hsounds : forall parameter, parameter ∈ others -> parameter.2.IsSound) (choice : HitChoice) :
    hitChoice choice parameters = hitChoice choice others := by
  induction h generalizing choice with
  | nil => rfl
  | @cons own its parameters others hsame _ ih =>
      obtain ⟨key, value⟩ := own
      obtain ⟨itsKey, itsValue⟩ := its
      obtain ⟨rfl, hrender⟩ := hsame
      dsimp only at hrender
      have hcount : forall name, hitCount name value = hitCount name itsValue := by
        intro name
        rw [hitCount, hitCount, hrender]
      have hdirection : directionOf? value = directionOf? itsValue := by
        rw [directionOf?_of_isSound (hsound _ List.mem_cons_self),
          directionOf?_of_isSound (hsounds _ List.mem_cons_self), hrender]
      have hrest := ih (fun next hnext => hsound next (List.mem_cons_of_mem _ hnext))
        (fun next hnext => hsounds next (List.mem_cons_of_mem _ hnext))
      unfold hitChoice
      dsimp only
      rw [hdirection, hrender]
      simp only [hcount, hrest]

section

variable {call other : AggregateCall} (h : call.IsAlike other)
  (hsound : forall parameter, parameter ∈ call.parameters -> parameter.2.IsSound)
  (hsounds : forall parameter, parameter ∈ other.parameters -> parameter.2.IsSound)

include h

theorem parameters_bne_nil : (call.parameters != []) = (other.parameters != []) := by
  rw [Bool.eq_iff_iff, bne_iff_ne, bne_iff_ne, <- List.length_pos_iff, <- List.length_pos_iff,
    h.parameters.length_eq]

theorem noExtraArguments_congr (function : Function) :
    noExtraArguments function call = noExtraArguments function other := by
  rw [noExtraArguments, noExtraArguments, parameters_bne_nil h, h.positional]

theorem singleField_congr (function : Function) :
    singleField function call = singleField function other := by
  rw [singleField, singleField, noExtraArguments_congr h, requiredField, requiredField, h.argument]

theorem percentilesKind_congr : percentilesKind call = percentilesKind other := by
  rw [percentilesKind, percentilesKind, requiredField, requiredField, parameters_bne_nil h,
    h.argument, h.positional]

include hsound hsounds

theorem kindOf_congr (function : Function) : kindOf function call = kindOf function other := by
  cases function with
  | count =>
      show countKind call = countKind other
      rw [countKind, countKind, noExtraArguments_congr h, h.argument, h.distinct]
  | percentiles => exact percentilesKind_congr h
  | topHits =>
      show topHitsKind call = topHitsKind other
      rw [topHitsKind, topHitsKind, h.argument, h.positional,
        hitChoice_congr h.parameters hsound hsounds]
  | _ => rw [kindOf, kindOf, singleField_congr h]

theorem measure_of_isAlike {found : Measure} (hother : Plan.measure other = .ok found) :
    Plan.measure call = .ok { found with name := call.displayName } := by
  have hfunction : Function.ofName? call.function = Function.ofName? other.function := by
    unfold Function.ofName?
    rw [h.function]
  unfold Plan.measure at hother ⊢
  rw [hfunction, h.distinct, h.argument]
  cases hname : Function.ofName? other.function with
  | none =>
      rw [hname] at hother
      cases hother
  | some function =>
      rw [hname] at hother
      dsimp only at hother ⊢
      rw [kindOf_congr h hsound hsounds]
      split at hother
      · cases hother
      · rename_i hdistinct
        rw [if_neg hdistinct]
        split at hother
        · cases hother
        · rename_i hstar
          rcases bind_eq_ok_iff.mp hother with ⟨kind, hkind, heq⟩
          cases heq
          rw [if_neg hstar, hkind]
          rfl

end

/-!
# References of a plan
-/

theorem referenced_of_resolveOrder {statement : Statement} {levels : List Level}
    {measures : List Measure} {restated : AggregateCall} {target : OrderTarget}
    (h : resolveOrder statement levels measures (.aggregate restated) = .ok target) :
    exists measure, referencedMeasure? (.aggregate restated) statement.calls measures
      = some measure := by
  unfold resolveOrder at h
  cases hfound : referencedMeasure? (.aggregate restated) statement.calls measures with
  | some measure => exact ⟨measure, rfl⟩
  | none =>
      rw [hfound] at h
      cases h

theorem resolved_of_placeOrder {statement : Statement} {measures : List Measure}
    {items : List OrderItem} {levels placed : List Level}
    (h : placeOrder statement measures levels items = .ok placed) :
    forall item, item ∈ items -> exists levels target,
      resolveOrder statement levels measures item.target = .ok target := by
  induction items generalizing levels with
  | nil => exact fun _ hitem => absurd hitem List.not_mem_nil
  | cons first rest ih =>
      rcases placeOrder_cons_cases h with
        ⟨target, htarget, ⟨_, hrest⟩ | ⟨_, moved, _, _, hrest⟩⟩
      · exact List.forall_mem_cons.mpr ⟨⟨levels, target, htarget⟩, ih hrest⟩
      · exact List.forall_mem_cons.mpr ⟨⟨levels, target, htarget⟩, ih hrest⟩

theorem referenced_of_thresholdTest {calls : List AggregateCall} {measures : List Measure}
    {threshold : Sql.Threshold} {test : Test}
    (h : thresholdTest calls measures threshold = .ok test) :
    exists measure, referencedMeasure? threshold.target calls measures = some measure := by
  unfold thresholdTest at h
  cases hfound : referencedMeasure? threshold.target calls measures with
  | some measure => exact ⟨measure, rfl⟩
  | none =>
      rw [hfound] at h
      cases h

theorem Outline.referenced {options : Options} {statement : Statement}
    (outline : Outline options statement) (hshape : statement.HasShape) {restated : AggregateCall}
    (h : Restates statement restated) :
    (restated.HasShape ∧ restated.label = none)
      ∧ exists measure, referencedMeasure? (.aggregate restated) statement.calls outline.measures
          = some measure := by
  rcases h with ⟨item, hitem, htarget⟩ | ⟨condition, threshold, hhaving, hleaf, htarget⟩
  · have hitemShape := hshape.order item hitem
    rw [htarget] at hitemShape
    refine ⟨hitemShape, ?_⟩
    rcases resolved_of_placeOrder outline.sorted item hitem with ⟨levels, target, hresolved⟩
    rw [htarget] at hresolved
    exact referenced_of_resolveOrder hresolved
  · rcases havingNodes_cases outline.selected with ⟨hnone, _⟩ | ⟨having, _, hsome, hselector, _, _⟩
    · cases hnone.symm.trans hhaving
    · cases hsome.symm.trans hhaving
      rcases bind_eq_ok_iff.mp hselector with ⟨_, htraverse, _⟩
      rcases (hshape.having condition hhaving).wellFormed.of_mem_leaves htraverse threshold hleaf
        with ⟨hthreshold, test, htest⟩
      have htargetShape := hthreshold.target
      rw [htarget] at htargetShape
      refine ⟨htargetShape, ?_⟩
      rcases referenced_of_thresholdTest htest with ⟨measure, hmeasure⟩
      rw [htarget] at hmeasure
      exact ⟨measure, hmeasure⟩

theorem not_restates_of_plain {options : Options} {statement : Statement} {plan : Plan}
    (h : ofStatement options statement = .ok plan) (hplain : statement.isAggregation = false)
    (restated : AggregateCall) : ¬ Restates statement restated := by
  rcases exists_plainPlan h hplain with ⟨_, hnone, sort, hsort, _⟩
  rintro (⟨item, hitem, htarget⟩ | ⟨condition, _, hhaving, _⟩)
  · rcases exists_result_of_mem_mapM hsort hitem with ⟨_, _, hentry⟩
    rw [htarget] at hentry
    cases hentry
  · cases hnone.symm.trans hhaving

theorem hasShape_of_mem_calls {statement : Statement} (h : statement.HasShape)
    {call : AggregateCall} (hcall : call ∈ statement.calls) : call.HasShape := by
  rcases List.mem_filterMap.mp hcall with ⟨item, hitem, hfound⟩
  have hitemShape := h.select item hitem
  cases item with
  | aggregate own =>
      cases hfound
      exact hitemShape
  | star => cases hfound
  | field name label => cases hfound

theorem Outline.measure_resolved {options : Options} {statement : Statement}
    (outline : Outline options statement) (hshape : statement.HasShape) {restated : AggregateCall}
    (h : Restates statement restated) :
    exists call found, referencedCall? (.aggregate restated) statement.calls = some call
      ∧ Plan.measure call = .ok found
      ∧ (restated.IsPlain -> call.IsPlain -> restated.IsAlike call
        ∧ Plan.measure restated = .ok { found with name := restated.canonicalName }) := by
  rcases outline.referenced hshape h with ⟨⟨hown, hlabel⟩, measure, hmeasure⟩
  cases hcall : referencedCall? (.aggregate restated) statement.calls with
  | none =>
      rw [referencedMeasure?, hcall] at hmeasure
      cases hmeasure
  | some call =>
      have hnames := nodup_displayNames outline.checked
      rcases referencedMeasure?_eq hnames outline.measured hcall with ⟨found, hfound, _⟩
      refine ⟨call, found, rfl, hfound, fun hplain hcallPlain => ?_⟩
      rcases referencedCall?_eq_some_iff.mp hcall with ⟨hnamed, before, after, hcalls, _⟩
      have hits : call.HasShape := by
        refine hasShape_of_mem_calls hshape ?_
        rw [hcalls]
        exact List.mem_append_right before List.mem_cons_self
      have halike := AggregateCall.isAlike_of_canonicalName hplain
        (fun value hvalue => (hown.positional value hvalue).left) hcallPlain
        (fun value hvalue => (hits.positional value hvalue).left) hnamed.symm
      have hmeasured := measure_of_isAlike halike hown.parameters hits.parameters hfound
      rw [AggregateCall.displayName, hlabel] at hmeasured
      exact ⟨halike, hmeasured⟩

/-- Every call that ORDER BY or HAVING restates is resolved to a call of the select list. If
neither can be misread, they are alike, and what is restated has the measure of that call. -/
theorem measure_restated {options : Options} {text : String} {plan : Plan}
    (hplan : ofText options text = .ok plan) :
    exists statement, Sql.parse text = .ok statement
      ∧ forall restated, Restates statement restated ->
        exists call found, referencedCall? (.aggregate restated) statement.calls = some call
          ∧ Plan.measure call = .ok found
          ∧ (restated.IsPlain -> call.IsPlain -> restated.IsAlike call
            ∧ Plan.measure restated = .ok { found with name := restated.canonicalName }) := by
  unfold ofText at hplan
  cases hparse : Sql.parse text with
  | error fault =>
      rw [hparse] at hplan
      cases hplan
  | ok statement =>
      rw [hparse] at hplan
      dsimp only at hplan
      have hshape := Sql.ensures_parse Sql.hasShape_statement text statement hparse
      refine ⟨statement, rfl, fun restated hrestates => ?_⟩
      cases haggregation : statement.isAggregation with
      | false => exact absurd hrestates (not_restates_of_plain hplan haggregation restated)
      | true =>
          rcases exists_outline hplan haggregation with ⟨outline, _⟩
          exact outline.measure_resolved hshape hrestates

/-!
# Restated calls that are well and badly resolved
-/

def orderedBy (call restated : AggregateCall) (fields : List String) : Statement :=
  { source := { index := "people", docType := none }
    select := [.aggregate call]
    filter := none
    groups := fields.map .plain
    having := none
    order := [{ target := .aggregate restated, direction := .asc }]
    limit := none }

theorem wellFormed_orderedBy {call restated : AggregateCall} {fields : List String}
    (hcall : call.written.WellFormed) (hrestated : restated.written.WellFormed)
    (hlabel : restated.label = none) (hfields : forall field, field ∈ fields -> Sql.IsName field) :
    (orderedBy call restated fields).WellFormed where
  select_ne_nil := List.cons_ne_nil _ _
  select := List.forall_mem_singleton.mpr hcall
  source :=
    { index := (by decide : Sql.IsName "people")
      docType := fun _ h => (nomatch h) }
  filter := fun _ h => (nomatch h)
  groups := by
    intro term hterm
    rcases List.mem_map.mp hterm with ⟨field, hfield, rfl⟩
    exact hfields field hfield
  having := fun _ h => (nomatch h)
  order := List.forall_mem_singleton.mpr ⟨hrestated, hlabel⟩
  limit := fun _ h => (nomatch h)

def latestTwo (function : String) (size : Literal) (label : Option String) : AggregateCall :=
  { function := function
    argument := none
    distinct := false
    parameters := [("size", size), ("include", .text "name,age"), ("day", .text "desc")]
    positional := []
    label := label }

theorem wellFormed_latestTwo {function : String} (hword : Sql.hasWordShape function.toList = true)
    (hfree : Sql.isReserved function = false) {size : Literal} (hsize : size.WellFormed)
    (label : Option String) : (latestTwo function size label).written.WellFormed where
  word := Sql.isWord_of_hasWordShape hword
  unreserved := hfree
  field := fun _ h => (nomatch h)
  distinct := fun h => (nomatch h)
  named := by
    refine List.forall_mem_cons.mpr ⟨hsize, List.forall_mem_cons.mpr ⟨trivial, ?_⟩⟩
    exact List.forall_mem_singleton.mpr trivial
  positional := fun _ h => (nomatch h)

theorem isPlain_latestTwo {function : String}
    (hfunction : function.toList.all (fun c => decide (c.toNat < 128 ∧ c ≠ '(')) = true)
    {size : Literal}
    (hsize : ',' ∉ size.render.toList) (label : Option String) :
    (latestTwo function size label).IsPlain where
  function := fun c hc => of_decide_eq_true (List.all_eq_true.mp hfunction c hc)
  distinct := fun h => (nomatch h)
  field := fun _ h => (nomatch h)
  parameter := by
    have hkeys : forall key, key ∈ ["size", "include", "day"] ->
        ',' ∉ key.toList ∧ '=' ∉ key.toList := by decide
    have hfields : ("name,age".toList.splitOn ',').tail = [['a', 'g', 'e']] := by decide
    have hage : Sql.Continues ['a', 'g', 'e'] :=
      ⟨by decide, Number.not_isNumeral_of_mem List.mem_cons_self (by decide)⟩
    have hinclude : Sql.IsPlainParameter ("include", .text "name,age") := by
      refine ⟨(hkeys "include" (by decide)).left, (hkeys "include" (by decide)).right, ?_⟩
      show forall piece, piece ∈ ("name,age".toList.splitOn ',').tail -> Sql.Continues piece
      rw [hfields]
      exact List.forall_mem_singleton.mpr hage
    refine List.forall_mem_cons.mpr ⟨?_, List.forall_mem_cons.mpr ⟨hinclude, ?_⟩⟩
    · exact Sql.isPlainParameter_of_notMem (hkeys "size" (by decide)) hsize
    · exact List.forall_mem_singleton.mpr
        (Sql.isPlainParameter_of_notMem (hkeys "day" (by decide)) (by decide))
  positional := fun _ h => (nomatch h)

def selectedTwo : AggregateCall :=
  latestTwo "TOPHITS" (.number "2") (some "latest")

def restatedTwo : AggregateCall :=
  latestTwo "TopHits" (.text "2") none

theorem measure_restated_latestTwo :
    exists plan found, ofText {} (orderedBy selectedTwo restatedTwo []).canonicalText = .ok plan
      ∧ restatedTwo.IsAlike selectedTwo
      ∧ Plan.measure selectedTwo = .ok found
      ∧ Plan.measure restatedTwo
        = .ok { found with name := "TOPHITS(size=2,include=name,age,day=desc)" } := by
  have hnumber : Number.IsNumeral "2".toList := .unsigned (.whole (by decide))
  have hcall : selectedTwo.written.WellFormed :=
    @wellFormed_latestTwo "TOPHITS" rfl rfl (.number "2") hnumber (some "latest")
  have hrestated : restatedTwo.written.WellFormed :=
    @wellFormed_latestTwo "TopHits" rfl rfl (.text "2") trivial none
  have hwell : (orderedBy selectedTwo restatedTwo []).WellFormed :=
    wellFormed_orderedBy hcall hrestated rfl (by rintro field ⟨⟩)
  rcases @Store.exists_canonicalPlan {} _ hwell (by decide +kernel) with ⟨hparse, plan, _, hplan⟩
  rcases measure_restated hplan with ⟨statement, hsame, hall⟩
  cases hparse.symm.trans hsame
  rcases hall restatedTwo (Or.inl ⟨_, List.mem_cons_self, rfl⟩) with
    ⟨call, found, hresolved, hmeasure, halike⟩
  have hselected : referencedCall? (.aggregate restatedTwo)
      (orderedBy selectedTwo restatedTwo []).calls = some selectedTwo := by
    decide +kernel
  cases hresolved.symm.trans hselected
  have hname : restatedTwo.canonicalName = "TOPHITS(size=2,include=name,age,day=desc)" := by
    decide +kernel
  have hplain : restatedTwo.IsPlain :=
    @isPlain_latestTwo "TopHits" (by decide) (.text "2") (by decide) none
  have hplains : selectedTwo.IsPlain :=
    @isPlain_latestTwo "TOPHITS" (by decide) (.number "2") (by decide) (some "latest")
  rcases halike hplain hplains with ⟨hlike, hsameMeasure⟩
  rw [hname] at hsameMeasure
  exact ⟨plan, found, hplan, hlike, hmeasure, hsameMeasure⟩

def countedAges : AggregateCall :=
  { function := "COUNT"
    argument := some (.field "age")
    distinct := true
    parameters := []
    positional := []
    label := some "n" }

/-- A field whose name begins like the argument of `countedAges`. -/
def countedField : AggregateCall :=
  { countedAges with
    argument := some (.field "DISTINCT age")
    distinct := false
    label := none }

theorem wellFormed_countedAges : countedAges.written.WellFormed where
  word := Sql.isWord_of_hasWordShape rfl
  unreserved := rfl
  field := by
    rintro name ⟨⟩
    decide
  distinct := fun _ => ⟨"age", rfl⟩
  named := fun _ h => (nomatch h)
  positional := fun _ h => (nomatch h)

theorem wellFormed_countedField : countedField.written.WellFormed where
  word := Sql.isWord_of_hasWordShape rfl
  unreserved := rfl
  field := by
    rintro name ⟨⟩
    decide
  distinct := fun h => (nomatch h)
  named := fun _ h => (nomatch h)
  positional := fun _ h => (nomatch h)

/-- A count of the values of one field is resolved to a count of the different values of
another. -/
theorem measure_countedField :
    (exists plan, ofText {} (orderedBy countedAges countedField ["city"]).canonicalText = .ok plan)
      ∧ Restates (orderedBy countedAges countedField ["city"]) countedField
      ∧ referencedCall? (.aggregate countedField)
          (orderedBy countedAges countedField ["city"]).calls
        = some countedAges
      ∧ Plan.measure countedAges = .ok { name := "n", kind := .metric (.cardinality "age") }
      ∧ Plan.measure countedField
        = .ok { name := "COUNT(DISTINCT age)", kind := .metric (.valueCount "DISTINCT age") } := by
  have hwell : (orderedBy countedAges countedField ["city"]).WellFormed :=
    wellFormed_orderedBy wellFormed_countedAges wellFormed_countedField rfl
      (List.forall_mem_singleton.mpr (by decide))
  rcases @Store.exists_canonicalPlan {} _ hwell (by decide +kernel) with ⟨_, plan, _, hplan⟩
  exact ⟨⟨plan, hplan⟩, Or.inl ⟨_, List.mem_cons_self, rfl⟩, by decide +kernel, by decide +kernel,
    by decide +kernel⟩

end Plan
end Rollup
