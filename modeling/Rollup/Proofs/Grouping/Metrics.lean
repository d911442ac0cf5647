import Mathlib.Data.List.Flatten
import Rollup.Client
import Rollup.Proofs.FieldMap
import Rollup.Proofs.Number.Places
import Rollup.Proofs.Outcome

/-!
# Metrics and their cells

The result of a metric is written as JSON, read back and shown in a cell. What the cell
shows is the result itself.
-/

namespace Rollup
namespace Store

open Request (Kinds Metric)

/-- The cell that shows a result. Statistics without a finite sum show the sum zero. -/
def metricCell : MetricResult -> Json
  | .count value => Answer.numberCell (Float.ofNat value)
  | .number value => Answer.numberCell? value
  | .stats value =>
      Json.ofFields
        [ ("count", .ofNat value.count)
        , ("min", Answer.numberCell? value.min)
        , ("max", Answer.numberCell? value.max)
        , ("avg", Answer.numberCell? value.avg)
        , ("sum", Answer.numberCell (value.sum.getD 0)) ]
  | .percentiles values =>
      Json.ofFields (values.map (fun (name, x) => (name, Answer.numberCell? x)))
  | .hits _ listed => .arr (listed.map Answer.sourceOf)

/-!
# Finite numbers
-/

/-- Numbers that may be missing, but are finite where they are there. -/
def FiniteOption (value : Option Float) : Prop :=
  forall x, value = some x -> x.isFinite = true

theorem finiteOption_finite? (x : Float) : FiniteOption (finite? x) := by
  intro y hy
  unfold finite? at hy
  split at hy
  · rename_i hfinite
    cases hy
    exact hfinite
  · cases hy

theorem finiteOption_bind (value : Option Float) : FiniteOption (value.bind finite?) := by
  cases value with
  | none => exact fun _ h => (nomatch h)
  | some x => exact finiteOption_finite? x

theorem ofFloat?_some {x : Float} (h : x.isFinite = true) : Json.ofFloat? (some x) = .float x :=
  if_pos h

theorem toFloat?_ofFloat? {value : Option Float} (h : FiniteOption value) :
    (Json.ofFloat? value).toFloat? = value := by
  cases value with
  | none => rfl
  | some x => rw [ofFloat?_some (h x rfl)]; rfl

def MetricResult.IsFinite : MetricResult -> Prop
  | .number value => FiniteOption value
  | .stats value =>
      FiniteOption value.min ∧ FiniteOption value.max ∧ FiniteOption value.avg
        ∧ FiniteOption value.sum
  | .percentiles values =>
      Ascending values ∧ forall entry, entry ∈ values -> FiniteOption entry.2
  | _ => True

theorem isFinite_percentiles {docs : List Document} {spec : Request.Percentiles}
    {result : MetricResult} (h : percentiles docs spec = .ok result) : result.IsFinite := by
  rcases bind_eq_ok_iff.mp h with ⟨entries, hentries, heq⟩
  cases heq
  refine ⟨ascending_fieldMap entries, fun entry hentry => ?_⟩
  rcases exists_of_mem_mapM hentries (mem_fieldMap hentry) with ⟨percent, _, hpercent⟩
  rcases bind_eq_ok_iff.mp hpercent with ⟨value, _, heq⟩
  cases heq
  exact finiteOption_bind value

theorem isFinite_of_evaluateMetric {metric : Metric} {docs : List Document}
    {result : MetricResult} (h : evaluateMetric metric docs = .ok result) : result.IsFinite := by
  cases metric with
  | valueCount field => cases h; trivial
  | cardinality field => cases h; trivial
  | sum field => cases h; exact finiteOption_finite? _
  | min field => cases h; exact finiteOption_bind _
  | max field => cases h; exact finiteOption_bind _
  | avg field => cases h; exact finiteOption_bind _
  | stats field =>
      cases h
      exact ⟨finiteOption_bind _, finiteOption_bind _, finiteOption_bind _, finiteOption_finite? _⟩
  | percentiles spec => exact isFinite_percentiles h
  | topHits spec => cases h; trivial

/-!
# Reading back
-/

def shownValue : MetricResult -> Answer.Value
  | .count value => .number (Float.ofNat value)
  | .number (some x) => .number x
  | .number none => .missing
  | .stats value =>
      .stats
        { count := value.count
          min := value.min
          max := value.max
          avg := value.avg
          sum := value.sum.getD 0 }
  | .percentiles values => .percentiles values
  | .hits _ listed => .hits (listed.map Answer.sourceOf)

theorem cell_shownValue (result : MetricResult) :
    (shownValue result).cell = metricCell result := by
  cases result with
  | number value => cases value <;> rfl
  | _ => rfl

theorem readNumber_count (name : String) (value : Nat) :
    Answer.readNumber name (MetricResult.count value).json
      = .ok (shownValue (.count value)) :=
  rfl

theorem readNumber_number (name : String) {value : Option Float} (h : FiniteOption value) :
    Answer.readNumber name (MetricResult.number value).json
      = .ok (shownValue (.number value)) := by
  cases value with
  | none => rfl
  | some x =>
      show Answer.readNumber name (.obj [("value", Json.ofFloat? (some x))]) = _
      rw [ofFloat?_some (h x rfl)]
      rfl

theorem floatAt_ofFloat? {key : String} {raw : Json} {value : Option Float}
    (h : FiniteOption value) (hraw : raw.field? key = some (Json.ofFloat? value)) :
    Answer.floatAt key raw = value := by
  rw [Answer.floatAt, hraw]
  exact toFloat?_ofFloat? h

theorem readStats_stats (name : String) {value : Stats}
    (h : (MetricResult.stats value).IsFinite) :
    Answer.readStats name (MetricResult.stats value).json
      = .ok (shownValue (.stats value)) := by
  rcases h with ⟨hmin, hmax, havg, hsum⟩
  have hfield : forall key, (MetricResult.stats value).json.field? key
      = List.lookup key
        [ ("count", Json.ofNat value.count)
        , ("min", Json.ofFloat? value.min)
        , ("max", Json.ofFloat? value.max)
        , ("avg", Json.ofFloat? value.avg)
        , ("sum", Json.ofFloat? value.sum) ] := by
    intro key
    rw [MetricResult.json, field?_ofFields]
    show List.Nodup ["count", "min", "max", "avg", "sum"]
    decide
  have hcount : ((MetricResult.stats value).json.field? "count").bind Json.toNat?
      = some value.count := by
    rw [hfield]
    rfl
  unfold Answer.readStats
  rw [hcount, floatAt_ofFloat? hmin (hfield "min"), floatAt_ofFloat? hmax (hfield "max"),
    floatAt_ofFloat? havg (hfield "avg"), floatAt_ofFloat? hsum (hfield "sum")]
  rfl

theorem readPercentiles_percentiles (name : String) {values : List (String × Option Float)}
    (h : (MetricResult.percentiles values).IsFinite) :
    Answer.readPercentiles name (MetricResult.percentiles values).json
      = .ok (shownValue (.percentiles values)) := by
  rcases h with ⟨hascending, hfinite⟩
  have hwritten : fieldMap (values.map (fun entry => (entry.1, Json.ofFloat? entry.2)))
      = values.map (fun entry => (entry.1, Json.ofFloat? entry.2)) := by
    rw [fieldMap_map_snd, hascending.fieldMap_eq]
  have hread : (values.map (fun entry => (entry.1, Json.ofFloat? entry.2))).map
      (fun entry => (entry.1, entry.2.toFloat?)) = values := by
    rw [List.map_map]
    refine (List.map_congr_left (fun entry hentry => ?_)).trans (List.map_id values)
    show (entry.1, (Json.ofFloat? entry.2).toFloat?) = entry
    rw [toFloat?_ofFloat? (hfinite entry hentry)]
  show Except.ok (Answer.Value.percentiles
    ((fieldMap (values.map (fun entry => (entry.1, Json.ofFloat? entry.2)))).map
      (fun entry => (entry.1, entry.2.toFloat?)))) = _
  rw [hwritten, hread]
  rfl

theorem field?_hitsJson (total : Nat) (listed : List Json) (key : String) :
    (MetricResult.hitsJson total listed).field? key
      = List.lookup key
        [ ("total", Json.ofFields [("value", .ofNat total), ("relation", .str "eq")])
        , ("max_score", .null)
        , ("hits", .arr listed) ] := by
  rw [MetricResult.hitsJson, field?_ofFields]
  show List.Nodup ["total", "max_score", "hits"]
  decide

theorem readTopHits_hits (name : String) (total : Nat) (listed : List Json) :
    Answer.readTopHits name (MetricResult.hits total listed).json
      = .ok (shownValue (.hits total listed)) := by
  show (do
    let hits <- Answer.orMalformed
      (((MetricResult.hitsJson total listed).field? "hits").bind Json.toList?) (.noTopHits name)
    return Answer.Value.hits (hits.map Answer.sourceOf)) = _
  rw [field?_hitsJson]
  rfl

theorem readMetric_json {metric : Metric} {docs : List Document} {result : MetricResult}
    (h : evaluateMetric metric docs = .ok result) (name : String) :
    Answer.readMetric name (Kinds.ofMetric metric) result.json = .ok (shownValue result) := by
  have hfinite := isFinite_of_evaluateMetric h
  cases metric with
  | valueCount field => cases h; exact readNumber_count name _
  | cardinality field => cases h; exact readNumber_count name _
  | sum field => cases h; exact readNumber_number name hfinite
  | min field => cases h; exact readNumber_number name hfinite
  | max field => cases h; exact readNumber_number name hfinite
  | avg field => cases h; exact readNumber_number name hfinite
  | stats field => cases h; exact readStats_stats name hfinite
  | percentiles spec =>
      rcases bind_eq_ok_iff.mp h with ⟨entries, _, heq⟩
      cases heq
      exact readPercentiles_percentiles name hfinite
  | topHits spec => cases h; exact readTopHits_hits name _ _

/-!
# Percentiles

A percent over one hundred has its place beyond the last number, unless that is the first.
-/

theorem length_insertDescending (x : Float) (sorted : List Float) :
    (insertDescending x sorted).length = sorted.length + 1 := by
  induction sorted with
  | nil => rfl
  | cons y ys ih =>
      rw [insertDescending]
      split
      · rw [List.length_cons, ih, List.length_cons]
      · rfl

theorem length_sortNumbers (xs : List Float) : (sortNumbers xs).length = xs.length := by
  have hfold : forall sorted : List Float,
      (xs.foldl (fun sorted x => insertDescending x sorted) sorted).length
        = sorted.length + xs.length := by
    induction xs with
    | nil => exact fun _ => rfl
    | cons x xs ih =>
        intro sorted
        rw [List.foldl_cons, ih, length_insertDescending, List.length_cons]
        omega
  rw [sortNumbers, List.length_reverse, hfold, List.length_nil, Nat.zero_add]

/-- A percent is over one hundred, and there is more than one number. -/
def IsBeyond (docs : List Document) (spec : Request.Percentiles) : Prop :=
  2 <= (numbers docs spec.field).length ∧ exists percent, percent ∈ spec.percents ∧ 100 < percent

/-- Each percent has an entry, and each entry has the percentile, or null. -/
structure AnswersEach (docs : List Document) (spec : Request.Percentiles)
    (values : List (String × Option Float)) : Prop where
  each : forall percent, percent ∈ spec.percents ->
    exists value, values.lookup (Number.keyLayout.write percent) = some value
  only : forall name value, (name, value) ∈ values ->
    exists percent found, percent ∈ spec.percents ∧ name = Number.keyLayout.write percent
      ∧ percentile (sortNumbers (numbers docs spec.field)).toArray percent = .ok found
      ∧ value = found.bind finite?

theorem exists_percentile {sorted : Array Float} {percent place : Float}
    (hplace : percent / 100 * Float.ofNat (sorted.size - 1) = place)
    (hlow : Number.toIndex Number.Dyadic.floor place < sorted.size)
    (hhigh : Number.toIndex Number.Dyadic.ceil place < sorted.size) :
    exists value, percentile sorted percent = .ok (some value) := by
  have hempty : ¬ sorted.isEmpty = true := by
    rw [Array.isEmpty_iff_size_eq_zero]
    omega
  unfold percentile
  rw [if_neg hempty]
  dsimp only
  rw [hplace, Array.getElem?_eq_getElem hlow, Array.getElem?_eq_getElem hhigh]
  exact ⟨_, rfl⟩

theorem percentile_cases {sorted : Array Float} (hsize : sorted.size <= 2 ^ 53) (percent : Float) :
    (2 <= sorted.size ∧ 100 < percent) ∧ percentile sorted percent = .error .aborted
      ∨ ¬ (2 <= sorted.size ∧ 100 < percent)
        ∧ exists value, percentile sorted percent = .ok value := by
  by_cases hempty : sorted.isEmpty = true
  · have hnone := Array.isEmpty_iff_size_eq_zero.mp hempty
    exact Or.inr ⟨fun h => by omega, none, if_pos hempty⟩
  · have hsome : sorted.size ≠ 0 := fun h => hempty (Array.isEmpty_iff_size_eq_zero.mpr h)
    have hlast : sorted.size - 1 < 2 ^ 53 := by omega
    rcases @Number.place_cases percent (sorted.size - 1) hlast with
      ⟨hpos, hlarge, hbeyond⟩ | ⟨hnot, hfloor, hceil⟩
    · refine Or.inl ⟨⟨by omega, hlarge⟩, ?_⟩
      unfold percentile
      rw [if_neg hempty]
      dsimp only
      rw [Array.getElem?_eq_none (show sorted.size <= Number.toIndex Number.Dyadic.ceil _ by omega)]
      split
      · rename_i heq
        cases heq
      · rfl
    · have hfound : exists value, percentile sorted percent = .ok (some value) :=
        exists_percentile rfl (by omega) (by omega)
      rcases hfound with ⟨value, hvalue⟩
      exact Or.inr ⟨fun h => hnot ⟨by omega, h.right⟩, some value, hvalue⟩

theorem percentiles_cases {docs : List Document} {spec : Request.Percentiles}
    (hcount : (numbers docs spec.field).length <= 2 ^ 53) :
    IsBeyond docs spec ∧ percentiles docs spec = .error .aborted
      ∨ ¬ IsBeyond docs spec
        ∧ exists values, percentiles docs spec = .ok (.percentiles values)
          ∧ AnswersEach docs spec values := by
  obtain ⟨sorted, hsorted⟩ :
      exists sorted, (sortNumbers (numbers docs spec.field)).toArray = sorted :=
    ⟨_, rfl⟩
  have hlength : sorted.size = (numbers docs spec.field).length := by
    rw [<- hsorted, List.size_toArray, length_sortNumbers]
  have hcases := @percentile_cases sorted (by omega)
  rw [hlength] at hcases
  unfold percentiles
  dsimp only
  rw [hsorted]
  cases hentries : spec.percents.mapM (fun percent => do
      let value <- percentile sorted percent
      return (Number.keyLayout.write percent, value.bind finite?)) with
  | error e =>
      rcases exists_of_mapM_error hentries with ⟨percent, hpercent, hfails⟩
      rcases hcases percent with ⟨⟨hmany, hlarge⟩, habort⟩ | ⟨_, value, hvalue⟩
      · rw [habort] at hfails
        cases hfails
        exact Or.inl ⟨⟨hmany, percent, hpercent, hlarge⟩, rfl⟩
      · rw [hvalue] at hfails
        cases hfails
  | ok entries =>
      have hanswer : forall percent, percent ∈ spec.percents ->
          ¬ (2 <= (numbers docs spec.field).length ∧ 100 < percent)
            ∧ exists value, (Number.keyLayout.write percent, value) ∈ entries := by
        intro percent hpercent
        rcases exists_result_of_mem_mapM hentries hpercent with ⟨entry, hentry, hresult⟩
        rcases hcases percent with ⟨_, habort⟩ | ⟨hnot, value, hvalue⟩
        · rw [habort] at hresult
          cases hresult
        · rw [hvalue] at hresult
          cases hresult
          exact ⟨hnot, _, hentry⟩
      refine Or.inr ⟨?_, fieldMap entries, rfl, ?_, ?_⟩
      · intro hbeyond
        rcases hbeyond with ⟨hmany, percent, hpercent, hlarge⟩
        exact (hanswer percent hpercent).left ⟨hmany, hlarge⟩
      · intro percent hpercent
        rcases (hanswer percent hpercent).right with ⟨value, hentry⟩
        exact exists_lookup_fieldMap hentry
      · intro name value hentry
        rcases exists_of_mem_mapM hentries (mem_fieldMap hentry) with ⟨percent, hpercent, hresult⟩
        rcases bind_eq_ok_iff.mp hresult with ⟨found, hfound, heq⟩
        cases heq
        exact ⟨percent, found, hpercent, rfl, hsorted ▸ hfound, rfl⟩

/-!
# Metrics that give a result
-/

/-- Percents lie between zero and one hundred, and a float can count the numbers that
percentiles are taken of. -/
def Computable (docs : List Document) : Metric -> Prop
  | .percentiles spec =>
      (forall percent, percent ∈ spec.percents -> 0 <= percent ∧ percent <= 100)
        ∧ (numbers docs spec.field).length <= 2 ^ 53
  | _ => True

theorem evaluateMetric_eq_ok {docs : List Document} {metric : Metric}
    (h : Computable docs metric) : exists result, evaluateMetric metric docs = .ok result := by
  cases metric with
  | percentiles spec =>
      rcases h with ⟨hpercents, hcount⟩
      rcases percentiles_cases hcount with
        ⟨⟨_, percent, hpercent, hlarge⟩, _⟩ | ⟨_, values, hvalues, _⟩
      · exact absurd hlarge (Number.not_lt_of_le (hpercents percent hpercent).right)
      · exact ⟨.percentiles values, hvalues⟩
  | _ => exact ⟨_, rfl⟩

theorem Computable.mono {docs more : List Document} {metric : Metric} (hdocs : docs.Sublist more)
    (h : Computable more metric) : Computable docs metric := by
  cases metric with
  | percentiles spec =>
      have hsublist := (hdocs.flatMap (fun doc => doc.values spec.field)).filterMap asNumber?
      exact ⟨h.left, Nat.le_trans hsublist.length_le h.right⟩
  | _ => trivial

theorem length_allValues_index (docs : List Document) :
    (allValues docs "_index").length = docs.length := by
  induction docs with
  | nil => rfl
  | cons doc docs ih =>
      show (Json.str doc.index :: allValues docs "_index").length = _
      rw [List.length_cons, ih, List.length_cons]

end Store
end Rollup
