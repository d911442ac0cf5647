import Mathlib.Data.List.Nodup
import Rollup.Proofs.FieldMap
import Rollup.Proofs.Selector.Evaluation

/-!
# The meaning of HAVING

A condition on measures is stated on the numbers that the measures have. Its selector,
whose script and numbered parameters stand for the condition, keeps exactly the groups of
which the condition holds.
-/

namespace Rollup
namespace Plan

open Sql (AggregateCall Comparison Having Literal Threshold)

def Measure.path (measure : Measure) : String :=
  match measure.kind with
  | .docCount => "_count"
  | .metric _ => measure.name

def relates : Comparison -> Float -> Float -> Bool
  | .eq, x, bound => x == bound
  | .notEq, x, bound => !(x == bound)
  | .lt, x, bound => x < bound
  | .lte, x, bound => x <= bound
  | .gt, x, bound => bound < x
  | .gte, x, bound => bound <= x

/-- The measure that a threshold names has a number, and it stands in the wanted relation to the
number of the threshold. -/
def thresholdHolds (calls : List AggregateCall) (measures : List Measure)
    (value : Measure -> Option Float) (threshold : Threshold) : Bool :=
  match referencedMeasure? threshold.target calls measures with
  | none => false
  | some measure =>
      match value measure, threshold.value.toFloat? with
      | some x, some bound => relates threshold.op x bound
      | _, _ => false

/-- A number that the threshold compares with is written as the query language writes it. -/
def ComparesNumeral (threshold : Threshold) : Prop :=
  forall raw, threshold.value = .number raw -> Number.IsNumeral raw.toList

theorem mem_of_referencedMeasure? {target : Sql.ColumnRef} {calls : List AggregateCall}
    {measures : List Measure} {measure : Measure}
    (h : referencedMeasure? target calls measures = some measure) : measure ∈ measures := by
  unfold referencedMeasure? at h
  split at h
  · exact List.mem_of_find?_eq_some h
  · cases h

/-!
# Tests of thresholds
-/

theorem measurePath_eq_path {measure : Measure} {path : String}
    (h : measurePath measure = .ok path) : path = measure.path := by
  unfold measurePath at h
  unfold Measure.path
  split at h
  · rename_i hkind
    cases h
    rw [hkind]
  · rename_i hkind
    split at h
    · cases h
      cases hmeasure : measure.kind with
      | docCount => exact absurd hmeasure hkind
      | metric spec => rfl
    · cases h

theorem thresholdNumber_cases {literal : Literal} {raw : String}
    (h : thresholdNumber literal = .ok raw) :
    literal = .number raw ∧ exists bound, Number.readFloat? raw = some bound := by
  unfold thresholdNumber at h
  split at h
  · rename_i text bound hbound
    cases h
    exact ⟨rfl, bound, hbound⟩
  · cases h

theorem compareBy_eq_relates (op : Comparison) (x bound : Float) :
    Script.compareBy op x bound = relates op x bound := by
  cases op <;> rfl

theorem thresholdTest_agrees {calls : List AggregateCall} {measures : List Measure}
    (value : String -> Option Float) {threshold : Threshold} {test : Test}
    (hnumeral : ComparesNumeral threshold)
    (h : thresholdTest calls measures threshold = .ok test) :
    Script.GoodTest test
      ∧ Script.testHolds value test
        = thresholdHolds calls measures (fun measure => value measure.path) threshold := by
  unfold thresholdTest at h
  split at h
  · cases h
  · rename_i measure hmeasure
    rcases bind_eq_ok_iff.mp h with ⟨path, hpath, h⟩
    rcases bind_eq_ok_iff.mp h with ⟨number, hnumber, h⟩
    cases h
    obtain ⟨hliteral, bound, hbound⟩ := thresholdNumber_cases hnumber
    refine ⟨⟨hnumeral number hliteral, bound, hbound⟩, ?_⟩
    have hvalue : (Literal.number number).toFloat? = some bound := hbound
    rw [thresholdHolds, hmeasure, hliteral, Script.testHolds, measurePath_eq_path hpath]
    dsimp only
    rw [hvalue, hbound]
    cases value measure.path with
    | none => rfl
    | some x => exact compareBy_eq_relates threshold.op x bound

/-!
# Parameters
-/

theorem keys_numbered (start : Nat) (paths : List String) :
    (numbered start paths).map Prod.fst
      = (List.range' start paths.length).map parameterName := by
  induction paths generalizing start with
  | nil => rfl
  | cons path rest ih =>
      rw [numbered, List.map_cons, ih, List.length_cons, List.range'_succ, List.map_cons]

theorem nodup_keys_numbered (start : Nat) (paths : List String) :
    ((numbered start paths).map Prod.fst).Nodup := by
  rw [keys_numbered]
  exact List.Nodup.map (fun _ _ => Script.parameterName_injective) List.nodup_range'

theorem lookup_numbered {path : String} {paths : List String} (h : path ∈ paths) (start : Nat) :
    (numbered start paths).lookup (parameterName (start + paths.idxOf path)) = some path := by
  induction paths generalizing start with
  | nil => cases h
  | cons first rest ih =>
      rw [numbered, lookup_cons_ite]
      by_cases hfirst : first = path
      · rw [List.idxOf_cons, hfirst]
        simp
      · have hrest : path ∈ rest := (List.mem_cons.mp h).resolve_left (fun heq => hfirst heq.symm)
        have hindex : (first :: rest).idxOf path = rest.idxOf path + 1 := by
          rw [List.idxOf_cons, beq_eq_false_iff_ne.mpr hfirst]
          rfl
        rw [hindex, if_neg]
        · have hnext := ih hrest (start + 1)
          rwa [Nat.add_right_comm, Nat.add_assoc] at hnext
        · intro heq
          have := Script.parameterName_injective heq
          omega

theorem binds_numbered (paths : List String) (value : String -> Option Float) :
    Script.Binds
      ((fieldMap (numbered 0 paths)).map (fun entry => (entry.1, value entry.2))) paths value := by
  intro path hpath
  have hlookup := lookup_numbered hpath 0
  rw [Nat.zero_add] at hlookup
  rw [lookup_map_snd, lookup_fieldMap (nodup_keys_numbered 0 paths), hlookup]
  rfl

/-!
# Selectors
-/

theorem wellFormed_numberedTest {condition : Sql.Formula Test}
    (h : condition.WellFormed 1 1 Script.GoodTest) :
    condition.WellFormed 1 1
      (Script.NumberedTest (condition.leaves.map Test.path).eraseDups) := by
  refine h.and_mem_leaves.mono (Nat.le_refl 1) (Nat.le_refl 1) (fun test htest => ?_)
  refine ⟨htest.left, ?_⟩
  rw [List.mem_eraseDups]
  exact List.mem_map.mpr ⟨test, htest.right, rfl⟩

theorem evaluate_selectorOf {condition : Sql.Formula Test}
    (h : condition.WellFormed 1 1 Script.GoodTest) (value : String -> Option Float) :
    Script.evaluate (selectorOf condition).script
        ((selectorOf condition).paths.map (fun entry => (entry.1, value entry.2)))
      = .ok (condition.holds (Script.testHolds value)) :=
  Script.evaluate_formulaScript (binds_numbered _ value) (wellFormed_numberedTest h)

theorem selector_cases {calls : List AggregateCall} {measures : List Measure} {having : Having}
    {selector : Request.Selector} (hhaving : having.WellFormed 1 1 ComparesNumeral)
    (h : Plan.selector calls measures having = .ok selector) (value : String -> Option Float) :
    exists condition : Sql.Formula Test, selector = selectorOf condition
      ∧ condition.WellFormed 1 1 Script.GoodTest
      ∧ condition.holds (Script.testHolds value)
        = having.holds (thresholdHolds calls measures (fun measure => value measure.path)) := by
  rcases bind_eq_ok_iff.mp h with ⟨condition, htraverse, heq⟩
  cases heq
  have hagrees := Sql.Formula.agrees_traverse
    (fun threshold test hthreshold htest => thresholdTest_agrees value hthreshold htest)
    hhaving htraverse
  exact ⟨condition, rfl, hagrees.left, hagrees.right⟩

/-- The script of a HAVING condition never fails and evaluates to the condition, whatever
numbers the paths of its parameters have. -/
theorem evaluate_selector_eq_holds (calls : List AggregateCall) (measures : List Measure)
    (having : Having) (selector : Request.Selector)
    (hhaving : having.WellFormed 1 1 ComparesNumeral)
    (hselector : Plan.selector calls measures having = .ok selector)
    (value : String -> Option Float) :
    Script.evaluate selector.script
        (selector.paths.map (fun (parameter, path) => (parameter, value path)))
      = .ok (having.holds
          (thresholdHolds calls measures (fun measure => value measure.path))) := by
  rcases selector_cases hhaving hselector value with ⟨condition, rfl, hgood, hholds⟩
  rw [← hholds]
  exact evaluate_selectorOf hgood value

/-- Two thresholds on one measure share a parameter. Their negated conjunction fails for twelve
documents, and it holds for four and where there are no numbers. -/
theorem evaluate_selector_negated_conjunction :
    Script.evaluate "!((params.p0 < -2.5 || params.p1 == 12) && params.p1 >= 5)"
        [("p0", some 1), ("p1", some 12)] = .ok false
      ∧ Script.evaluate "!((params.p0 < -2.5 || params.p1 == 12) && params.p1 >= 5)"
        [("p0", some (-3)), ("p1", some 4)] = .ok true
      ∧ Script.evaluate "!((params.p0 < -2.5 || params.p1 == 12) && params.p1 >= 5)"
        [("p0", none), ("p1", none)] = .ok true := by
  have hselector : Plan.selector
      [ { function := "COUNT", argument := some .star, distinct := false, parameters := [],
          positional := [], label := some "n" }
      , { function := "AVG", argument := some (.field "age"), distinct := false, parameters := [],
          positional := [], label := some "mean" } ]
      [{ name := "n", kind := .docCount }, { name := "mean", kind := .metric (.avg "age") }]
      (.negation
        (.all
          [ .any
              [ .leaf { target := .name "mean", op := .lt, value := .number "-2.5" }
              , .leaf { target := .name "n", op := .eq, value := .number "12" } ]
          , .leaf { target := .name "n", op := .gte, value := .number "5" } ]))
      = .ok
        { paths := [("p0", "mean"), ("p1", "_count")]
          script := "!((params.p0 < -2.5 || params.p1 == 12) && params.p1 >= 5)" } := by
    rfl
  have hevaluated := evaluate_selector_eq_holds _ _ _ _ (by
    simp only [Sql.Formula.wellFormed_negation_iff, Sql.Formula.wellFormed_all_iff,
      Sql.Formula.wellFormed_any_iff, List.forall_mem_cons, Sql.Formula.wellFormed_leaf_iff]
    refine ⟨by decide, ⟨by decide, ?_, ?_, by simp⟩, ?_, by simp⟩
    · rintro _ ⟨⟩
      exact .negative
        (.fraction (show Number.IsDigits ['2'] by decide) (show Number.IsDigits ['5'] by decide))
    · rintro _ ⟨⟩
      exact .unsigned (.whole (by decide))
    · rintro _ ⟨⟩
      exact .unsigned (.whole (by decide))) hselector
  refine ⟨?_, ?_, ?_⟩
  · exact (hevaluated (fun path => if path = "mean" then some 1 else some 12)).trans
      (congrArg Except.ok (by decide +kernel))
  · exact (hevaluated (fun path => if path = "mean" then some (-3) else some 4)).trans
      (congrArg Except.ok (by decide +kernel))
  · exact (hevaluated (fun _ => none)).trans rfl

end Plan
end Rollup
