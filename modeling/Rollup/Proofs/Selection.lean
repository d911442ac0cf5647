import Rollup.Plan.Selection
import Rollup.Proofs.Formula
import Rollup.Store.Matching

/-!
# WHERE conditions over documents

What a condition says of a document is stated on the values of its fields alone. The
filter that a condition becomes matches exactly the documents of which the condition
holds.
-/

namespace Rollup
namespace Store

open Request (Bounds Filter)
open Sql (Comparison Condition Formula Literal Predicate)

/-!
# The meaning of a test
-/

def Complemented (negated : Bool) (statement : Prop) : Prop :=
  if negated then ¬statement else statement

def HasValue (doc : Document) (field : String) (wanted : Json -> Prop) : Prop :=
  exists value, value ∈ doc.values field ∧ wanted value

def AtLeast (bound value : Json) : Prop :=
  compareForRange value bound = some .gt ∨ compareForRange value bound = some .eq

def AtMost (bound value : Json) : Prop :=
  compareForRange value bound = some .lt ∨ compareForRange value bound = some .eq

/-- What a test of one field says of a document. -/
def Satisfies (doc : Document) : Predicate -> Prop
  | .compare field .eq literal =>
      HasValue doc field (fun value => valuesEqual value literal.toJson = true)
  | .compare field .notEq literal =>
      ¬HasValue doc field (fun value => valuesEqual value literal.toJson = true)
  | .compare field .lt literal =>
      HasValue doc field (fun value => compareForRange value literal.toJson = some .lt)
  | .compare field .lte literal => HasValue doc field (AtMost literal.toJson)
  | .compare field .gt literal =>
      HasValue doc field (fun value => compareForRange value literal.toJson = some .gt)
  | .compare field .gte literal => HasValue doc field (AtLeast literal.toJson)
  | .like field pattern negated =>
      Complemented negated
        (HasValue doc field (fun value =>
          exists text, value = .str text
            ∧ Text.matchesWildcard (Text.likeToWildcard pattern) text = true))
  | .member field literals negated =>
      Complemented negated
        (HasValue doc field (fun value =>
          exists literal, literal ∈ literals ∧ valuesEqual value literal.toJson = true))
  | .between field low high negated =>
      Complemented negated
        (HasValue doc field (fun value => AtLeast low.toJson value ∧ AtMost high.toJson value))
  | .isNull field negated => Complemented negated (doc.values field = [])

/-!
The meaning can be computed, so that formulas over tests have a truth value.
-/

instance (negated : Bool) (statement : Prop) [Decidable statement] :
    Decidable (Complemented negated statement) :=
  inferInstanceAs (Decidable (if negated then ¬statement else statement))

instance (doc : Document) (field : String) (wanted : Json -> Prop) [DecidablePred wanted] :
    Decidable (HasValue doc field wanted) :=
  inferInstanceAs (Decidable (exists value, value ∈ doc.values field ∧ wanted value))

instance (bound value : Json) : Decidable (AtLeast bound value) :=
  inferInstanceAs (Decidable (_ ∨ _))

instance (bound value : Json) : Decidable (AtMost bound value) :=
  inferInstanceAs (Decidable (_ ∨ _))

instance (accepted : String -> Prop) [DecidablePred accepted] (value : Json) :
    Decidable (exists text, value = .str text ∧ accepted text) :=
  match value with
  | .str text =>
      decidable_of_iff (accepted text) (by simp)
  | .null | .bool _ | .int _ | .float _ | .arr _ | .obj _ => isFalse (by simp)

instance (doc : Document) : DecidablePred (Satisfies doc)
  | .compare _ .eq _ => inferInstanceAs (Decidable (HasValue _ _ _))
  | .compare _ .notEq _ => inferInstanceAs (Decidable (¬HasValue _ _ _))
  | .compare _ .lt _ => inferInstanceAs (Decidable (HasValue _ _ _))
  | .compare _ .lte _ => inferInstanceAs (Decidable (HasValue _ _ (AtMost _)))
  | .compare _ .gt _ => inferInstanceAs (Decidable (HasValue _ _ _))
  | .compare _ .gte _ => inferInstanceAs (Decidable (HasValue _ _ (AtLeast _)))
  | .like _ _ _ => inferInstanceAs (Decidable (Complemented _ (HasValue _ _ _)))
  | .member _ _ _ => inferInstanceAs (Decidable (Complemented _ (HasValue _ _ _)))
  | .between _ _ _ _ => inferInstanceAs (Decidable (Complemented _ (HasValue _ _ _)))
  | .isNull _ _ => inferInstanceAs (Decidable (Complemented _ (_ = [])))

/-!
# Filters of junctions
-/

theorem matchCount_eq_countP (doc : Document) (parts : List Filter) :
    matchCount doc parts = parts.countP (matchesFilter doc) := by
  induction parts with
  | nil => rw [matchCount, List.countP_nil]
  | cons part rest ih =>
      rw [matchCount, List.countP_cons, ih, Nat.add_comm]

@[simp] theorem matchesFilter_negate (doc : Document) (inner : Filter) :
    matchesFilter doc (Filter.negate inner) = !matchesFilter doc inner := by
  cases h : matchesFilter doc inner <;>
    simp [Filter.negate, matchesFilter, matchCount, h]

@[simp] theorem matchesFilter_all (doc : Document) (parts : List Filter) :
    matchesFilter doc (Filter.all parts) = parts.all (matchesFilter doc) := by
  rw [Bool.eq_iff_iff]
  simp [Filter.all, matchesFilter, matchCount_eq_countP, List.countP_eq_length]

theorem matchesFilter_any (doc : Document) {parts : List Filter} (h : parts ≠ []) :
    matchesFilter doc (Filter.any parts) = parts.any (matchesFilter doc) := by
  rw [Bool.eq_iff_iff]
  simp [Filter.any, matchesFilter, matchCount_eq_countP, shouldCount, h, Nat.succ_le_iff,
    List.countP_pos_iff]

/-!
# Filters of tests
-/

theorem matchesFilter_term_iff (doc : Document) (field : String) (wanted : Json) :
    matchesFilter doc (.term [(field, wanted)]) = true
      <-> HasValue doc field (fun value => valuesEqual value wanted = true) := by
  simp [matchesFilter, HasValue]

theorem matchesFilter_terms_iff (doc : Document) (field : String) (literals : List Literal) :
    matchesFilter doc (.terms [(field, literals.map Literal.toJson)]) = true
      <-> HasValue doc field (fun value =>
        exists literal, literal ∈ literals ∧ valuesEqual value literal.toJson = true) := by
  simp [matchesFilter, HasValue]

theorem matchesFilter_range_iff (doc : Document) (field : String) (bounds : Bounds) :
    matchesFilter doc (.range [(field, bounds)]) = true
      <-> HasValue doc field (fun value => inBounds value bounds = true) := by
  simp [matchesFilter, HasValue]

theorem matchesText_iff (pattern : String) (value : Json) :
    matchesText pattern value = true
      <-> exists text, value = .str text ∧ Text.matchesWildcard pattern text = true := by
  cases value <;> simp [matchesText]

theorem matchesFilter_wildcard_iff (doc : Document) (field pattern : String) :
    matchesFilter doc (.wildcard [(field, pattern)]) = true
      <-> HasValue doc field (fun value =>
        exists text, value = .str text ∧ Text.matchesWildcard pattern text = true) := by
  simp only [HasValue, ← matchesText_iff]
  simp [matchesFilter]

/-!
A missing bound is met by every value, and each of the four bounds that are there
asks for one or two orders.
-/

theorem meetsBound_none (value : Json) (wanted : Ordering -> Bool) :
    meetsBound value none wanted = true :=
  rfl

theorem meetsBound_some_iff (value limit : Json) (wanted : Ordering -> Bool) :
    meetsBound value (some limit) wanted = true
      <-> exists order, compareForRange value limit = some order ∧ wanted order = true := by
  cases h : compareForRange value limit <;> simp [meetsBound, h]

theorem meetsBound_atLeast_iff (value bound : Json) :
    meetsBound value (some bound) (fun order => order != .lt) = true <-> AtLeast bound value := by
  rw [meetsBound_some_iff, AtLeast]
  cases compareForRange value bound with
  | none => simp
  | some order => cases order <;> simp

theorem meetsBound_atMost_iff (value bound : Json) :
    meetsBound value (some bound) (fun order => order != .gt) = true <-> AtMost bound value := by
  rw [meetsBound_some_iff, AtMost]
  cases compareForRange value bound with
  | none => simp
  | some order => cases order <;> simp

theorem matchesFilter_compareFilter (doc : Document) (field : String) (op : Comparison)
    (literal : Literal) :
    matchesFilter doc (Plan.compareFilter field op literal)
      = decide (Satisfies doc (.compare field op literal)) := by
  rw [Bool.eq_iff_iff, decide_eq_true_iff]
  cases op with
  | eq => exact matchesFilter_term_iff doc field literal.toJson
  | notEq =>
      show matchesFilter doc (Filter.negate (.term [(field, literal.toJson)])) = true <-> _
      rw [matchesFilter_negate, Bool.not_eq_true', Bool.eq_false_iff, ne_eq,
        matchesFilter_term_iff]
      rfl
  | lt | gt =>
      refine (matchesFilter_range_iff doc field _).trans ?_
      simp [Satisfies, inBounds, meetsBound_none, meetsBound_some_iff]
  | lte =>
      refine (matchesFilter_range_iff doc field _).trans ?_
      simp only [Satisfies, inBounds, meetsBound_none, meetsBound_atMost_iff, Bool.and_eq_true,
        true_and, and_true]
  | gte =>
      refine (matchesFilter_range_iff doc field _).trans ?_
      simp only [Satisfies, inBounds, meetsBound_none, meetsBound_atLeast_iff, Bool.and_eq_true,
        and_true]

theorem matchesFilter_negateIf_iff {doc : Document} {inner : Filter} {statement : Prop}
    (negated : Bool) (h : matchesFilter doc inner = true <-> statement) :
    matchesFilter doc (Filter.negateIf negated inner) = true
      <-> Complemented negated statement := by
  cases negated with
  | false => simpa [Filter.negateIf, Complemented] using h
  | true => simp [Filter.negateIf, Complemented, ← h]

theorem matchesFilter_predicateFilter (doc : Document) (test : Predicate) :
    matchesFilter doc (Plan.predicateFilter test) = decide (Satisfies doc test) := by
  cases test with
  | compare field op literal => exact matchesFilter_compareFilter doc field op literal
  | like field pattern negated =>
      rw [Bool.eq_iff_iff, decide_eq_true_iff]
      exact matchesFilter_negateIf_iff negated (matchesFilter_wildcard_iff doc field _)
  | member field literals negated =>
      rw [Bool.eq_iff_iff, decide_eq_true_iff]
      exact matchesFilter_negateIf_iff negated (matchesFilter_terms_iff doc field literals)
  | between field low high negated =>
      rw [Bool.eq_iff_iff, decide_eq_true_iff]
      refine matchesFilter_negateIf_iff negated ((matchesFilter_range_iff doc field _).trans ?_)
      simp only [inBounds, meetsBound_none, meetsBound_atLeast_iff, meetsBound_atMost_iff,
        Bool.and_eq_true, and_true]
  | isNull field negated =>
      rw [Bool.eq_iff_iff, decide_eq_true_iff]
      -- IS NULL is the negated filter, so the flag changes sides here.
      cases negated <;>
        simp [Plan.predicateFilter, Filter.negateIf, matchesFilter, Satisfies, Complemented,
          Document.hasField]

/-!
# Filters of conditions
-/

theorem conditionFilters_eq_map (parts : List Condition) :
    Plan.conditionFilters parts = parts.map Plan.conditionFilter := by
  induction parts with
  | nil => rw [Plan.conditionFilters, List.map_nil]
  | cons part rest ih => rw [Plan.conditionFilters, List.map_cons, ih]

theorem matchesFilter_conditionFilter (doc : Document) {condition : Condition}
    (h : condition.WellFormed 0 1 (fun _ => True)) :
    matchesFilter doc (Plan.conditionFilter condition)
      = condition.holds (fun test => matchesFilter doc (Plan.predicateFilter test)) := by
  induction h with
  | all size inner ih =>
      rw [Plan.conditionFilter, matchesFilter_all, conditionFilters_eq_map, List.all_map]
      exact Formula.all_eq_holds ih
  | @any parts size inner ih =>
      have hne : parts.map Plan.conditionFilter ≠ [] := by
        rw [ne_eq, List.map_eq_nil_iff]
        exact List.ne_nil_of_length_pos size
      rw [Plan.conditionFilter, conditionFilters_eq_map, matchesFilter_any doc hne, List.any_map]
      exact Formula.any_eq_holds ih
  | negation inner ih =>
      rw [Plan.conditionFilter, matchesFilter_negate, ih, Formula.holds_negation]
  | leaf here => rw [Plan.conditionFilter, Formula.holds_leaf]

/-- The filter of a condition without empty disjunctions matches a document exactly if the
condition holds of the values in its fields. -/
theorem matchesFilter_conditionFilter_eq_holds (doc : Document) (condition : Condition)
    (h : condition.WellFormed 0 1 (fun _ => True)) :
    matchesFilter doc (Plan.conditionFilter condition)
      = condition.holds (fun test => decide (Satisfies doc test)) := by
  rw [matchesFilter_conditionFilter doc h]
  congr 1
  funext test
  exact matchesFilter_predicateFilter doc test

theorem matchesFilter_negated_disjunction :
    matchesFilter
        { index := "bank"
          docType := none
          id := "1"
          source := .obj [("age", .null), ("tags", .arr [.str "new", .str "vip"])] }
        (Plan.conditionFilter
          (.negation
            (.any
              [ .leaf (.compare "tags" .notEq (.text "vip"))
              , .all [.leaf (.isNull "age" true), .leaf (.like "tags" "n%" false)] ]))) = true := by
  rw [matchesFilter_conditionFilter_eq_holds _ _ (by simp)]
  decide

end Store
end Rollup
