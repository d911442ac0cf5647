import Rollup.Proofs.Outcome
import Rollup.Sql.Formula

/-!
# Formulas as trees

Induction over formulas, the least number of parts that a junction may have, and
what evaluation and replacement of leaves do to a list of parts.
-/

namespace Rollup
namespace Sql
namespace Formula

variable {alpha beta error : Type}

/-!
# Well-formed formulas

Conjunctions and disjunctions have at least a given number of parts, and every leaf is
a good one.
-/

inductive WellFormed (conjuncts disjuncts : Nat) (good : alpha -> Prop) : Formula alpha -> Prop
  | all {parts : List (Formula alpha)} (size : conjuncts <= parts.length)
      (inner : forall part, part ∈ parts -> WellFormed conjuncts disjuncts good part) :
      WellFormed conjuncts disjuncts good (.all parts)
  | any {parts : List (Formula alpha)} (size : disjuncts <= parts.length)
      (inner : forall part, part ∈ parts -> WellFormed conjuncts disjuncts good part) :
      WellFormed conjuncts disjuncts good (.any parts)
  | negation {part : Formula alpha} (inner : WellFormed conjuncts disjuncts good part) :
      WellFormed conjuncts disjuncts good (.negation part)
  | leaf {value : alpha} (here : good value) : WellFormed conjuncts disjuncts good (.leaf value)

section

variable {conjuncts disjuncts : Nat} {good : alpha -> Prop}

@[simp] theorem wellFormed_all_iff (parts : List (Formula alpha)) :
    WellFormed conjuncts disjuncts good (.all parts)
      <-> conjuncts <= parts.length
        ∧ forall part, part ∈ parts -> WellFormed conjuncts disjuncts good part := by
  constructor
  · intro h
    cases h with
    | all size inner => exact ⟨size, inner⟩
  · intro h
    exact .all h.left h.right

@[simp] theorem wellFormed_any_iff (parts : List (Formula alpha)) :
    WellFormed conjuncts disjuncts good (.any parts)
      <-> disjuncts <= parts.length
        ∧ forall part, part ∈ parts -> WellFormed conjuncts disjuncts good part := by
  constructor
  · intro h
    cases h with
    | any size inner => exact ⟨size, inner⟩
  · intro h
    exact .any h.left h.right

@[simp] theorem wellFormed_negation_iff (part : Formula alpha) :
    WellFormed conjuncts disjuncts good (.negation part)
      <-> WellFormed conjuncts disjuncts good part := by
  constructor
  · intro h
    cases h with
    | negation inner => exact inner
  · exact .negation

@[simp] theorem wellFormed_leaf_iff (value : alpha) :
    WellFormed conjuncts disjuncts good (.leaf value) <-> good value := by
  constructor
  · intro h
    cases h with
    | leaf here => exact here
  · exact .leaf

end

theorem WellFormed.mono {conjuncts disjuncts fewerConjuncts fewerDisjuncts : Nat}
    {good fair : alpha -> Prop} {formula : Formula alpha}
    (h : WellFormed conjuncts disjuncts good formula)
    (hconjuncts : fewerConjuncts <= conjuncts) (hdisjuncts : fewerDisjuncts <= disjuncts)
    (hleaf : forall value, good value -> fair value) :
    WellFormed fewerConjuncts fewerDisjuncts fair formula := by
  induction h with
  | all size inner ih => exact .all (Nat.le_trans hconjuncts size) ih
  | any size inner ih => exact .any (Nat.le_trans hdisjuncts size) ih
  | negation inner ih => exact .negation ih
  | leaf here => exact .leaf (hleaf _ here)

/-!
# Height
-/

mutual

def height : Formula alpha -> Nat
  | .all parts => heightOf parts + 1
  | .any parts => heightOf parts + 1
  | .negation part => height part + 1
  | .leaf _ => 1

def heightOf : List (Formula alpha) -> Nat
  | [] => 0
  | part :: rest => max (height part) (heightOf rest)

end

theorem heightOf_le {parts : List (Formula alpha)} {limit : Nat}
    (h : forall part, part ∈ parts -> part.height <= limit) : heightOf parts <= limit := by
  induction parts with
  | nil => exact Nat.zero_le limit
  | cons part rest ih =>
      rw [heightOf]
      apply Nat.max_le.mpr
      constructor
      · exact h part List.mem_cons_self
      · exact ih (fun other hother => h other (List.mem_cons_of_mem part hother))

/-!
# Meaning
-/

theorem holdsAll_eq_all (valuation : alpha -> Bool) (parts : List (Formula alpha)) :
    holdsAll valuation parts = parts.all (holds valuation) := by
  induction parts with
  | nil => rw [holdsAll, List.all_nil]
  | cons part rest ih => rw [holdsAll, List.all_cons, ih]

theorem holdsAny_eq_any (valuation : alpha -> Bool) (parts : List (Formula alpha)) :
    holdsAny valuation parts = parts.any (holds valuation) := by
  induction parts with
  | nil => rw [holdsAny, List.any_nil]
  | cons part rest ih => rw [holdsAny, List.any_cons, ih]

@[simp] theorem holds_all (valuation : alpha -> Bool) (parts : List (Formula alpha)) :
    holds valuation (.all parts) = parts.all (holds valuation) := by
  rw [holds, holdsAll_eq_all]

@[simp] theorem holds_any (valuation : alpha -> Bool) (parts : List (Formula alpha)) :
    holds valuation (.any parts) = parts.any (holds valuation) := by
  rw [holds, holdsAny_eq_any]

@[simp] theorem holds_negation (valuation : alpha -> Bool) (part : Formula alpha) :
    holds valuation (.negation part) = !holds valuation part := by
  rw [holds]

@[simp] theorem holds_leaf (valuation : alpha -> Bool) (value : alpha) :
    holds valuation (.leaf value) = valuation value := by
  rw [holds]

theorem all_eq_holds {valuation : alpha -> Bool} {accepts : Formula alpha -> Bool}
    {parts : List (Formula alpha)}
    (h : forall part, part ∈ parts -> accepts part = holds valuation part) :
    parts.all accepts = holds valuation (.all parts) := by
  rw [holds_all, Bool.eq_iff_iff, List.all_eq_true, List.all_eq_true]
  exact forall₂_congr (fun part hpart => by rw [h part hpart])

theorem any_eq_holds {valuation : alpha -> Bool} {accepts : Formula alpha -> Bool}
    {parts : List (Formula alpha)}
    (h : forall part, part ∈ parts -> accepts part = holds valuation part) :
    parts.any accepts = holds valuation (.any parts) := by
  rw [holds_any, Bool.eq_iff_iff, List.any_eq_true, List.any_eq_true]
  exact exists_congr (fun part => and_congr_right (fun hpart => by rw [h part hpart]))

theorem WellFormed.holds_congr {conjuncts disjuncts : Nat} {good : alpha -> Prop}
    {formula : Formula alpha} (h : WellFormed conjuncts disjuncts good formula)
    {valuation other : alpha -> Bool}
    (hleaf : forall value, good value -> valuation value = other value) :
    holds valuation formula = holds other formula := by
  induction h with
  | all size inner ih => exact (holds_all valuation _).trans (all_eq_holds ih)
  | any size inner ih => exact (holds_any valuation _).trans (any_eq_holds ih)
  | negation inner ih => rw [holds_negation, holds_negation, ih]
  | leaf here => rw [holds_leaf, holds_leaf, hleaf _ here]

/-!
# Leaves
-/

theorem leavesOf_eq_flatMap (parts : List (Formula alpha)) :
    leavesOf parts = parts.flatMap leaves := by
  induction parts with
  | nil => rw [leavesOf, List.flatMap_nil]
  | cons part rest ih => rw [leavesOf, List.flatMap_cons, ih]

theorem WellFormed.and_mem_leaves {conjuncts disjuncts : Nat} {good : alpha -> Prop}
    {formula : Formula alpha} (h : WellFormed conjuncts disjuncts good formula) :
    WellFormed conjuncts disjuncts (fun value => good value ∧ value ∈ formula.leaves) formula := by
  have hmono : forall {part : Formula alpha} {parts : List (Formula alpha)}, part ∈ parts ->
      WellFormed conjuncts disjuncts (fun value => good value ∧ value ∈ part.leaves) part ->
      WellFormed conjuncts disjuncts (fun value => good value ∧ value ∈ leavesOf parts) part := by
    intro part parts hpart hwell
    refine hwell.mono (Nat.le_refl _) (Nat.le_refl _) (fun value hvalue => ⟨hvalue.left, ?_⟩)
    rw [leavesOf_eq_flatMap]
    exact List.mem_flatMap.mpr ⟨part, hpart, hvalue.right⟩
  induction h with
  | @all parts size inner ih =>
      rw [leaves]
      exact .all size (fun part hpart => hmono hpart (ih part hpart))
  | @any parts size inner ih =>
      rw [leaves]
      exact .any size (fun part hpart => hmono hpart (ih part hpart))
  | negation inner ih =>
      rw [leaves]
      exact .negation ih
  | leaf here =>
      rw [leaves]
      exact .leaf ⟨here, List.mem_singleton_self _⟩

theorem traverseAll_eq_mapM (f : alpha -> Except error beta) (parts : List (Formula alpha)) :
    traverseAll f parts = parts.mapM (traverse f) := by
  induction parts with
  | nil => rw [traverseAll, List.mapM_nil]; rfl
  | cons part rest ih => rw [traverseAll, List.mapM_cons, ih]

section Traversal

variable {conjuncts disjuncts : Nat} {fair : beta -> Prop}
variable {valuation : alpha -> Bool} {other : beta -> Bool}

/-- The second formula is well-formed and holds where the first does. -/
def Agrees (conjuncts disjuncts : Nat) (fair : beta -> Prop) (valuation : alpha -> Bool)
    (other : beta -> Bool) (formula : Formula alpha) (result : Formula beta) : Prop :=
  WellFormed conjuncts disjuncts fair result ∧ holds other result = holds valuation formula

theorem agrees_parts {parts : List (Formula alpha)} {results : List (Formula beta)}
    (h : List.Forall₂ (Agrees conjuncts disjuncts fair valuation other) parts results) :
    (forall result, result ∈ results -> WellFormed conjuncts disjuncts fair result)
      ∧ results.all (holds other) = parts.all (holds valuation)
      ∧ results.any (holds other) = parts.any (holds valuation) := by
  induction h with
  | nil => simp
  | cons hhead htail ih =>
      refine ⟨?_, ?_, ?_⟩
      · intro result hresult
        rcases List.mem_cons.mp hresult with rfl | hresult
        · exact hhead.left
        · exact ih.left result hresult
      · rw [List.all_cons, List.all_cons, hhead.right, ih.right.left]
      · rw [List.any_cons, List.any_cons, hhead.right, ih.right.right]

theorem agrees_traverse {f : alpha -> Except error beta} {good : alpha -> Prop}
    (hleaf : forall value found, good value -> f value = .ok found ->
      fair found ∧ other found = valuation value)
    {formula : Formula alpha} (h : WellFormed conjuncts disjuncts good formula)
    {result : Formula beta} (hresult : traverse f formula = .ok result) :
    Agrees conjuncts disjuncts fair valuation other formula result := by
  have hparts : forall {parts : List (Formula alpha)} {results : List (Formula beta)},
      (forall part, part ∈ parts -> forall {result}, traverse f part = .ok result ->
        Agrees conjuncts disjuncts fair valuation other part result) ->
      traverseAll f parts = .ok results ->
      List.Forall₂ (Agrees conjuncts disjuncts fair valuation other) parts results := by
    intro parts results ih htraverse
    rw [traverseAll_eq_mapM, mapM_eq_ok_iff] at htraverse
    exact ((List.forall₂_and_left _ _).mpr ⟨ih, htraverse⟩).imp
      (fun part result hboth => hboth.left hboth.right)
  induction h generalizing result with
  | @all parts size inner ih =>
      rw [traverse] at hresult
      rcases bind_eq_ok_iff.mp hresult with ⟨results, htraverse, heq⟩
      cases heq
      have hagree := hparts ih htraverse
      have hfacts := agrees_parts hagree
      refine ⟨.all (hagree.length_eq ▸ size) hfacts.left, ?_⟩
      rw [holds_all, holds_all, hfacts.right.left]
  | @any parts size inner ih =>
      rw [traverse] at hresult
      rcases bind_eq_ok_iff.mp hresult with ⟨results, htraverse, heq⟩
      cases heq
      have hagree := hparts ih htraverse
      have hfacts := agrees_parts hagree
      refine ⟨.any (hagree.length_eq ▸ size) hfacts.left, ?_⟩
      rw [holds_any, holds_any, hfacts.right.right]
  | negation inner ih =>
      rw [traverse] at hresult
      rcases bind_eq_ok_iff.mp hresult with ⟨found, htraverse, heq⟩
      cases heq
      have hagree := ih htraverse
      refine ⟨.negation hagree.left, ?_⟩
      rw [holds_negation, holds_negation, hagree.right]
  | leaf here =>
      rw [traverse] at hresult
      rcases bind_eq_ok_iff.mp hresult with ⟨found, hfound, heq⟩
      cases heq
      have hagree := hleaf _ found here hfound
      refine ⟨.leaf hagree.left, ?_⟩
      rw [holds_leaf, holds_leaf, hagree.right]

theorem WellFormed.of_mem_leaves {f : alpha -> Except error beta} {good : alpha -> Prop}
    {formula : Formula alpha} (h : WellFormed conjuncts disjuncts good formula)
    {result : Formula beta} (hresult : traverse f formula = .ok result) :
    forall value, value ∈ formula.leaves -> good value ∧ exists found, f value = .ok found := by
  have hparts : forall {parts : List (Formula alpha)} {results : List (Formula beta)},
      (forall part, part ∈ parts -> forall {result}, traverse f part = .ok result ->
        forall value, value ∈ part.leaves -> good value ∧ exists found, f value = .ok found) ->
      traverseAll f parts = .ok results -> forall value, value ∈ leavesOf parts ->
        good value ∧ exists found, f value = .ok found := by
    intro parts results ih htraverse value hvalue
    rw [leavesOf_eq_flatMap] at hvalue
    rcases List.mem_flatMap.mp hvalue with ⟨part, hpart, hleaf⟩
    rw [traverseAll_eq_mapM] at htraverse
    rcases exists_result_of_mem_mapM htraverse hpart with ⟨_, _, hpartResult⟩
    exact ih part hpart hpartResult value hleaf
  induction h generalizing result with
  | all size inner ih =>
      rw [traverse] at hresult
      rcases bind_eq_ok_iff.mp hresult with ⟨results, htraverse, _⟩
      rw [leaves]
      exact hparts ih htraverse
  | any size inner ih =>
      rw [traverse] at hresult
      rcases bind_eq_ok_iff.mp hresult with ⟨results, htraverse, _⟩
      rw [leaves]
      exact hparts ih htraverse
  | negation inner ih =>
      rw [traverse] at hresult
      rcases bind_eq_ok_iff.mp hresult with ⟨found, htraverse, _⟩
      rw [leaves]
      exact ih htraverse
  | leaf here =>
      rw [traverse] at hresult
      rcases bind_eq_ok_iff.mp hresult with ⟨found, hfound, _⟩
      rw [leaves]
      intro value hvalue
      cases List.mem_singleton.mp hvalue
      exact ⟨here, found, hfound⟩

end Traversal

end Formula
end Sql
end Rollup
