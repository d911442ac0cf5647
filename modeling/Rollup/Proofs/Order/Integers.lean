import Rollup.Proofs.Number.Nearest

/-!
# Comparing integers

Integers are compared as floats, and a float has 53 bits. So each comparison sees the
nearest integers of 53 bits. It keeps the order of the integers, and it tells two of them
apart just where the nearest ones differ.
-/

namespace Rollup
namespace Store

open Number

/-- The integer has 64 bits, with a sign or without. -/
def IsWord (n : Int) : Prop :=
  -2 ^ 63 <= n ∧ n < 2 ^ 64

instance (n : Int) : Decidable (IsWord n) :=
  inferInstanceAs (Decidable (_ ∧ _))

theorem IsWord.natAbs_lt {n : Int} (h : IsWord n) : n.natAbs < 2 ^ 64 := by
  rcases h with ⟨hleast, hmost⟩
  omega

/-- Equality, the order of ranges and the order of sort keys take the values for `x` and `y`. -/
structure ComparesAs (value wanted : Json) (x y : Int) : Prop where
  equal : valuesEqual value wanted = decide (x = y)
  range : compareForRange value wanted = some (compare x y)
  order : compareValues value wanted = compare x y

theorem ComparesAs.congr {value wanted : Json} {x y a b : Int} (h : ComparesAs value wanted x y)
    (hsame : compare x y = compare a b) : ComparesAs value wanted a b := by
  have hequal : decide (x = y) = decide (a = b) := by
    apply decide_eq_decide.mpr
    rw [<- Int.compare_eq_eq, <- Int.compare_eq_eq, hsame]
  constructor
  · exact h.equal.trans hequal
  · exact h.range.trans (congrArg some hsame)
  · exact h.order.trans hsame

theorem compareFloats?_ofInt {a b : Int} (ha : IsWord a) (hb : IsWord b) :
    compareFloats? (Float.ofInt a) (Float.ofInt b) = some (compare (nearestInt a) (nearestInt b)) :=
  compareFloats?_eq_some_iff.mpr
    ⟨isNaN_ofInt a, isNaN_ofInt b, floatOrder_ofInt ha.natAbs_lt hb.natAbs_lt⟩

theorem beq_ofInt {a b : Int} (ha : IsWord a) (hb : IsWord b) :
    (Float.ofInt a == Float.ofInt b) = decide (nearestInt a = nearestInt b) := by
  apply Bool.eq_iff_iff.mpr
  rw [beq_iff_compare, compare_eq_some_iff, decide_eq_true_iff,
    floatOrder_ofInt ha.natAbs_lt hb.natAbs_lt, Int.compare_eq_eq]
  constructor
  · intro h
    exact h.right.right
  · intro heq
    exact ⟨isNaN_ofInt a, isNaN_ofInt b, heq⟩

theorem comparesAs_nearestInt {a b : Int} (ha : IsWord a) (hb : IsWord b) :
    ComparesAs (.int a) (.int b) (nearestInt a) (nearestInt b) := by
  have horder := compareFloats?_ofInt ha hb
  constructor
  · exact beq_ofInt ha hb
  · exact horder
  · show (compareFloats? (Float.ofInt a) (Float.ofInt b)).getD .eq = _
    rw [horder]
    rfl

theorem compare_nearestInt {a b : Int} (h : a = b ∨ nearestInt a ≠ nearestInt b) :
    compare (nearestInt a) (nearestInt b) = compare a b := by
  rcases Int.lt_trichotomy a b with hlt | rfl | hgt
  · have hle := nearestInt_mono (Int.le_of_lt hlt)
    have hne := h.resolve_left (Int.ne_of_lt hlt)
    rw [Int.compare_eq_lt.mpr hlt, Int.compare_eq_lt.mpr (lt_of_le_of_ne hle hne)]
  · rw [Int.compare_eq_eq.mpr rfl, Int.compare_eq_eq.mpr rfl]
  · have hle := nearestInt_mono (Int.le_of_lt hgt)
    have hne := h.resolve_left (Int.ne_of_gt hgt)
    rw [Int.compare_eq_gt.mpr hgt, Int.compare_eq_gt.mpr (lt_of_le_of_ne hle (Ne.symm hne))]

theorem nearestInt_ne {a b : Int} (hne : a ≠ b) (h : a.natAbs < 2 ^ 53) :
    nearestInt a ≠ nearestInt b := by
  have hbound : nearestInt (2 ^ 53) = 2 ^ 53 := by decide
  rw [nearestInt_of_natAbs_lt h]
  rcases Nat.lt_or_ge b.natAbs (2 ^ 53) with hshort | hlong
  · rwa [nearestInt_of_natAbs_lt hshort]
  · rcases Int.le_total 0 b with hpos | hneg
    · have hleast : nearestInt (2 ^ 53) <= nearestInt b := nearestInt_mono (by omega)
      omega
    · have hmost : nearestInt b <= nearestInt (-2 ^ 53) := nearestInt_mono (by omega)
      rw [nearestInt_neg] at hmost
      omega

/-- Integers compare as the nearest ones of 53 bits do. So they compare as themselves where
these tell the two apart, and always with an integer below `2 ^ 53`. -/
theorem comparesAs_self_iff {a b : Int} (ha : IsWord a) (hb : IsWord b) :
    ComparesAs (.int a) (.int b) (nearestInt a) (nearestInt b)
      ∧ (ComparesAs (.int a) (.int b) a b <-> a = b ∨ nearestInt a ≠ nearestInt b)
      ∧ (a.natAbs < 2 ^ 53 ∨ b.natAbs < 2 ^ 53 -> ComparesAs (.int a) (.int b) a b) := by
  have hnearest := comparesAs_nearestInt ha hb
  have hself : ComparesAs (.int a) (.int b) a b <-> a = b ∨ nearestInt a ≠ nearestInt b := by
    constructor
    · intro h
      by_cases heq : nearestInt a = nearestInt b
      · have hdecide := h.equal.symm.trans hnearest.equal
        exact Or.inl (of_decide_eq_true (hdecide.trans (decide_eq_true heq)))
      · exact Or.inr heq
    · intro h
      exact hnearest.congr (compare_nearestInt h)
  refine ⟨hnearest, hself, ?_⟩
  intro hshort
  apply hself.mpr
  by_cases heq : a = b
  · exact Or.inl heq
  · rcases hshort with hshort | hshort
    · exact Or.inr (nearestInt_ne heq hshort)
    · exact Or.inr (Ne.symm (nearestInt_ne (Ne.symm heq) hshort))

theorem comparesAs_self_iff_ends :
    IsWord (-2 ^ 63) ∧ IsWord (2 ^ 64 - 1)
      ∧ ComparesAs (.int (-2 ^ 63)) (.int (2 ^ 64 - 1)) (-2 ^ 63) (2 ^ 64 - 1) :=
  ⟨by decide, by decide,
    (comparesAs_self_iff (by decide) (by decide)).right.left.mpr (Or.inr (by decide))⟩

/-- The first odd integer beyond `2 ^ 53` counts as the one before it. -/
theorem comparisons_neighbours :
    valuesEqual (.int 9007199254740992) (.int 9007199254740993) = true
      ∧ compareForRange (.int 9007199254740992) (.int 9007199254740993) = some .eq
      ∧ compareValues (.int 9007199254740992) (.int 9007199254740993) = .eq := by
  have h : ComparesAs (.int 9007199254740992) (.int 9007199254740993) _ _ :=
    comparesAs_nearestInt (by decide) (by decide)
  have hsame : nearestInt 9007199254740992 = nearestInt 9007199254740993 := by decide
  rw [hsame] at h
  refine ⟨h.equal.trans (decide_eq_true rfl), h.range.trans ?_, h.order.trans ?_⟩
  · rw [Int.compare_eq_eq.mpr rfl]
  · rw [Int.compare_eq_eq.mpr rfl]

end Store
end Rollup
