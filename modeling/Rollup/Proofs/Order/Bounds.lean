import Rollup.Proofs.Number.Comparison
import Rollup.Proofs.Selection

/-!
# Bounds of range filters

A value is compared with a bound by number where both read as numbers, and by text where
both are texts. Each of the two is an order. So a lowered bound keeps the values above it
and a raised one those below it, as long as a value and two bounds are all compared alike.
One text that reads as no number, between two values that do, mixes the two orders.
-/

namespace Rollup
namespace Store

/-!
# Comparing alike
-/

def ReadsAsNumber (value : Json) : Prop :=
  exists x, asNumber? value = some x

instance (value : Json) : Decidable (ReadsAsNumber value) :=
  decidable_of_iff ((asNumber? value).isSome = true) Option.isSome_iff_exists

def IsPlainText (value : Json) : Prop :=
  (exists text, value = .str text) ∧ ¬ ReadsAsNumber value

/-- One of the three is a plain text and the two others count as numbers. -/
def IsMixed (a b c : Json) : Prop :=
  (IsPlainText a ∧ ReadsAsNumber b ∧ ReadsAsNumber c)
    ∨ (ReadsAsNumber a ∧ IsPlainText b ∧ ReadsAsNumber c)
    ∨ (ReadsAsNumber a ∧ ReadsAsNumber b ∧ IsPlainText c)

/-- Both are texts, and their order in a range is that of texts. -/
def ComparesAsText (a b : Json) : Prop :=
  exists s t, a = .str s ∧ b = .str t ∧ compareForRange a b = some (compareStrings s t)

/-- The value stays in the range when a bound gives way to one further out. -/
structure IsMonotone (value low high : Json) : Prop where
  gte : inBounds value { gte := some high } = true -> inBounds value { gte := some low } = true
  gt : inBounds value { gt := some high } = true -> inBounds value { gt := some low } = true
  lte : inBounds value { lte := some low } = true -> inBounds value { lte := some high } = true
  lt : inBounds value { lt := some low } = true -> inBounds value { lt := some high } = true

/-!
# One bound
-/

section Bounds

variable {value bound : Json}

theorem inBounds_gte_iff :
    inBounds value { gte := some bound } = true
      <-> exists order, compareForRange value bound = some order ∧ order ≠ .lt := by
  simp [inBounds, meetsBound_none, meetsBound_some_iff]

theorem inBounds_gt_iff :
    inBounds value { gt := some bound } = true <-> compareForRange value bound = some .gt := by
  simp [inBounds, meetsBound_none, meetsBound_some_iff]

theorem inBounds_lte_iff :
    inBounds value { lte := some bound } = true
      <-> exists order, compareForRange value bound = some order ∧ order ≠ .gt := by
  simp [inBounds, meetsBound_none, meetsBound_some_iff]

theorem inBounds_lt_iff :
    inBounds value { lt := some bound } = true <-> compareForRange value bound = some .lt := by
  simp [inBounds, meetsBound_none, meetsBound_some_iff]

end Bounds

/-!
# One order
-/

section Orders

variable {value low high : Json}

theorem isMonotone_of_incomparable (hlow : compareForRange value low = none)
    (hhigh : compareForRange value high = none) : IsMonotone value low high := by
  constructor
  · intro h
    rcases inBounds_gte_iff.mp h with ⟨order, horder, _⟩
    rw [hhigh] at horder
    cases horder
  · intro h
    rw [inBounds_gt_iff, hhigh] at h
    cases h
  · intro h
    rcases inBounds_lte_iff.mp h with ⟨order, horder, _⟩
    rw [hlow] at horder
    cases horder
  · intro h
    rw [inBounds_lt_iff, hlow] at h
    cases h

theorem isMonotone_of_order {key : Type} {order : key -> key -> Ordering} [Std.TransCmp order]
    {a b c : key} (hlow : compareForRange value low = some (order a b))
    (hhigh : compareForRange value high = some (order a c)) (hle : (order b c).isLE = true) :
    IsMonotone value low high := by
  have hge : (order c b).isGE = true := Std.OrientedCmp.isGE_of_isLE hle
  constructor
  · intro h
    rcases inBounds_gte_iff.mp h with ⟨decided, hdecided, hne⟩
    rw [hhigh] at hdecided
    cases hdecided
    have hgreater : (order a c).isGE = true := Ordering.isGE_iff_ne_lt.mpr hne
    have htrans : (order a b).isGE = true := Std.TransCmp.isGE_trans hgreater hge
    exact inBounds_gte_iff.mpr ⟨order a b, hlow, Ordering.isGE_iff_ne_lt.mp htrans⟩
  · intro h
    rw [inBounds_gt_iff, hhigh, Option.some.injEq] at h
    rw [inBounds_gt_iff, hlow, Option.some.injEq]
    exact Std.TransCmp.gt_of_gt_of_isGE h hge
  · intro h
    rcases inBounds_lte_iff.mp h with ⟨decided, hdecided, hne⟩
    rw [hlow] at hdecided
    cases hdecided
    have hless : (order a b).isLE = true := Ordering.isLE_iff_ne_gt.mpr hne
    have htrans : (order a c).isLE = true := Std.TransCmp.isLE_trans hless hle
    exact inBounds_lte_iff.mpr ⟨order a c, hhigh, Ordering.isLE_iff_ne_gt.mp htrans⟩
  · intro h
    rw [inBounds_lt_iff, hlow, Option.some.injEq] at h
    rw [inBounds_lt_iff, hhigh, Option.some.injEq]
    exact Std.TransCmp.lt_of_lt_of_isLE h hle

theorem compareForRange_of_numbers {x y : Float} (hvalue : asNumber? value = some x)
    (hlow : asNumber? low = some y) : compareForRange value low = compareFloats? x y := by
  unfold compareForRange
  rw [hvalue, hlow]

theorem isMonotone_of_numbers (hvalue : ReadsAsNumber value) (hlow : ReadsAsNumber low)
    (hhigh : ReadsAsNumber high) (hle : AtMost high low) : IsMonotone value low high := by
  rcases hvalue with ⟨x, hx⟩
  rcases hlow with ⟨y, hy⟩
  rcases hhigh with ⟨z, hz⟩
  have hvalueLow := compareForRange_of_numbers hx hy
  have hvalueHigh := compareForRange_of_numbers hx hz
  have hbounds : y.isNaN = false ∧ z.isNaN = false ∧ (Number.floatOrder y z).isLE = true := by
    rw [AtMost, compareForRange_of_numbers hy hz, Number.compareFloats?_eq_some_iff,
      Number.compareFloats?_eq_some_iff] at hle
    rcases hle with ⟨hynumber, hznumber, hless⟩ | ⟨hynumber, hznumber, hsame⟩
    · exact ⟨hynumber, hznumber, by rw [hless]; rfl⟩
    · exact ⟨hynumber, hznumber, by rw [hsame]; rfl⟩
  rcases hbounds with ⟨hynumber, hznumber, hordered⟩
  cases hxnumber : x.isNaN with
  | false =>
      have hsomeLow := Number.compareFloats?_eq_some_iff.mpr ⟨hxnumber, hynumber, rfl⟩
      have hsomeHigh := Number.compareFloats?_eq_some_iff.mpr ⟨hxnumber, hznumber, rfl⟩
      exact isMonotone_of_order (hvalueLow.trans hsomeLow) (hvalueHigh.trans hsomeHigh) hordered
  | true =>
      -- A NaN is in no range, so that there is nothing to keep.
      have hnone : forall w : Float, compareFloats? x w = none := by
        intro w
        rw [Option.eq_none_iff_forall_ne_some]
        intro order horder
        rw [(Number.compareFloats?_eq_some_iff.mp horder).left] at hxnumber
        cases hxnumber
      exact isMonotone_of_incomparable (hvalueLow.trans (hnone y)) (hvalueHigh.trans (hnone z))

instance : Std.TransCmp compareStrings :=
  inferInstanceAs (Std.TransCmp (compare : String -> String -> Ordering))

theorem isMonotone_of_texts (hvalueLow : ComparesAsText value low)
    (hvalueHigh : ComparesAsText value high) (hbounds : ComparesAsText low high)
    (hle : AtMost high low) : IsMonotone value low high := by
  rcases hvalueLow with ⟨s, t, rfl, rfl, hlow⟩
  rcases hvalueHigh with ⟨_, u, hs, rfl, hhigh⟩
  cases hs
  rcases hbounds with ⟨_, _, ht, hu, horder⟩
  cases ht
  cases hu
  apply isMonotone_of_order hlow hhigh
  rw [AtMost, horder] at hle
  rcases hle with hless | hsame
  · rw [Option.some.inj hless]
    rfl
  · rw [Option.some.inj hsame]
    rfl

/-!
# Two orders

Where one of two values reads as no number, they are compared as texts or not at all.
-/

theorem comparesAsText_of_texts {s t : String}
    (h : ¬ (ReadsAsNumber (.str s) ∧ ReadsAsNumber (.str t))) :
    ComparesAsText (.str s) (.str t) := by
  refine ⟨s, t, rfl, rfl, ?_⟩
  unfold compareForRange
  split
  · rename_i x y hx hy
    exact absurd ⟨⟨x, hx⟩, ⟨y, hy⟩⟩ h
  · rfl

theorem comparesAsText_of_eq_some (h : ¬ (ReadsAsNumber value ∧ ReadsAsNumber low))
    {order : Ordering} (horder : compareForRange value low = some order) :
    ComparesAsText value low := by
  have htexts : exists s t, value = .str s ∧ low = .str t := by
    unfold compareForRange at horder
    split at horder
    · rename_i x y hx hy
      exact absurd ⟨⟨x, hx⟩, ⟨y, hy⟩⟩ h
    · split at horder
      · exact ⟨_, _, rfl, rfl⟩
      · cases horder
  rcases htexts with ⟨s, t, rfl, rfl⟩
  exact comparesAsText_of_texts h

theorem compareForRange_eq_none (h : ¬ (ReadsAsNumber value ∧ ReadsAsNumber low))
    (htext : ¬ exists s, value = .str s) : compareForRange value low = none := by
  rw [Option.eq_none_iff_forall_ne_some]
  intro order hsome
  rcases comparesAsText_of_eq_some h hsome with ⟨s, _, rfl, _⟩
  exact htext ⟨s, rfl⟩

theorem comparesAsText_of_atMost (h : ¬ (ReadsAsNumber low ∧ ReadsAsNumber high))
    (hle : AtMost high low) : ComparesAsText low high := by
  rcases hle with hless | hsame
  · exact comparesAsText_of_eq_some h hless
  · exact comparesAsText_of_eq_some h hsame

theorem isMonotone_of_plain (hvalueLow : ¬ (ReadsAsNumber value ∧ ReadsAsNumber low))
    (hvalueHigh : ¬ (ReadsAsNumber value ∧ ReadsAsNumber high))
    (hbounds : ¬ (ReadsAsNumber low ∧ ReadsAsNumber high)) (hle : AtMost high low) :
    IsMonotone value low high := by
  by_cases htext : exists s, value = .str s
  · rcases htext with ⟨s, rfl⟩
    rcases comparesAsText_of_atMost hbounds hle with ⟨t, u, rfl, rfl, horder⟩
    exact isMonotone_of_texts (comparesAsText_of_texts hvalueLow)
      (comparesAsText_of_texts hvalueHigh) ⟨t, u, rfl, rfl, horder⟩ hle
  · exact isMonotone_of_incomparable (compareForRange_eq_none hvalueLow htext)
      (compareForRange_eq_none hvalueHigh htext)

end Orders

/-- A bound may give way to one further out, unless a value and two bounds are a plain text and
two numbers, which are not in the order of their texts. -/
theorem isMonotone_inBounds {value low high : Json} (hle : AtMost high low)
    (hmixed : IsMixed value low high ->
      ComparesAsText value low ∧ ComparesAsText value high ∧ ComparesAsText low high) :
    IsMonotone value low high := by
  by_cases hkinds : IsMixed value low high
  · rcases hmixed hkinds with ⟨hvalueLow, hvalueHigh, hbounds⟩
    exact isMonotone_of_texts hvalueLow hvalueHigh hbounds hle
  by_cases hvalue : ReadsAsNumber value
  · by_cases hlow : ReadsAsNumber low
    · by_cases hhigh : ReadsAsNumber high
      · exact isMonotone_of_numbers hvalue hlow hhigh hle
      · rcases comparesAsText_of_atMost (fun h => hhigh h.right) hle with ⟨_, u, _, hu, _⟩
        exact absurd (Or.inr (Or.inr ⟨hvalue, hlow, ⟨u, hu⟩, hhigh⟩)) hkinds
    · by_cases hhigh : ReadsAsNumber high
      · rcases comparesAsText_of_atMost (fun h => hlow h.left) hle with ⟨t, _, ht, _, _⟩
        exact absurd (Or.inr (Or.inl ⟨hvalue, ⟨⟨t, ht⟩, hlow⟩, hhigh⟩)) hkinds
      · exact isMonotone_of_plain (fun h => hlow h.right) (fun h => hhigh h.right)
          (fun h => hlow h.left) hle
  · by_cases hbounds : ReadsAsNumber low ∧ ReadsAsNumber high
    · -- A value that is no text either is in no range.
      have htext : ¬ exists s, value = .str s :=
        fun h => hkinds (Or.inl ⟨⟨h, hvalue⟩, hbounds.left, hbounds.right⟩)
      exact isMonotone_of_incomparable (compareForRange_eq_none (fun h => hvalue h.left) htext)
        (compareForRange_eq_none (fun h => hvalue h.left) htext)
    · exact isMonotone_of_plain (fun h => hvalue h.left) (fun h => hvalue h.left) hbounds hle

/-- Where numbers stand in the order of their texts, a text between them does no harm. -/
theorem isMonotone_inBounds_partCodes :
    IsMixed (.str "30") (.str "10") (.str "1a") ∧ AtMost (.str "1a") (.str "10")
      ∧ IsMonotone (.str "30") (.str "10") (.str "1a") := by
  have hmixed : IsMixed (.str "30") (.str "10") (.str "1a") :=
    Or.inr (Or.inr ⟨by decide +kernel, by decide +kernel, ⟨"1a", rfl⟩, by decide +kernel⟩)
  have hle : AtMost (.str "1a") (.str "10") := Or.inl (by decide +kernel)
  refine ⟨hmixed, hle, isMonotone_inBounds hle ?_⟩
  intro _
  exact ⟨⟨"30", "10", rfl, rfl, by decide +kernel⟩, ⟨"30", "1a", rfl, rfl, by decide +kernel⟩,
    ⟨"10", "1a", rfl, rfl, by decide +kernel⟩⟩

/-- The number 9 is below the number 10, but the text is above `1a`, which is above `10`. -/
theorem not_isMonotone_partCodes :
    compareForRange (.str "10") (.str "1a") = some .lt
      ∧ inBounds (.str "9") { gte := some (.str "1a") } = true
      ∧ inBounds (.str "9") { gte := some (.str "10") } = false
      ∧ inBounds (.str "9") { lt := some (.str "10") } = true
      ∧ inBounds (.str "9") { lt := some (.str "1a") } = false := by
  decide +kernel

end Store
end Rollup
