import Rollup.Proofs.Number.Comparison

/-!
# Order of values

Values are compared by number, text or truth value where both are of one kind, and
else by kind. Among values without a NaN this is a total order. Values of JSON are of
that sort: it writes finite numbers only.
-/

namespace Rollup

/-!
# Finite values
-/

namespace Json

mutual

def isFinite : Json -> Bool
  | .float x => x.isFinite
  | .arr items => itemsFinite items
  | .obj fields => fieldsFinite fields
  | _ => true

def itemsFinite : List Json -> Bool
  | [] => true
  | item :: rest => isFinite item && itemsFinite rest

def fieldsFinite : List (String × Json) -> Bool
  | [] => true
  | (_, value) :: rest => isFinite value && fieldsFinite rest

end

theorem itemsFinite_iff {items : List Json} :
    itemsFinite items = true <-> forall item, item ∈ items -> item.isFinite = true := by
  induction items with
  | nil => simp [itemsFinite]
  | cons item rest ih => simp [itemsFinite, ih]

theorem isFinite_of_lookup {fields : List (String × Json)} {key : String} {value : Json}
    (hfinite : fieldsFinite fields = true) (h : fields.lookup key = some value) :
    value.isFinite = true := by
  induction fields with
  | nil => cases h
  | cons entry rest ih =>
      obtain ⟨hentry, hrest⟩ := Bool.and_eq_true_iff.mp hfinite
      rw [List.lookup_cons] at h
      split at h
      · cases h
        exact hentry
      · exact ih hrest h

theorem isFinite_of_field? {source value : Json} {key : String} (hfinite : source.isFinite = true)
    (h : source.field? key = some value) : value.isFinite = true := by
  cases source with
  | obj fields => exact isFinite_of_lookup hfinite h
  | _ => cases h

theorem isFinite_ofFloat (x : Float) : (ofFloat x).isFinite = true := by
  unfold ofFloat
  split
  · assumption
  · rfl

end Json

namespace Store

mutual

theorem isFinite_of_mem_flatten :
    forall source : Json, source.isFinite = true ->
      forall value, value ∈ flatten source -> value.isFinite = true
  | .null => by
      intro _ value hmem
      cases hmem
  | .arr items => isFinite_of_mem_flattenAll items
  | .bool _ | .int _ | .float _ | .str _ | .obj _ => by
      intro hfinite value hmem
      rw [List.mem_singleton.mp hmem]
      exact hfinite

theorem isFinite_of_mem_flattenAll :
    forall items : List Json, Json.itemsFinite items = true ->
      forall value, value ∈ flattenAll items -> value.isFinite = true
  | [] => by
      intro _ value hmem
      cases hmem
  | item :: rest => by
      intro hfinite value hmem
      obtain ⟨hitem, hrest⟩ := Bool.and_eq_true_iff.mp hfinite
      rcases List.mem_append.mp hmem with hfirst | hlater
      · exact isFinite_of_mem_flatten item hitem value hfirst
      · exact isFinite_of_mem_flattenAll rest hrest value hlater

end

theorem isFinite_of_mem_children {key : String} {source value : Json}
    (hfinite : source.isFinite = true) (h : value ∈ children key source) :
    value.isFinite = true := by
  cases source with
  | obj fields => exact Json.isFinite_of_lookup hfinite (Option.mem_toList.mp h)
  | arr items =>
      obtain ⟨item, hmem, hfield⟩ := List.mem_filterMap.mp h
      exact Json.isFinite_of_field? (Json.itemsFinite_iff.mp hfinite item hmem) hfield
  | _ => cases h

theorem isFinite_of_mem_descend {keys : List String} {sources : List Json}
    (hfinite : forall source, source ∈ sources -> source.isFinite = true) :
    forall value, value ∈ descend keys sources -> value.isFinite = true := by
  induction keys generalizing sources with
  | nil => exact hfinite
  | cons key keys ih =>
      apply ih
      intro child hchild
      obtain ⟨source, hmem, hchild⟩ := List.mem_flatMap.mp hchild
      exact isFinite_of_mem_children (hfinite source hmem) hchild

theorem isFinite_of_mem_values {doc : Document} {field : String} {value : Json}
    (hfinite : doc.source.isFinite = true) (h : value ∈ doc.values field) :
    value.isFinite = true := by
  unfold Document.values at h
  split at h
  · rw [List.mem_singleton.mp h]
    rfl
  · rw [List.mem_singleton.mp h]
    rfl
  · obtain ⟨name, _, rfl⟩ := Option.map_eq_some_iff.mp (Option.mem_toList.mp h)
    rfl
  · split at h
    · rename_i direct hdirect
      exact isFinite_of_mem_flatten direct (Json.isFinite_of_field? hfinite hdirect) value h
    · apply isFinite_of_mem_flattenAll _ _ value h
      apply Json.itemsFinite_iff.mpr
      apply isFinite_of_mem_descend
      intro source hmem
      rw [List.mem_singleton.mp hmem]
      exact hfinite

/-!
# The total order
-/

def orderedText : Json -> String
  | .str text => text
  | .int _ => ""
  | .float _ => ""
  | .bool _ => ""
  | other => other.text

/-- The truth value as a number, and zero for all else. -/
def orderedTruth : Json -> Nat
  | .bool truth => truth.toNat
  | _ => 0

def valueOrder : Json -> Json -> Ordering :=
  compareLex (compareOn rank)
    (compareLex (fun a b => Number.floatOrder (a.toFloat?.getD 0) (b.toFloat?.getD 0))
      (compareLex (compareOn orderedTruth) (compareOn orderedText)))

instance : Std.TransCmp valueOrder :=
  have := transCmp_key Number.floatOrder (fun value : Json => value.toFloat?.getD 0)
  inferInstanceAs (Std.TransCmp (compareLex _ _))

theorem isNaN_of_toFloat? {value : Json} (hfinite : value.isFinite = true) {x : Float}
    (h : value.toFloat? = some x) : x.isNaN = false := by
  cases value with
  | int n =>
      cases h
      exact Number.isNaN_ofInt n
  | float y =>
      cases h
      exact Number.isNaN_of_isFinite hfinite
  | _ => cases h

theorem valueOrder_of_toFloat? {a b : Json} {x y : Float} (ha : a.toFloat? = some x)
    (hb : b.toFloat? = some y) : valueOrder a b = Number.floatOrder x y := by
  have hparts : forall {value : Json} {z : Float}, value.toFloat? = some z ->
      rank value = 0 ∧ orderedTruth value = 0 ∧ orderedText value = "" := by
    intro value z h
    cases value with
    | int n => exact ⟨rfl, rfl, rfl⟩
    | float w => exact ⟨rfl, rfl, rfl⟩
    | _ => cases h
  obtain ⟨hranka, htrutha, htexta⟩ := hparts ha
  obtain ⟨hrankb, htruthb, htextb⟩ := hparts hb
  simp [valueOrder, compareLex, compareOn, ha, hb, hranka, hrankb, htrutha, htruthb, htexta, htextb]

theorem compareValues_of_toFloat? {a b : Json} {x y : Float} (ha : a.toFloat? = some x)
    (hb : b.toFloat? = some y) : compareValues a b = compareFloats x y := by
  simp only [compareValues, ha, hb]

theorem rank_eq_zero_iff {value : Json} : rank value = 0 <-> exists x, value.toFloat? = some x := by
  cases value <;> simp [rank, Json.toFloat?]

theorem valueOrder_of_rank_ne {a b : Json} (h : rank a ≠ rank b) :
    valueOrder a b = compare (rank a) (rank b) := by
  show (compare (rank a) (rank b)).then _ = _
  cases hrank : compare (rank a) (rank b) with
  | lt => rfl
  | gt => rfl
  | eq => exact absurd (Nat.compare_eq_eq.mp hrank) h

theorem compareValues_of_rank_ne {a b : Json} (h : rank a ≠ rank b) :
    compareValues a b = compare (rank a) (rank b) := by
  cases a <;> cases b <;> first | exact absurd rfl h | rfl

theorem valueOrder_of_rank_eq {a b : Json} (ha : a.toFloat? = none) (hb : b.toFloat? = none)
    (h : rank a = rank b) :
    valueOrder a b
      = (compare (orderedTruth a) (orderedTruth b)).then
          (compareStrings (orderedText a) (orderedText b)) := by
  have hzero : Number.floatOrder 0 0 = .eq := Std.ReflCmp.compare_self
  have hrank : compare (rank a) (rank b) = .eq := Nat.compare_eq_eq.mpr h
  simp only [valueOrder, compareLex, compareOn, ha, hb, hrank, hzero, Option.getD_none,
    Ordering.then]
  rfl

theorem compareValues_of_rank_eq {a b : Json} (ha : a.toFloat? = none) (h : rank a = rank b) :
    compareValues a b
      = (compare (orderedTruth a) (orderedTruth b)).then
          (compareStrings (orderedText a) (orderedText b)) := by
  cases a with
  | int n => cases ha
  | float x => cases ha
  | str x =>
      cases b with
      | str y => rfl
      | _ => cases h
  | bool x =>
      cases b with
      | bool y => exact Ordering.then_eq.symm
      | _ => cases h
  | null | arr | obj =>
      cases b with
      | null | arr | obj => rfl
      | _ => cases h

theorem compareValues_eq_valueOrder {a b : Json} (ha : a.isFinite = true)
    (hb : b.isFinite = true) : compareValues a b = valueOrder a b := by
  by_cases hrank : rank a = rank b
  · cases hx : a.toFloat? with
    | some x =>
        obtain ⟨y, hy⟩ := rank_eq_zero_iff.mp (hrank.symm.trans (rank_eq_zero_iff.mpr ⟨x, hx⟩))
        rw [compareValues_of_toFloat? hx hy, valueOrder_of_toFloat? hx hy]
        exact Number.compareFloats_eq_floatOrder (isNaN_of_toFloat? ha hx) (isNaN_of_toFloat? hb hy)
    | none =>
        have hy : b.toFloat? = none := by
          cases hy : b.toFloat? with
          | none => rfl
          | some y =>
              obtain ⟨x, hx'⟩ := rank_eq_zero_iff.mp (hrank.trans (rank_eq_zero_iff.mpr ⟨y, hy⟩))
              rw [hx] at hx'
              cases hx'
        rw [compareValues_of_rank_eq hx hrank, valueOrder_of_rank_eq hx hy hrank]
  · rw [compareValues_of_rank_ne hrank, valueOrder_of_rank_ne hrank]

end Store
end Rollup
