import Rollup.Proofs.Order.Values

/-!
# Documents in order

Documents are arranged by sort keys: by the least value of a field or, descending, by the
greatest, with the documents that lack the field last. Documents that agree in all keys
keep the order in which they were stored.
-/

namespace Rollup
namespace Store

open Sql (Direction)

/-!
# Arranged documents
-/

/-- The value that stands for a field: ascending the least, descending the greatest. -/
def IsSortValue : Direction -> List Json -> Json -> Prop
  | .asc, values, value =>
      value ∈ values ∧ forall other, other ∈ values -> compareValues value other ≠ .gt
  | .desc, values, value =>
      value ∈ values ∧ forall other, other ∈ values -> compareValues value other ≠ .lt

/-- How two documents compare by a sort key. -/
inductive SortsAs (key : String × Direction) (a b : Document) : Ordering -> Prop
  | ascending {x y : Json} (hkey : key.2 = .asc) (hx : IsSortValue .asc (a.values key.1) x)
      (hy : IsSortValue .asc (b.values key.1) y) : SortsAs key a b (compareValues x y)
  | descending {x y : Json} (hkey : key.2 = .desc) (hx : IsSortValue .desc (a.values key.1) x)
      (hy : IsSortValue .desc (b.values key.1) y) : SortsAs key a b (compareValues x y).swap
  | missingSecond (ha : a.values key.1 ≠ []) (hb : b.values key.1 = []) : SortsAs key a b .lt
  | missingFirst (ha : a.values key.1 = []) (hb : b.values key.1 ≠ []) : SortsAs key a b .gt
  | missingBoth (ha : a.values key.1 = []) (hb : b.values key.1 = []) : SortsAs key a b .eq

/-- The first key in which the documents differ puts the one before the other. -/
inductive Precedes : List (String × Direction) -> Document -> Document -> Prop
  | decided {key : String × Direction} {keys : List (String × Direction)} {a b : Document}
      (h : SortsAs key a b .lt) : Precedes (key :: keys) a b
  | later {key : String × Direction} {keys : List (String × Direction)} {a b : Document}
      (h : SortsAs key a b .eq) (hlater : Precedes keys a b) : Precedes (key :: keys) a b

def Agree (keys : List (String × Direction)) (a b : Document) : Prop :=
  forall key, key ∈ keys -> SortsAs key a b .eq

/-- The documents with their positions, arranged by the keys and then by position. -/
structure IsArranged (keys : List (String × Direction)) (docs : List Document)
    (arranged : List (Document × Nat)) : Prop where
  perm : arranged.Perm docs.zipIdx
  sorted : arranged.Pairwise (fun a b =>
    Precedes keys a.1 b.1 ∨ (Agree keys a.1 b.1 ∧ a.2 < b.2))

/-!
# Least values
-/

theorem leastBy_congr {order other : Json -> Json -> Ordering} {values : List Json}
    (h : forall a, a ∈ values -> forall b, b ∈ values -> order a b = other a b) :
    leastBy order values = leastBy other values := by
  cases values with
  | nil => rfl
  | cons first rest =>
      refine congrArg some ?_
      induction rest generalizing first with
      | nil => rfl
      | cons value rest ih =>
          have hsame : order value first = other value first :=
            h value (.tail _ (.head _)) first (.head _)
          rw [List.foldl_cons, List.foldl_cons, hsame]
          apply ih
          intro a ha b hb
          have hstay : forall c, c ∈ (if other value first == .lt then value else first) :: rest ->
              c ∈ first :: value :: rest := by
            intro c hc
            split at hc
            · exact List.mem_cons_of_mem first hc
            · rcases List.mem_cons.mp hc with rfl | hrest
              · exact .head _
              · exact .tail _ (.tail _ hrest)
          exact h a (hstay a ha) b (hstay b hb)

theorem leastBy_nil_iff {order : Json -> Json -> Ordering} {values : List Json} :
    leastBy order values = none <-> values = [] := by
  cases values <;> simp [leastBy]

theorem leastBy_spec {order : Json -> Json -> Ordering} [Std.TransCmp order] {values : List Json}
    {least : Json} (h : leastBy order values = some least) :
    least ∈ values ∧ forall other, other ∈ values -> (order least other).isLE = true := by
  cases values with
  | nil => cases h
  | cons first rest =>
      have hfold := Option.some.inj h
      clear h
      induction rest generalizing first with
      | nil =>
          cases hfold
          refine ⟨List.mem_singleton_self _, fun other hother => ?_⟩
          rw [List.mem_singleton.mp hother]
          exact Std.ReflCmp.isLE_rfl
      | cons value rest ih =>
          -- The better of the first two precedes both, so what precedes it precedes them.
          rw [List.foldl_cons] at hfold
          obtain ⟨hmem, hleast⟩ := ih _ hfold
          by_cases hlt : order value first = .lt
          · rw [if_pos (beq_iff_eq.mpr hlt)] at hmem hleast
            refine ⟨List.mem_cons_of_mem first hmem, fun other hother => ?_⟩
            rcases List.mem_cons.mp hother with rfl | hrest
            · have hvalue := hleast value List.mem_cons_self
              exact Std.TransCmp.isLE_trans hvalue (Ordering.isLE_of_eq_lt hlt)
            · exact hleast other hrest
          · rw [if_neg (fun hbeq => hlt (beq_iff_eq.mp hbeq))] at hmem hleast
            constructor
            · rcases List.mem_cons.mp hmem with rfl | hrest
              · exact .head _
              · exact .tail _ (.tail _ hrest)
            · intro other hother
              have hfirst := hleast first List.mem_cons_self
              rcases List.mem_cons.mp hother with rfl | hother
              · exact hfirst
              rcases List.mem_cons.mp hother with rfl | hrest
              · have hswap : order first other = (order other first).swap := Std.OrientedCmp.eq_swap
                have hge : (order first other).isLE = true := by
                  rw [hswap]
                  cases horder : order other first with
                  | lt => exact absurd horder hlt
                  | eq => rfl
                  | gt => rfl
                exact Std.TransCmp.isLE_trans hfirst hge
              · exact hleast other (List.mem_cons_of_mem first hrest)

theorem IsSortValue.mem {direction : Direction} {values : List Json} {x : Json}
    (h : IsSortValue direction values x) : x ∈ values := by
  cases direction with
  | asc => exact h.left
  | desc => exact h.left

theorem IsSortValue.valueOrder_eq {direction : Direction} {values : List Json} {x y : Json}
    (hfinite : forall value, value ∈ values -> value.isFinite = true)
    (hx : IsSortValue direction values x) (hy : IsSortValue direction values y) :
    valueOrder x y = .eq := by
  have hcompare : compareValues x y = valueOrder x y :=
    compareValues_eq_valueOrder (hfinite x hx.mem) (hfinite y hy.mem)
  have hback : compareValues y x = (valueOrder x y).swap := by
    rw [compareValues_eq_valueOrder (hfinite y hy.mem) (hfinite x hx.mem)]
    exact Std.OrientedCmp.eq_swap
  cases hdecided : valueOrder x y with
  | eq => rfl
  | lt =>
      rw [hdecided] at hcompare hback
      cases direction with
      | asc => exact absurd hback (hy.right x hx.left)
      | desc => exact absurd hcompare (hx.right y hy.left)
  | gt =>
      rw [hdecided] at hcompare hback
      cases direction with
      | asc => exact absurd hcompare (hx.right y hy.left)
      | desc => exact absurd hback (hy.right x hx.left)

/-!
# Sort values

Documents are compared as their values are, and these by a total order as long as no
document holds a NaN.
-/

def compareBySortKey (key : String × Direction) (a b : Document) : Ordering :=
  compareSortValues key.2 (sortValue key.2 a key.1) (sortValue key.2 b key.1)

section Finite

variable {a b : Document} (ha : a.source.isFinite = true) (hb : b.source.isFinite = true)

include ha

theorem sortValue_eq_leastBy (key : String × Direction) :
    sortValue key.2 a key.1
      = leastBy (fun x y => orient key.2 (valueOrder x y)) (a.values key.1) := by
  apply leastBy_congr
  intro x hx y hy
  rw [compareValues_eq_valueOrder (isFinite_of_mem_values ha hx) (isFinite_of_mem_values ha hy)]

theorem isSortValue_of_sortValue {key : String × Direction} {value : Json}
    (h : sortValue key.2 a key.1 = some value) : IsSortValue key.2 (a.values key.1) value := by
  have := transCmp_orient valueOrder key.2
  rw [sortValue_eq_leastBy ha] at h
  obtain ⟨hmem, hleast⟩ := leastBy_spec h
  have hcompare : forall other, other ∈ a.values key.1 ->
      (orient key.2 (compareValues value other)).isLE = true := by
    intro other hother
    rw [compareValues_eq_valueOrder (isFinite_of_mem_values ha hmem)
      (isFinite_of_mem_values ha hother)]
    exact hleast other hother
  obtain ⟨field, direction⟩ := key
  cases direction with
  | asc =>
      refine ⟨hmem, fun other hother hgt => ?_⟩
      have hle := hcompare other hother
      rw [hgt] at hle
      cases hle
  | desc =>
      refine ⟨hmem, fun other hother hlt => ?_⟩
      have hle := hcompare other hother
      rw [hlt] at hle
      cases hle

theorem isFinite_of_sortValue {key : String × Direction} {value : Json}
    (h : sortValue key.2 a key.1 = some value) : value.isFinite = true := by
  have := transCmp_orient valueOrder key.2
  rw [sortValue_eq_leastBy ha] at h
  exact isFinite_of_mem_values ha (leastBy_spec h).left

theorem exists_sortValue {key : String × Direction} {x : Json}
    (h : IsSortValue key.2 (a.values key.1) x) :
    exists value, sortValue key.2 a key.1 = some value ∧ value.isFinite = true
      ∧ valueOrder value x = .eq := by
  cases hvalue : sortValue key.2 a key.1 with
  | none =>
      have hmem := h.mem
      rw [leastBy_nil_iff.mp hvalue] at hmem
      cases hmem
  | some value =>
      have hfinite := fun other (hmem : other ∈ a.values key.1) => isFinite_of_mem_values ha hmem
      exact ⟨value, rfl, isFinite_of_sortValue ha hvalue,
        (isSortValue_of_sortValue ha hvalue).valueOrder_eq hfinite h⟩

omit ha in
theorem sortValue_eq_none_iff {key : String × Direction} :
    sortValue key.2 a key.1 = none <-> a.values key.1 = [] :=
  leastBy_nil_iff

omit ha in
theorem exists_sortValue_of_values_ne_nil {key : String × Direction} (h : a.values key.1 ≠ []) :
    exists value, sortValue key.2 a key.1 = some value := by
  cases hvalue : sortValue key.2 a key.1 with
  | none => exact absurd (sortValue_eq_none_iff.mp hvalue) h
  | some value => exact ⟨value, rfl⟩

omit ha in
theorem values_ne_nil_of_sortValue {key : String × Direction} {value : Json}
    (h : sortValue key.2 a key.1 = some value) : a.values key.1 ≠ [] := by
  intro hnil
  rw [sortValue_eq_none_iff.mpr hnil] at h
  cases h

include hb

theorem sortsAs_compareBySortKey (key : String × Direction) :
    SortsAs key a b (compareBySortKey key a b) := by
  unfold compareBySortKey
  cases hx : sortValue key.2 a key.1 with
  | some x =>
      cases hy : sortValue key.2 b key.1 with
      | some y =>
          have hfirst := isSortValue_of_sortValue ha hx
          have hsecond := isSortValue_of_sortValue hb hy
          obtain ⟨field, direction⟩ := key
          cases direction with
          | asc => exact .ascending rfl hfirst hsecond
          | desc => exact .descending rfl hfirst hsecond
      | none => exact .missingSecond (values_ne_nil_of_sortValue hx) (sortValue_eq_none_iff.mp hy)
  | none =>
      cases hy : sortValue key.2 b key.1 with
      | some y => exact .missingFirst (sortValue_eq_none_iff.mp hx) (values_ne_nil_of_sortValue hy)
      | none => exact .missingBoth (sortValue_eq_none_iff.mp hx) (sortValue_eq_none_iff.mp hy)

theorem compareBySortKey_of_isSortValue {key : String × Direction} {x y : Json}
    (hx : IsSortValue key.2 (a.values key.1) x) (hy : IsSortValue key.2 (b.values key.1) y) :
    compareBySortKey key a b = orient key.2 (compareValues x y) := by
  rcases exists_sortValue ha hx with ⟨first, hfirst, hfinitefirst, hsame⟩
  rcases exists_sortValue hb hy with ⟨second, hsecond, hfinitesecond, halike⟩
  have hcompare : compareValues first second = compareValues x y := by
    rw [compareValues_eq_valueOrder hfinitefirst hfinitesecond,
      compareValues_eq_valueOrder (isFinite_of_mem_values ha hx.mem)
        (isFinite_of_mem_values hb hy.mem),
      Std.TransCmp.congr_left hsame, Std.TransCmp.congr_right halike]
  rw [compareBySortKey, hfirst, hsecond, compareSortValues, hcompare]

theorem compareBySortKey_of_sortsAs {key : String × Direction} {decided : Ordering}
    (h : SortsAs key a b decided) : compareBySortKey key a b = decided := by
  cases h with
  | ascending hkey hx hy =>
      rw [<- hkey] at hx hy
      rw [compareBySortKey_of_isSortValue ha hb hx hy, hkey]
      rfl
  | descending hkey hx hy =>
      rw [<- hkey] at hx hy
      rw [compareBySortKey_of_isSortValue ha hb hx hy, hkey]
      rfl
  | missingSecond hfirst hsecond =>
      rcases exists_sortValue_of_values_ne_nil hfirst with ⟨value, hvalue⟩
      rw [compareBySortKey, hvalue, sortValue_eq_none_iff.mpr hsecond]
      rfl
  | missingFirst hfirst hsecond =>
      rcases exists_sortValue_of_values_ne_nil hsecond with ⟨value, hvalue⟩
      rw [compareBySortKey, hvalue, sortValue_eq_none_iff.mpr hfirst]
      rfl
  | missingBoth hfirst hsecond =>
      rw [compareBySortKey, sortValue_eq_none_iff.mpr hfirst, sortValue_eq_none_iff.mpr hsecond]
      rfl

theorem compareBySortKey_eq_missingLast (key : String × Direction) :
    compareBySortKey key a b
      = missingLast (fun x y => orient key.2 (valueOrder x y)) (sortValue key.2 a key.1)
          (sortValue key.2 b key.1) := by
  unfold compareBySortKey
  cases hx : sortValue key.2 a key.1 with
  | none => cases sortValue key.2 b key.1 <;> rfl
  | some x =>
      cases hy : sortValue key.2 b key.1 with
      | none => rfl
      | some y =>
          show orient key.2 (compareValues x y) = orient key.2 (valueOrder x y)
          rw [compareValues_eq_valueOrder (isFinite_of_sortValue ha hx)
            (isFinite_of_sortValue hb hy)]

end Finite

/-!
# Sorting
-/

def compareDocuments (keys : List (String × Direction)) (a b : Document) : Ordering :=
  firstDecided (keys.map (fun key => compareBySortKey key a b))

theorem compareDocuments_cons (key : String × Direction) (keys : List (String × Direction))
    (a b : Document) :
    compareDocuments (key :: keys) a b
      = (compareBySortKey key a b).then (compareDocuments keys a b) :=
  rfl

def documentOrder (keys : List (String × Direction)) (a b : Document) : Ordering :=
  firstDecided ((keys.map (fun key (a b : Document) =>
    missingLast (fun x y => orient key.2 (valueOrder x y)) (sortValue key.2 a key.1)
      (sortValue key.2 b key.1))).map (fun order => order a b))

instance (keys : List (String × Direction)) : Std.TransCmp (documentOrder keys) := by
  apply transCmp_firstDecided
  intro order hmem
  obtain ⟨key, _, rfl⟩ := List.mem_map.mp hmem
  have := transCmp_orient valueOrder key.2
  have := transCmp_missingLast (fun x y => orient key.2 (valueOrder x y))
  exact transCmp_key _ (fun doc : Document => sortValue key.2 doc key.1)

theorem compareDocuments_eq_documentOrder (keys : List (String × Direction)) {a b : Document}
    (ha : a.source.isFinite = true) (hb : b.source.isFinite = true) :
    compareDocuments keys a b = documentOrder keys a b := by
  rw [compareDocuments, documentOrder, List.map_map]
  exact congrArg firstDecided (List.map_congr_left (fun key _ =>
    compareBySortKey_eq_missingLast ha hb key))

theorem sortDocuments_eq_mergeSort (sort : List (List (String × Direction)))
    (docs : List Document) :
    sortDocuments sort docs
      = docs.mergeSort (fun a b => compareDocuments (sortKeys sort) a b != .gt) := by
  have hkeyed : forall (keys : List (String × Direction)) (a b : Document),
      compareKeyed (keys.map Prod.snd)
          (keys.map (fun key => sortValue key.2 a key.1))
          (keys.map (fun key => sortValue key.2 b key.1))
        = compareDocuments keys a b := by
    intro keys a b
    induction keys with
    | nil => rfl
    | cons key rest ih => exact congrArg (Ordering.then _) ih
  unfold sortDocuments
  dsimp only
  rw [List.map_mergeSort (s := fun a b => compareDocuments (sortKeys sort) a b != .gt)]
  · rw [List.map_map]
    exact congrArg (List.mergeSort · _) (List.map_id docs)
  · intro a ha b hb
    obtain ⟨docA, _, rfl⟩ := List.mem_map.mp ha
    obtain ⟨docB, _, rfl⟩ := List.mem_map.mp hb
    exact congrArg (fun order => order != .gt) (hkeyed (sortKeys sort) docA docB)

theorem precedes_of_compareDocuments {keys : List (String × Direction)} {a b : Document}
    (ha : a.source.isFinite = true) (hb : b.source.isFinite = true)
    (h : compareDocuments keys a b = .lt) : Precedes keys a b := by
  induction keys with
  | nil => cases h
  | cons key rest ih =>
      have hkey := sortsAs_compareBySortKey ha hb key
      rw [compareDocuments_cons] at h
      rcases Ordering.then_eq_lt.mp h with hlt | ⟨heq, hrest⟩
      · rw [hlt] at hkey
        exact .decided hkey
      · rw [heq] at hkey
        exact .later hkey (ih hrest)

theorem agree_of_compareDocuments {keys : List (String × Direction)} {a b : Document}
    (ha : a.source.isFinite = true) (hb : b.source.isFinite = true)
    (h : compareDocuments keys a b = .eq) : Agree keys a b := by
  induction keys with
  | nil => exact fun key hkey => by cases hkey
  | cons key rest ih =>
      rw [compareDocuments_cons] at h
      obtain ⟨heq, hrest⟩ := Ordering.then_eq_eq.mp h
      intro other hother
      rcases List.mem_cons.mp hother with rfl | hother
      · have hkey := sortsAs_compareBySortKey ha hb other
        rw [heq] at hkey
        exact hkey
      · exact ih hrest other hother

theorem compareDocuments_of_precedes {keys : List (String × Direction)} {a b : Document}
    (ha : a.source.isFinite = true) (hb : b.source.isFinite = true) (h : Precedes keys a b) :
    compareDocuments keys a b = .lt := by
  induction h with
  | decided hkey =>
      rw [compareDocuments_cons, compareBySortKey_of_sortsAs ha hb hkey]
      rfl
  | later hkey _ ih =>
      rw [compareDocuments_cons, compareBySortKey_of_sortsAs ha hb hkey, ih ha hb]
      rfl

theorem compareDocuments_of_agree {keys : List (String × Direction)} {a b : Document}
    (ha : a.source.isFinite = true) (hb : b.source.isFinite = true) (h : Agree keys a b) :
    compareDocuments keys a b = .eq := by
  induction keys with
  | nil => rfl
  | cons key rest ih =>
      rw [compareDocuments_cons, compareBySortKey_of_sortsAs ha hb (h key List.mem_cons_self),
        ih (fun other hother => h other (List.mem_cons_of_mem key hother))]
      rfl

theorem IsArranged.unique {keys : List (String × Direction)} {docs : List Document}
    (hfinite : forall doc, doc ∈ docs -> doc.source.isFinite = true)
    {arranged other : List (Document × Nat)} (h : IsArranged keys docs arranged)
    (hother : IsArranged keys docs other) : arranged = other := by
  apply List.Perm.eq_of_pairwise ?_ h.sorted hother.sorted (h.perm.trans hother.perm.symm)
  intro a b ha hb hab hba
  have hfinitea := hfinite a.1 (List.fst_mem_of_mem_zipIdx (h.perm.mem_iff.mp ha))
  have hfiniteb := hfinite b.1 (List.fst_mem_of_mem_zipIdx (hother.perm.mem_iff.mp hb))
  have hswap : compareDocuments keys b.1 a.1 = (compareDocuments keys a.1 b.1).swap := by
    rw [compareDocuments_eq_documentOrder keys hfinitea hfiniteb,
      compareDocuments_eq_documentOrder keys hfiniteb hfinitea]
    exact Std.OrientedCmp.eq_swap
  rcases hab with hlt | ⟨heq, hbefore⟩
  · rw [compareDocuments_of_precedes hfinitea hfiniteb hlt] at hswap
    rcases hba with hback | ⟨hback, _⟩
    · rw [compareDocuments_of_precedes hfiniteb hfinitea hback] at hswap
      cases hswap
    · rw [compareDocuments_of_agree hfiniteb hfinitea hback] at hswap
      cases hswap
  · rw [compareDocuments_of_agree hfinitea hfiniteb heq] at hswap
    rcases hba with hback | ⟨_, hafter⟩
    · rw [compareDocuments_of_precedes hfiniteb hfinitea hback] at hswap
      cases hswap
    · omega

theorem isArranged_sortDocuments (sort : List (List (String × Direction))) {docs : List Document}
    (hfinite : forall doc, doc ∈ docs -> doc.source.isFinite = true) :
    exists arranged, IsArranged (sortKeys sort) docs arranged
      ∧ sortDocuments sort docs = arranged.map Prod.fst := by
  have hagree : forall a, a ∈ docs -> forall b, b ∈ docs ->
      compareDocuments (sortKeys sort) a b = documentOrder (sortKeys sort) a b :=
    fun a ha b hb => compareDocuments_eq_documentOrder _ (hfinite a ha) (hfinite b hb)
  obtain ⟨arranged, hperm, hmap, hsorted⟩ :=
    @exists_arranged_mergeSort _ (documentOrder (sortKeys sort)) _ docs
  refine ⟨arranged, ⟨hperm, ?_⟩, ?_⟩
  · apply hsorted.imp_of_mem
    intro a b ha hb hab
    have hmem : forall entry, entry ∈ arranged -> entry.1 ∈ docs :=
      fun entry hentry => List.fst_mem_of_mem_zipIdx (hperm.mem_iff.mp hentry)
    have hfinitea := hfinite a.1 (hmem a ha)
    have hfiniteb := hfinite b.1 (hmem b hb)
    rw [<- hagree a.1 (hmem a ha) b.1 (hmem b hb)] at hab
    rcases hab with hlt | ⟨heq, hposition⟩
    · exact Or.inl (precedes_of_compareDocuments hfinitea hfiniteb hlt)
    · exact Or.inr ⟨agree_of_compareDocuments hfinitea hfiniteb heq, hposition⟩
  · rw [sortDocuments_eq_mergeSort, hmap]
    apply mergeSort_congr
    intro a ha b hb
    rw [hagree a ha b hb]

end Store
end Rollup
