import Rollup.Proofs.Grouping.Ranking
import Rollup.Proofs.Number.Reading

/-!
# Ranges between boundaries

The boundaries of a range call are numbers, each greater than the one before it. The ranges
between them divide the numbers from the first boundary to the last: each of these numbers
is in one range, and no other number is in any. So documents with one number are counted
once, and those with several once in each range that has one of them.
-/

namespace Rollup

/-!
# Boundaries
-/

namespace Plan

open Request (Bucketing)
open Sql (BucketCall Literal)

theorem boundaryValues_cons_cases {previous : Option Float} {literal : Literal}
    {rest : List Literal} {values : List Float}
    (h : boundaryValues previous (literal :: rest) = .ok values) :
    exists value others, literal.toFloat? = some value
      ∧ (forall last, previous = some last -> ¬ value <= last)
      ∧ boundaryValues (some value) rest = .ok others
      ∧ values = value :: others := by
  rw [boundaryValues] at h
  cases hvalue : literal.toFloat? with
  | none =>
      rw [hvalue] at h
      cases h
  | some value =>
      rw [hvalue] at h
      cases previous with
      | none =>
          rcases bind_eq_ok_iff.mp h with ⟨others, hothers, heq⟩
          cases heq
          exact ⟨value, others, rfl, (fun _ hlast => by cases hlast), hothers, rfl⟩
      | some before =>
          dsimp only at h
          by_cases hle : value <= before
          · rw [if_pos hle] at h
            cases h
          · rw [if_neg hle] at h
            rcases bind_eq_ok_iff.mp h with ⟨others, hothers, heq⟩
            cases heq
            refine ⟨value, others, rfl, ?_, hothers, rfl⟩
            intro last hlast
            cases hlast
            exact hle

theorem boundaryValues_cases {previous : Option Float} {literals : List Literal}
    {values : List Float}
    (hnumbers : forall literal, literal ∈ literals -> forall value,
      literal.toFloat? = some value -> value.isNaN = false)
    (hprevious : forall last, previous = some last -> last.isNaN = false)
    (h : boundaryValues previous literals = .ok values) :
    List.Forall₂ (fun literal value => literal.toFloat? = some value) literals values
      ∧ values.Pairwise (fun a b => a < b)
      ∧ forall last, previous = some last -> forall value, value ∈ values -> last < value := by
  induction literals generalizing previous values with
  | nil =>
      cases h
      exact ⟨.nil, .nil, fun _ _ _ hvalue => by cases hvalue⟩
  | cons literal rest ih =>
      rcases boundaryValues_cons_cases h with ⟨value, others, hvalue, hnext, hothers, rfl⟩
      have hnumber := hnumbers literal List.mem_cons_self value hvalue
      have hbefore : forall last, previous = some last -> last < value := by
        intro last hlast
        exact (Number.lt_or_le (hprevious last hlast) hnumber).resolve_right (hnext last hlast)
      have hvalueIsNumber : forall last, some value = some last -> last.isNaN = false := by
        intro last hlast
        cases hlast
        exact hnumber
      rcases ih (fun other hother => hnumbers other (List.mem_cons_of_mem literal hother))
        hvalueIsNumber hothers with ⟨hvalues, hascending, habove⟩
      refine ⟨.cons hvalue hvalues, List.pairwise_cons.mpr ⟨habove value rfl, hascending⟩, ?_⟩
      intro last hlast other hother
      cases List.mem_cons.mp hother with
      | inl hhere =>
          rw [hhere]
          exact hbefore last hlast
      | inr hbehind =>
          exact Number.lt_of_lt_of_le (hbefore last hlast)
            (Number.le_of_lt (habove value rfl other hbehind))

def rangeLevel (field : String) (bounds : List Float) : Level :=
  { name := "range" ++ "(" ++ field ++ ")"
    bucketing := .range { field := field, ranges := rangesBetween bounds } }

/-- The field of a range call and the values of its boundaries. -/
structure IsBounded (call : BucketCall) (field : String) (bounds : List Float) : Prop where
  named : call.field = some field
  values : List.Forall₂ (fun literal bound => literal.toFloat? = some bound) call.boundaries bounds
  several : 2 <= bounds.length
  ascending : bounds.Pairwise (fun a b => a < b)

theorem isBounded_of_callLevel {call : BucketCall} {level : Level} (hshape : call.HasShape)
    (hfunction : Text.lower call.function = "range") (h : callLevel call = .ok level) :
    exists field bounds, level = rangeLevel field bounds ∧ IsBounded call field bounds := by
  have hnamed : callLevel call = namedLevel "range" rangeBuckets call := by
    unfold callLevel
    rw [hfunction]
    rfl
  rw [hnamed] at h
  rcases namedLevel_cases h with ⟨field, hfield, hname, hbuckets⟩
  rcases rangeBuckets_cases hbuckets with ⟨hseveral, bounds, hbounds, hbucketing⟩
  have hnumbers : forall literal, literal ∈ call.boundaries -> forall value,
      literal.toFloat? = some value -> value.isNaN = false := by
    intro literal hliteral value hvalue
    cases literal with
    | number raw =>
        have hnumeral := (hshape.boundaries _ hliteral).left raw rfl
        exact Number.isNaN_readFloat? hnumeral hvalue
    | _ => cases hvalue
  rcases boundaryValues_cases hnumbers (fun _ hlast => by cases hlast) hbounds with
    ⟨hvalues, hascending, _⟩
  refine ⟨field, bounds, ?_, hfield, hvalues, ?_, hascending⟩
  · obtain ⟨name, bucketing⟩ := level
    dsimp only at hname hbucketing
    rw [hname, hbucketing]
    rfl
  · rw [<- hvalues.length_eq]
    exact hseveral

end Plan

namespace Store

open Calendar (Instant)
open Plan (Level Measure Options Outline rangesBetween rangeLevel)
open Request (Aggregation Bucketing NumberRange)
open Sql (BucketCall GroupTerm Statement)

/-!
# Numbers between boundaries
-/

def isBetween (bounds : List Float) (i : Nat) (x : Float) : Bool :=
  match bounds[i]?, bounds[i + 1]? with
  | some low, some high => low <= x && x < high
  | _, _ => false

def isCovered (bounds : List Float) (x : Float) : Bool :=
  match bounds.head?, bounds.getLast? with
  | some first, some last => first <= x && x < last
  | _, _ => false

theorem isBetween_zero (low high : Float) (rest : List Float) (x : Float) :
    isBetween (low :: high :: rest) 0 x = (decide (low <= x) && decide (x < high)) :=
  rfl

theorem isCovered_cons_iff (first : Float) (rest : List Float) (x : Float) :
    isCovered (first :: rest) x = true
      <-> first <= x ∧ x < (first :: rest).getLast (List.cons_ne_nil first rest) := by
  unfold isCovered
  rw [List.head?_cons, List.getLast?_eq_some_getLast (List.cons_ne_nil first rest)]
  simp only [Bool.and_eq_true, decide_eq_true_eq]

theorem isCovered_behind {low high : Float} {rest : List Float} {x : Float}
    (h : isBetween (low :: high :: rest) 0 x = true) : isCovered (high :: rest) x = false := by
  rw [isBetween_zero, Bool.and_eq_true, decide_eq_true_eq, decide_eq_true_eq] at h
  apply Bool.eq_false_iff.mpr
  intro hcovered
  exact Number.not_lt_of_le ((isCovered_cons_iff high rest x).mp hcovered).left h.right

theorem isCovered_cons_cons {low high : Float} {rest : List Float}
    (hascending : (low :: high :: rest).Pairwise (fun a b => a < b)) (x : Float) :
    isCovered (low :: high :: rest) x
      = (isBetween (low :: high :: rest) 0 x || isCovered (high :: rest) x) := by
  rcases List.pairwise_cons.mp hascending with ⟨hlow, hhigh⟩
  have hfirst : low < high := hlow high List.mem_cons_self
  rw [Bool.eq_iff_iff, Bool.or_eq_true, isCovered_cons_iff, isCovered_cons_iff, isBetween_zero,
    Bool.and_eq_true, decide_eq_true_eq, decide_eq_true_eq,
    List.getLast_cons (List.cons_ne_nil high rest)]
  constructor
  · intro ⟨hle, hlt⟩
    -- A NaN is on neither side of a boundary, but it is not below the last one either.
    rcases Number.lt_or_le (Number.lt_iff_floatOrder.mp hlt).left
      (Number.lt_iff_floatOrder.mp hfirst).right.left with hbelow | habove
    · exact Or.inl ⟨hle, hbelow⟩
    · exact Or.inr ⟨habove, hlt⟩
  · intro hcases
    rcases hcases with ⟨hle, hbelow⟩ | ⟨habove, hlt⟩
    · refine ⟨hle, ?_⟩
      cases rest with
      | nil => exact hbelow
      | cons next rest =>
          have hlast : high < (high :: next :: rest).getLast (List.cons_ne_nil _ _) := by
            rw [List.getLast_cons (List.cons_ne_nil next rest)]
            exact (List.pairwise_cons.mp hhigh).left _ (List.getLast_mem _)
          exact Number.lt_of_lt_of_le hbelow (Number.le_of_lt hlast)
    · exact ⟨Number.le_trans (Number.le_of_lt hfirst) habove, hlt⟩

section

variable {bounds : List Float}

theorem nil_or_singleton (hshort : forall low high rest, bounds = low :: high :: rest -> False) :
    bounds = [] ∨ exists low, bounds = [low] := by
  match bounds, hshort with
  | [], _ => exact Or.inl rfl
  | [low], _ => exact Or.inr ⟨low, rfl⟩
  | low :: high :: rest, hshort => exact (hshort low high rest rfl).elim

theorem isBetween_of_short (hshort : forall low high rest, bounds = low :: high :: rest -> False)
    (i : Nat) (x : Float) : isBetween bounds i x = false := by
  rcases nil_or_singleton hshort with rfl | ⟨low, rfl⟩
  · rfl
  · cases i <;> rfl

theorem isCovered_of_short (hshort : forall low high rest, bounds = low :: high :: rest -> False)
    (x : Float) : isCovered bounds x = false := by
  rcases nil_or_singleton hshort with rfl | ⟨low, rfl⟩
  · rfl
  · apply Bool.eq_false_iff.mpr
    intro hcovered
    rcases (isCovered_cons_iff low [] x).mp hcovered with ⟨hle, hlt⟩
    exact Number.not_lt_of_le hle hlt

variable (hascending : bounds.Pairwise (fun a b => a < b))

include hascending

theorem isCovered_of_isBetween {i : Nat} {x : Float} (h : isBetween bounds i x = true) :
    isCovered bounds x = true := by
  fun_induction rangesBetween bounds generalizing i with
  | case1 low high rest ih =>
      rw [isCovered_cons_cons hascending, Bool.or_eq_true]
      cases i with
      | zero => exact Or.inl h
      | succ i => exact Or.inr (ih hascending.tail h)
  | case2 bounds hshort =>
      rw [isBetween_of_short hshort] at h
      cases h

theorem exists_isBetween {x : Float} (h : isCovered bounds x = true) :
    exists i, isBetween bounds i x = true := by
  fun_induction rangesBetween bounds with
  | case1 low high rest ih =>
      rw [isCovered_cons_cons hascending, Bool.or_eq_true] at h
      rcases h with hfirst | hbehind
      · exact ⟨0, hfirst⟩
      · rcases ih hascending.tail hbehind with ⟨i, hi⟩
        exact ⟨i + 1, hi⟩
  | case2 bounds hshort =>
      rw [isCovered_of_short hshort] at h
      cases h

theorem eq_of_isBetween {i j : Nat} {x : Float} (hi : isBetween bounds i x = true)
    (hj : isBetween bounds j x = true) : i = j := by
  fun_induction rangesBetween bounds generalizing i j with
  | case1 low high rest ih =>
      have hbehind : forall k, isBetween (low :: high :: rest) 0 x = true ->
          isBetween (high :: rest) k x = true -> False := by
        intro k hfirst hk
        have hcovered : isCovered (high :: rest) x = true :=
          isCovered_of_isBetween hascending.tail hk
        rw [isCovered_behind hfirst] at hcovered
        cases hcovered
      cases i with
      | zero =>
          cases j with
          | zero => rfl
          | succ j => exact (hbehind j hi hj).elim
      | succ i =>
          cases j with
          | zero => exact (hbehind i hj hi).elim
          | succ j => exact congrArg Nat.succ (ih hascending.tail hi hj)
  | case2 bounds hshort =>
      rw [isBetween_of_short hshort] at hi
      cases hi

end

/-!
# Ranges
-/

theorem length_rangesBetween (bounds : List Float) :
    (rangesBetween bounds).length = bounds.length - 1 := by
  fun_induction rangesBetween bounds with
  | case1 low high rest ih =>
      rw [List.length_cons, ih]
      rfl
  | case2 bounds hshort =>
      rcases nil_or_singleton hshort with rfl | ⟨low, rfl⟩
      · rfl
      · rfl

theorem low_of_mem_rangesBetween {bounds : List Float} {range : NumberRange}
    (h : range ∈ rangesBetween bounds) : exists low, low ∈ bounds ∧ range.low = some low := by
  fun_induction rangesBetween bounds with
  | case1 low high rest ih =>
      rcases List.mem_cons.mp h with rfl | hbehind
      · exact ⟨low, List.mem_cons_self, rfl⟩
      · rcases ih hbehind with ⟨bound, hbound, hlow⟩
        exact ⟨bound, List.mem_cons_of_mem low hbound, hlow⟩
  | case2 bounds hshort => cases h

theorem inRange_of_getElem? {bounds : List Float} {i : Nat} {range : NumberRange}
    (h : (rangesBetween bounds)[i]? = some range) (x : Float) :
    inRange range x = isBetween bounds i x := by
  fun_induction rangesBetween bounds generalizing i with
  | case1 low high rest ih =>
      cases i with
      | zero =>
          cases h
          rfl
      | succ i => exact ih h
  | case2 bounds hshort => cases h

section

variable {bounds : List Float} (hascending : bounds.Pairwise (fun a b => a < b))

include hascending

theorem pairwise_rangesBetween :
    (rangesBetween bounds).Pairwise (fun a b =>
      compareRanges (a.low, a.high) (b.low, b.high) = .lt) := by
  fun_induction rangesBetween bounds with
  | case1 low high rest ih =>
      rw [List.pairwise_cons]
      constructor
      · intro range hrange
        rcases low_of_mem_rangesBetween hrange with ⟨bound, hbound, hlow⟩
        have hless : compareFloats low bound = .lt := by
          unfold compareFloats compareFloats?
          rw [if_pos ((List.pairwise_cons.mp hascending).left bound hbound)]
          rfl
        rw [hlow]
        show (compareFloats low bound).then _ = .lt
        rw [hless]
        rfl
      · exact ih hascending.tail
  | case2 bounds hshort => exact .nil

theorem rangeBuckets_rangesBetween (field : String) (docs : List Document) :
    rangeBuckets { field := field, ranges := rangesBetween bounds } docs
      = (rangesBetween bounds).map (rangeBucket field docs) := by
  unfold rangeBuckets
  dsimp only
  rw [List.mergeSort_of_pairwise]
  refine (pairwise_rangesBetween hascending).imp ?_
  intro a b hless
  rw [hless]
  rfl

end

/-!
# Documents in ranges
-/

def Document.numbers (doc : Document) (field : String) : List Float :=
  (doc.values field).filterMap asNumber?

theorem length_filter_or {alpha : Type} {p q : alpha -> Bool} {items : List alpha}
    (hapart : forall item, item ∈ items -> p item = true -> q item = false) :
    (items.filter (fun item => p item || q item)).length
      = (items.filter p).length + (items.filter q).length := by
  induction items with
  | nil => rfl
  | cons item rest ih =>
      have hrest := ih (fun other hother => hapart other (List.mem_cons_of_mem item hother))
      simp only [List.filter_cons]
      cases hp : p item with
      | true =>
          rw [hapart item List.mem_cons_self hp]
          simp only [Bool.true_or, if_true, Bool.false_eq_true, if_false, List.length_cons, hrest]
          omega
      | false =>
          cases q item with
          | true =>
              simp only [Bool.false_or, if_true, Bool.false_eq_true, if_false, List.length_cons,
                hrest]
              omega
          | false => simpa using hrest

theorem sum_counts {bounds : List Float} (hascending : bounds.Pairwise (fun a b => a < b))
    {field : String} {docs : List Document}
    (hsingle : forall doc, doc ∈ docs -> (doc.numbers field).length <= 1) :
    ((rangesBetween bounds).map (fun range => (rangeBucket field docs range).docs.length)).sum
      = (docs.filter (fun doc => (doc.numbers field).any (isCovered bounds))).length := by
  fun_induction rangesBetween bounds with
  | case1 low high rest ih =>
      have hcovered : docs.filter (fun doc =>
            (doc.numbers field).any (isCovered (low :: high :: rest)))
          = docs.filter (fun doc =>
              (doc.numbers field).any (isBetween (low :: high :: rest) 0)
                || (doc.numbers field).any (isCovered (high :: rest))) := by
        apply List.filter_congr
        intro doc _
        rw [Bool.eq_iff_iff, Bool.or_eq_true, List.any_eq_true, List.any_eq_true, List.any_eq_true]
        simp only [isCovered_cons_cons hascending, Bool.or_eq_true, and_or_left, exists_or]
      have hapart : forall doc, doc ∈ docs ->
          (doc.numbers field).any (isBetween (low :: high :: rest) 0) = true ->
            (doc.numbers field).any (isCovered (high :: rest)) = false := by
        intro doc hdoc hfirst
        match doc.numbers field, hsingle doc hdoc, hfirst with
        | [x], _, hfirst =>
            rw [List.any_cons, List.any_nil, Bool.or_false] at hfirst ⊢
            exact isCovered_behind hfirst
      -- The first range counts what is in it, and the others what is covered behind it.
      rw [List.map_cons, List.sum_cons, ih hascending.tail, hcovered, length_filter_or hapart]
      rfl
  | case2 bounds hshort =>
      have hnone : docs.filter (fun doc => (doc.numbers field).any (isCovered bounds)) = [] := by
        rw [List.filter_eq_nil_iff]
        intro doc _ hcovered
        rcases List.any_eq_true.mp hcovered with ⟨x, _, hx⟩
        rw [isCovered_of_short hshort] at hx
        cases hx
      rw [hnone]
      rfl

/-- The buckets divide documents by the boundaries between which they have a number. -/
structure IsPartition (field : String) (bounds : List Float) (docs : List Document)
    (buckets : List Bucket) : Prop where
  length : buckets.length + 1 = bounds.length
  members : forall i bucket, buckets[i]? = some bucket ->
    bucket.docs = docs.filter (fun doc => (doc.numbers field).any (isBetween bounds i))
  covered : forall x, isCovered bounds x = true ->
    ∃! i, i < buckets.length ∧ isBetween bounds i x = true
  others : forall x, isCovered bounds x = false -> forall i, isBetween bounds i x = false
  counts : (forall doc, doc ∈ docs -> (doc.numbers field).length <= 1) ->
    (buckets.map (fun bucket => bucket.docs.length)).sum
      = (docs.filter (fun doc => (doc.numbers field).any (isCovered bounds))).length

theorem lt_of_isBetween {bounds : List Float} {i : Nat} {x : Float}
    (h : isBetween bounds i x = true) : i + 1 < bounds.length := by
  unfold isBetween at h
  split at h
  · rename_i low high hlow hhigh
    exact (List.getElem?_eq_some_iff.mp hhigh).choose
  · cases h

theorem isPartition_rangeBuckets {bounds : List Float} (hseveral : 2 <= bounds.length)
    (hascending : bounds.Pairwise (fun a b => a < b)) (field : String) (docs : List Document) :
    IsPartition field bounds docs
      (rangeBuckets { field := field, ranges := rangesBetween bounds } docs) := by
  rw [rangeBuckets_rangesBetween hascending]
  have hlength : ((rangesBetween bounds).map (rangeBucket field docs)).length + 1
      = bounds.length := by
    rw [List.length_map, length_rangesBetween]
    omega
  constructor
  case length => exact hlength
  case members =>
      intro i bucket hbucket
      rw [List.getElem?_map] at hbucket
      rcases Option.map_eq_some_iff.mp hbucket with ⟨range, hrange, rfl⟩
      show docs.filter (fun doc => (doc.numbers field).any (inRange range)) = _
      rw [funext (inRange_of_getElem? hrange)]
  case covered =>
      intro x hcovered
      rcases exists_isBetween hascending hcovered with ⟨i, hi⟩
      refine ⟨i, ⟨?_, hi⟩, ?_⟩
      · have := lt_of_isBetween hi
        omega
      · intro j hj
        exact eq_of_isBetween hascending hj.right hi
  case others =>
      intro x hother i
      apply Bool.eq_false_iff.mpr
      intro hbetween
      rw [isCovered_of_isBetween hascending hbetween] at hother
      cases hother
  case counts =>
      intro hsingle
      rw [List.map_map]
      exact sum_counts hascending hsingle

/-!
# Ranges of a query
-/

/-- The results list buckets of the documents between boundaries. Where they are to be
complete, they are all of them. -/
def HasRanges (field : String) (bounds : List Float) (complete : Prop) (docs : List Document)
    (results : List (String × AggregateResult)) : Prop :=
  exists buckets groups, IsPartition field bounds docs buckets
    ∧ results = [((rangeLevel field bounds).name, .buckets groups)]
    ∧ (forall group, group ∈ groups -> group.1 ∈ buckets)
    ∧ (complete -> groups.map Prod.fst = buckets)

theorem hasRanges_of_evaluateAll {field : String} {bounds : List Float}
    (hseveral : 2 <= bounds.length) (hascending : bounds.Pairwise (fun a b => a < b))
    {leaves : List (String × Aggregation)} {within : List Level} {complete : Prop}
    (hselectors : complete -> forall sub, sub ∈ Plan.nest leaves within ->
      sub.2.kinds.selector = none)
    {now : Instant} {docs : List Document} {results : List (String × AggregateResult)}
    (h : evaluateAll now docs (Plan.nest leaves (rangeLevel field bounds :: within))
      = .ok results) :
    HasRanges field bounds complete docs results := by
  rcases Answer.result_of_evaluateAll h with ⟨result, rfl, hresult⟩
  rcases steps_of_evaluate hresult with
    ⟨groups, ordered, selected, hbuckets, _, hordered, hselected, rfl⟩
  cases hordered
  have hformed : rangeBuckets { field := field, ranges := rangesBetween bounds } docs
      = groups.map Prod.fst := Except.ok.inj hbuckets
  refine ⟨groups.map Prod.fst, selected, ?_, rfl, ?_, ?_⟩
  · rw [<- hformed]
    exact isPartition_rangeBuckets hseveral hascending field docs
  · intro group hgroup
    exact List.mem_map_of_mem ((sublist_of_selectGroups hselected).subset hgroup)
  · intro hcomplete
    have hkept := selectGroups_of_no_selector (hselectors hcomplete) groups
    cases hkept.symm.trans hselected
    rfl

theorem eq_rangeLevel_of_bare {level : Level} {field : String} {bounds : List Float}
    (h : level.bare = (rangeLevel field bounds).bare) : level = rangeLevel field bounds := by
  obtain ⟨name, bucketing⟩ := level
  cases bucketing with
  | range spec =>
      cases h
      rfl
  | _ => cases h

theorem selector_of_nest {options : Options} {statement : Statement}
    (outline : Outline options statement) {within : List Level}
    (h : within ≠ [] ∨ statement.having = none) (sub : String × Aggregation)
    (hsub : sub ∈ Plan.nest outline.leaves within) : sub.2.kinds.selector = none := by
  cases within with
  | cons level rest =>
      rw [Plan.nest_cons, List.mem_singleton] at hsub
      rw [hsub, Aggregation.kinds, selector_ofBucketing]
  | nil =>
      have hnone := h.resolve_left (fun hne => hne rfl)
      have hmem := outline.perm_leaves.mem_iff.mp hsub
      rcases Plan.havingNodes_cases outline.selected with ⟨_, hnodes⟩ | ⟨_, _, hsome, _⟩
      · rw [Outline.leaves, hnodes, List.append_nil] at hmem
        rcases List.mem_map.mp hmem with ⟨measure, _, rfl⟩
        exact selector_ofMetric _
      · rw [hnone] at hsome
        cases hsome

theorem forall₂_append_cons {alpha beta : Type} {rel : alpha -> beta -> Prop} {before : List alpha}
    {x : alpha} {after : List alpha} {ys : List beta}
    (h : List.Forall₂ rel (before ++ x :: after) ys) :
    exists first y rest, ys = first ++ y :: rest ∧ first.length = before.length ∧ rel x y
      ∧ rest.length = after.length := by
  induction before generalizing ys with
  | nil =>
      cases h with
      | cons hxy hrest => exact ⟨[], _, _, rfl, rfl, hxy, hrest.length_eq.symm⟩
  | cons z before ih =>
      cases h with
      | cons hzy hrest =>
          rcases ih hrest with ⟨first, y, rest, rfl, hlength, hxy, hafter⟩
          exact ⟨_ :: first, y, rest, rfl, congrArg Nat.succ hlength, hxy, hafter⟩

theorem exists_rangeLevel {options : Options} {statement : Statement}
    (outline : Outline options statement) (hshape : statement.HasShape)
    {outer inner : List GroupTerm} {call : BucketCall}
    (hgroups : statement.groups = outer ++ .call call :: inner)
    (hfunction : Text.lower call.function = "range") :
    exists field bounds around within, Plan.IsBounded call field bounds
      ∧ outline.groups = around ++ rangeLevel field bounds :: within
      ∧ around.length = outer.length
      ∧ within.length = inner.length := by
  have hlevels := (Plan.levelsAfter_cases outline.grouped).left
  rw [hgroups] at hlevels
  rcases forall₂_append_cons hlevels with ⟨around, level, within, hsplit, haround, hlevel, hwithin⟩
  have hcall : call.HasShape := by
    apply hshape.groups (.call call)
    rw [hgroups]
    exact List.mem_append_right outer List.mem_cons_self
  rcases Plan.isBounded_of_callLevel hcall hfunction hlevel with ⟨field, bounds, rfl, hbounded⟩
  exact ⟨field, bounds, around, within, hbounded, hsplit, haround, hwithin⟩

theorem exists_placed {options : Options} {statement : Statement}
    (outline : Outline options statement) {around within : List Level} {field : String}
    {bounds : List Float}
    (hlevels : outline.groups = around ++ rangeLevel field bounds :: within) :
    exists placed inside, outline.levels = placed ++ rangeLevel field bounds :: inside
      ∧ placed.map Level.bare = around.map Level.bare
      ∧ inside.length = within.length := by
  have hbare := outline.bare_levels
  rw [hlevels, List.map_append, List.map_cons] at hbare
  rcases List.map_eq_append_iff.mp hbare with ⟨placed, behind, hsplit, hplaced, hbehind⟩
  rcases List.map_eq_cons_iff.mp hbehind with ⟨level, inside, rfl, hlevel, hinside⟩
  cases eq_rangeLevel_of_bare hlevel
  have hlength := congrArg List.length hinside
  rw [List.length_map, List.length_map] at hlength
  exact ⟨placed, inside, hsplit, hplaced, hlength⟩

/-- The buckets of a range call divide documents by its boundaries, over any documents and in
whatever a search finds. -/
theorem isPartition_rangeCall {options : Options} {text : String} {statement : Statement}
    {plan : Plan} {outer inner : List GroupTerm} {call : BucketCall}
    (hparse : Sql.parse text = .ok statement) (hplan : Plan.ofText options text = .ok plan)
    (hgroups : statement.groups = outer ++ .call call :: inner)
    (hfunction : Text.lower call.function = "range") :
    exists field bounds around within, Plan.IsBounded call field bounds
      ∧ Plan.levels options.bucketSize statement.groups
          = .ok (around ++ rangeLevel field bounds :: within)
      ∧ around.length = outer.length
      ∧ (forall now docs, exists buckets,
          formBuckets now (rangeLevel field bounds).bucketing docs = .ok buckets
            ∧ IsPartition field bounds docs buckets)
      ∧ (forall (store : Store) response, store.search plan.request = .ok response ->
          exists indices results, store.resolveIndices statement.source.index = .ok indices
            ∧ response.aggregations = some results
            ∧ WithinLevels store.now
                (HasRanges field bounds (inner ≠ [] ∨ statement.having = none)) around
                (selectedDocs store indices statement) results)
      ∧ ((forall level, level ∈ around ++ within -> formsAlways level = true) ->
          forall (store : Store) indices measures,
            store.resolveIndices statement.source.index = .ok indices ->
            Plan.measures statement.calls = .ok measures ->
            (forall measure, measure ∈ measures ->
              Computable (selectedDocs store indices statement) measure.kind.toMetric) ->
            exists response, store.search plan.request = .ok response) := by
  have hshape := Sql.ensures_parse Sql.hasShape_statement text statement hparse
  have hsound : statement.IsSound := Sql.isSound_parse statement hparse
  have haggregation : statement.isAggregation = true := by
    rw [Statement.isAggregation, hgroups]
    cases outer <;> rfl
  rw [Plan.ofText, hparse] at hplan
  rcases Plan.exists_outline hplan haggregation with ⟨outline, rfl⟩
  rcases exists_rangeLevel outline hshape hgroups hfunction with
    ⟨field, bounds, around, within, hbounded, hlevels, haround, hwithin⟩
  refine ⟨field, bounds, around, within, hbounded, ?_, haround, ?_, ?_, ?_⟩
  · rw [<- hlevels]
    exact outline.grouped
  · intro now docs
    exact ⟨_, rfl, isPartition_rangeBuckets hbounded.several hbounded.ascending field docs⟩
  · intro store response hsearch
    rcases exists_placed outline hlevels with ⟨placed, inside, hplaced, hbare, hinside⟩
    refine withinLevels_of_search_append outline hsound hplaced hbare ?_ hsearch
    intro docs _ results hevaluated
    refine hasRanges_of_evaluateAll hbounded.several hbounded.ascending ?_ hevaluated
    intro hcomplete
    refine selector_of_nest outline (hcomplete.imp_left ?_)
    intro hinner hnil
    rw [hnil, hwithin] at hinside
    exact hinner (List.length_eq_zero_iff.mp hinside.symm)
  · intro hforms store indices measures hindices hmeasures hcomputable
    cases outline.measured.symm.trans hmeasures
    refine exists_search_of_formsAlways outline hsound ?_ hindices hcomputable
    intro level hlevel
    rw [hlevels, List.mem_append, List.mem_cons] at hlevel
    rcases hlevel with hlevel | rfl | hlevel
    · exact hforms level (List.mem_append_left within hlevel)
    · rfl
    · exact hforms level (List.mem_append_right around hlevel)

def ageRanges : BucketCall :=
  { function := "Range"
    field := some "age"
    parameters := []
    boundaries := [.number "10", .number "20", .number "40"] }

def countedAgeRanges : Statement :=
  { countedPeople "n" with groups := [.call ageRanges] }

theorem wellFormed_countedAgeRanges : countedAgeRanges.WellFormed :=
  { wellFormed_countedPeople "n" with
    groups := by
      unfold countedAgeRanges
      rw [List.forall_mem_singleton]
      refine ⟨?_, by decide⟩
      exact
        { word := Sql.isWord_of_hasWordShape rfl
          unreserved := rfl
          field := by
            intro name hname
            cases hname
            decide
          distinct := fun h => by cases h
          named := fun _ hparameter => by cases hparameter
          positional := by
            show forall value, value ∈ ageRanges.boundaries -> _
            unfold ageRanges
            rw [List.forall_mem_cons, List.forall_mem_cons, List.forall_mem_singleton]
            have hdigits : forall raw, Number.IsDigits raw.toList ->
                (Sql.Literal.number raw).WellFormed
                  ∧ (Sql.Literal.number raw).isPositional = true :=
              fun raw hraw => ⟨.unsigned (.whole hraw), rfl⟩
            exact ⟨hdigits "10" (by decide), hdigits "20" (by decide), hdigits "40" (by decide)⟩ } }

theorem isPartition_rangeCall_ages :
    exists plan response groups,
      Plan.ofText {} countedAgeRanges.canonicalText = .ok plan
        ∧ people.search plan.request = .ok response
        ∧ response.aggregations = some [("range(age)", .buckets groups)]
        ∧ IsPartition "age" [10, 20, 40] people.docs (groups.map Prod.fst)
        ∧ (forall doc, doc ∈ people.docs -> (doc.numbers "age").length <= 1)
        ∧ ((groups.map Prod.fst).map (fun bucket => bucket.docs.length)).sum = 3 := by
  have hmeasures : Plan.measures countedAgeRanges.calls = .ok [countAs "n"] := by decide +kernel
  have hsingle : forall doc, doc ∈ people.docs -> (doc.numbers "age").length <= 1 := by
    decide +kernel
  have hcovered : (people.docs.filter (fun doc =>
      (doc.numbers "age").any (isCovered [10, 20, 40]))).length = 3 := by
    decide +kernel
  have hvalues : List.Forall₂ (fun literal bound => literal.toFloat? = some bound)
      ageRanges.boundaries [10, 20, 40] :=
    .cons (by decide +kernel) (.cons (by decide +kernel) (.cons (by decide +kernel) .nil))
  have hlevels : Plan.levels 10000 countedAgeRanges.groups
      = .ok [rangeLevel "age" [10, 20, 40]] := by
    decide +kernel
  rcases @exists_canonicalPlan {} _ wellFormed_countedAgeRanges (by decide +kernel) with
    ⟨hparse, plan, _, hplan⟩
  rcases @isPartition_rangeCall _ _ _ _ [] [] ageRanges hparse hplan rfl (by decide +kernel) with
    ⟨field, bounds, around, within, hbounded, hplaced, haround, _, hfound, hanswered⟩
  cases List.length_eq_zero_iff.mp haround
  cases (List.cons.inj (Except.ok.inj (hlevels.symm.trans hplaced))).right
  cases hbounded.named
  cases List.right_unique_forall₂' (fun _ _ _ h h' => Option.some.inj (h.symm.trans h'))
    hbounded.values hvalues
  rcases hanswered (fun _ hlevel => by cases hlevel) people ["people"] _ resolveIndices_people
    hmeasures (computable_countAs rfl _) with ⟨response, hsearch⟩
  rcases hfound people response hsearch with
    ⟨indices, results, hindices, hresults, buckets, groups, hpartition, rfl, _, hall⟩
  cases resolveIndices_people.symm.trans hindices
  rw [selectedDocs_people rfl rfl, <- hall (Or.inr rfl)] at hpartition
  refine ⟨plan, response, groups, hplan, hsearch, hresults, hpartition, hsingle, ?_⟩
  rw [hpartition.counts hsingle, hcovered]

end Store
end Rollup
