import Mathlib.Data.List.Sigma
import Rollup.Store.Order

/-!
# Comparators

Orders are built from others: they compare a key, are turned around, place what is
missing, or decide one after the other. Each of these keeps the laws of an order. A
list that is sorted by an order has no member before a lesser one, and members that
are equal in it stay as they stood.
-/

namespace Rollup
namespace Store

open Sql (Direction)

variable {alpha beta : Type}

def missingLast (order : alpha -> alpha -> Ordering) : Option alpha -> Option alpha -> Ordering
  | some a, some b => order a b
  | some _, none => .lt
  | none, some _ => .gt
  | none, none => .eq

def missingFirst (order : alpha -> alpha -> Ordering) (a b : Option alpha) : Ordering :=
  (missingLast (fun x y => (order x y).swap) a b).swap

/-!
# Building orders
-/

section Building

variable (order : alpha -> alpha -> Ordering) [Std.TransCmp order]

theorem transCmp_key (key : beta -> alpha) : Std.TransCmp (fun a b => order (key a) (key b)) where
  eq_swap := Std.OrientedCmp.eq_swap
  isLE_trans := Std.TransCmp.isLE_trans

theorem transCmp_swap : Std.TransCmp (fun a b => (order a b).swap) where
  eq_swap := congrArg Ordering.swap Std.OrientedCmp.eq_swap
  isLE_trans := by
    intro a b c hab hbc
    rw [<- Std.OrientedCmp.eq_swap] at hab hbc ⊢
    exact Std.TransCmp.isLE_trans hbc hab

theorem transCmp_orient (direction : Direction) :
    Std.TransCmp (fun a b => orient direction (order a b)) := by
  cases direction with
  | asc => exact inferInstanceAs (Std.TransCmp order)
  | desc => exact transCmp_swap order

theorem transCmp_missingLast : Std.TransCmp (missingLast order) where
  eq_swap := by
    intro a b
    cases a with
    | none => cases b <;> rfl
    | some x =>
        cases b with
        | none => rfl
        | some y => exact @Std.OrientedCmp.eq_swap _ order _ x y
  isLE_trans := by
    intro a b c hab hbc
    cases a <;> cases b <;> cases c <;> try first | rfl | contradiction
    exact @Std.TransCmp.isLE_trans _ order _ _ _ _ hab hbc

theorem transCmp_missingFirst : Std.TransCmp (missingFirst order) :=
  have := transCmp_swap order
  have := transCmp_missingLast (fun x y => (order x y).swap)
  transCmp_swap (missingLast (fun x y => (order x y).swap))

end Building

theorem transCmp_firstDecided {orders : List (alpha -> alpha -> Ordering)}
    (h : forall order, order ∈ orders -> Std.TransCmp order) :
    Std.TransCmp (fun a b => firstDecided (orders.map (fun order => order a b))) := by
  induction orders with
  | nil => exact { eq_swap := rfl, isLE_trans := fun _ _ => rfl }
  | cons order rest ih =>
      have horder := h order List.mem_cons_self
      have hrest := ih (fun other hmem => h other (List.mem_cons_of_mem order hmem))
      exact inferInstanceAs (Std.TransCmp (compareLex order _))

theorem transCmp_decidedLast {orders : List (alpha -> alpha -> Ordering)}
    (h : forall order, order ∈ orders -> Std.TransCmp order) (last : alpha -> alpha -> Ordering)
    [Std.TransCmp last] :
    Std.TransCmp
      (compareLex (fun a b => firstDecided (orders.map (fun order => order a b))) last) :=
  have := transCmp_firstDecided h
  inferInstanceAs (Std.TransCmp (compareLex _ _))

/-!
# Sorting
-/

theorem mergeSort_congr {le other : alpha -> alpha -> Bool} {items : List alpha}
    (h : forall a, a ∈ items -> forall b, b ∈ items -> le a b = other a b) :
    items.mergeSort le = items.mergeSort other := by
  have hmap := @List.map_mergeSort _ _ le other id items h
  rwa [List.map_id, List.map_id] at hmap

theorem rel_or_rel_of_pairwise {rel : alpha -> alpha -> Prop} {items : List alpha}
    (h : items.Pairwise rel) {a b : alpha} (ha : a ∈ items) (hb : b ∈ items) (hne : a ≠ b) :
    rel a b ∨ rel b a := by
  have : Std.Symm (fun a b => rel a b ∨ rel b a) := ⟨fun _ _ => Or.symm⟩
  have hboth : items.Pairwise (fun a b => rel a b ∨ rel b a) := h.imp Or.inl
  exact hboth.forall ha hb hne

section Sorting

variable {order : alpha -> alpha -> Ordering} [Std.TransCmp order]

theorem isLE_iff_bne_gt {decided : Ordering} : (decided != .gt) = decided.isLE := by
  cases decided <;> rfl

theorem pairwise_mergeSort_order (items : List alpha) :
    (items.mergeSort (fun a b => order a b != .gt)).Pairwise (fun a b => order a b ≠ .gt) := by
  have hpairs := @List.pairwise_mergeSort _ (fun a b => order a b != .gt) ?_ ?_ items
  · exact hpairs.imp bne_iff_ne.mp
  · intro a b c hab hbc
    rw [isLE_iff_bne_gt] at hab hbc ⊢
    exact Std.TransCmp.isLE_trans hab hbc
  · intro a b
    have hswap : order b a = (order a b).swap := Std.OrientedCmp.eq_swap
    rw [hswap]
    cases order a b <;> rfl

theorem pairwise_ne_eq_of_perm {items shuffled : List alpha} (hperm : shuffled.Perm items)
    (h : items.Pairwise (fun a b => order a b ≠ .eq)) :
    shuffled.Pairwise (fun a b => order a b ≠ .eq) := by
  refine hperm.symm.pairwise h ?_
  intro a b hne heq
  apply hne
  rw [@Std.OrientedCmp.eq_swap _ order _ a b, heq]
  rfl

theorem pairwise_lt_mergeSort {items : List alpha}
    (h : items.Pairwise (fun a b => order a b ≠ .eq)) :
    (items.mergeSort (fun a b => order a b != .gt)).Pairwise (fun a b => order a b = .lt) := by
  have hperm := items.mergeSort_perm (fun a b => order a b != .gt)
  have hpairs := (@pairwise_mergeSort_order _ order _ items).and (pairwise_ne_eq_of_perm hperm h)
  apply hpairs.imp
  intro a b hab
  cases hdecided : order a b with
  | lt => rfl
  | eq => exact absurd hdecided hab.right
  | gt => exact absurd hdecided hab.left

theorem mergeSort_eq_of_perm {items shuffled : List alpha} (hperm : shuffled.Perm items)
    (h : items.Pairwise (fun a b => order a b ≠ .eq)) :
    shuffled.mergeSort (fun a b => order a b != .gt)
      = items.mergeSort (fun a b => order a b != .gt) := by
  apply List.Perm.eq_of_pairwise ?_ (pairwise_lt_mergeSort (pairwise_ne_eq_of_perm hperm h))
    (pairwise_lt_mergeSort h)
  · have hsorted := items.mergeSort_perm (fun a b => order a b != .gt)
    exact (shuffled.mergeSort_perm _).trans (hperm.trans hsorted.symm)
  · intro a b _ _ hab hba
    rw [@Std.OrientedCmp.eq_swap _ order _ a b, hba] at hab
    cases hab

def positionOrder (order : alpha -> alpha -> Ordering) : alpha × Nat -> alpha × Nat -> Ordering :=
  compareLex (fun a b => order a.1 b.1) (compareOn (fun entry => entry.2))

theorem zipIdxLE_eq (a b : alpha × Nat) :
    List.zipIdxLE (fun a b => order a b != .gt) a b = (positionOrder order a b != .gt) := by
  have hswap : order b.1 a.1 = (order a.1 b.1).swap := Std.OrientedCmp.eq_swap
  show (if order a.1 b.1 != .gt then if order b.1 a.1 != .gt then decide (a.2 <= b.2) else true
    else false) = ((order a.1 b.1).then (compare a.2 b.2) != .gt)
  rw [hswap]
  cases order a.1 b.1 with
  | lt => rfl
  | gt => rfl
  | eq =>
      show decide (a.2 <= b.2) = (compare a.2 b.2 != .gt)
      rw [isLE_iff_bne_gt, Bool.eq_iff_iff, decide_eq_true_iff, Nat.isLE_compare]

/-- Sorting gives the members with their positions in this order, each before those that it
precedes. -/
theorem exists_arranged_mergeSort (items : List alpha) :
    exists arranged : List (alpha × Nat),
      arranged.Perm items.zipIdx
        ∧ arranged.map Prod.fst = items.mergeSort (fun a b => order a b != .gt)
        ∧ arranged.Pairwise (fun a b =>
          order a.1 b.1 = .lt ∨ (order a.1 b.1 = .eq ∧ a.2 < b.2)) := by
  have hpositions : Std.TransCmp (positionOrder order) :=
    have := transCmp_key order (fun entry : alpha × Nat => entry.1)
    inferInstanceAs (Std.TransCmp (compareLex _ _))
  have hsort : items.zipIdx.mergeSort (List.zipIdxLE (fun a b => order a b != .gt))
      = items.zipIdx.mergeSort (fun a b => positionOrder order a b != .gt) :=
    mergeSort_congr (fun a _ b _ => zipIdxLE_eq a b)
  have hperm := items.zipIdx.mergeSort_perm (fun a b => positionOrder order a b != .gt)
  refine ⟨_, hperm, ?_, ?_⟩
  · rw [<- hsort]
    exact List.mergeSort_zipIdx
  · have hdistinct := ((hperm.map Prod.snd).nodup_iff.mpr items.nodup_zipIdx_map_snd)
    have hpairs := (@pairwise_mergeSort_order _ (positionOrder order) _ items.zipIdx).and
      (List.pairwise_map.mp hdistinct)
    apply hpairs.imp
    rintro a b ⟨hle, hne⟩
    change (order a.1 b.1).then (compare a.2 b.2) ≠ .gt at hle
    cases hdecided : order a.1 b.1 with
    | lt => exact Or.inl rfl
    | gt =>
        rw [hdecided] at hle
        exact absurd rfl hle
    | eq =>
        rw [hdecided] at hle
        have hposition : a.2 <= b.2 := Nat.compare_ne_gt.mp hle
        exact Or.inr ⟨rfl, Nat.lt_of_le_of_ne hposition hne⟩

end Sorting

end Store
end Rollup
