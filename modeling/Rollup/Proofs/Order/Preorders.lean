import Rollup.Proofs.Grouping.TopTerms
import Rollup.Proofs.Json.Finite
import Rollup.Proofs.Order.Documents

/-!
# Comparators for sorting

A sort asks of its comparator that it is a total preorder. The comparators of values,
documents and groups are, as long as no number among what they compare is a NaN. A text of
JSON holds no such number.
-/

namespace Rollup
namespace Store

open Request (SortEntry)
open Sql (Direction)

variable {alpha : Type}

/-- The laws of a total preorder, among the members of a domain. -/
structure IsTotalPreorder (domain : alpha -> Prop) (order : alpha -> alpha -> Ordering) : Prop where
  refl : forall a, domain a -> order a a = .eq
  swap : forall a b, domain a -> domain b -> order b a = (order a b).swap
  /-- Standing before or level with another is passed on. -/
  trans : forall a b c, domain a -> domain b -> domain c ->
    order a b ≠ .gt -> order b c ≠ .gt -> order a c ≠ .gt
  chain : forall a b c decided, domain a -> domain b -> domain c ->
    order a b = decided -> order b c = decided -> order a c = decided

theorem isTotalPreorder_of_agree {domain : alpha -> Prop} {order other : alpha -> alpha -> Ordering}
    [Std.TransCmp other]
    (h : forall {a b : alpha}, domain a -> domain b -> order a b = other a b) :
    IsTotalPreorder domain order where
  refl a ha := by
    rw [h ha ha]
    exact Std.ReflCmp.compare_self
  swap a b ha hb := by
    rw [h ha hb, h hb ha]
    exact Std.OrientedCmp.eq_swap
  trans a b c ha hb hc hab hbc := by
    rw [h ha hb] at hab
    rw [h hb hc] at hbc
    rw [h ha hc]
    apply Ordering.isLE_iff_ne_gt.mp
    exact Std.TransCmp.isLE_trans (Ordering.isLE_iff_ne_gt.mpr hab)
      (Ordering.isLE_iff_ne_gt.mpr hbc)
  chain a b c decided ha hb hc hab hbc := by
    rw [h ha hb] at hab
    rw [h hb hc] at hbc
    rw [h ha hc]
    cases decided with
    | lt => exact Std.TransCmp.lt_trans hab hbc
    | eq => exact Std.TransCmp.eq_trans hab hbc
    | gt => exact Std.TransCmp.gt_trans hab hbc

/-- Values, documents and groups are sorted by total preorders, whatever the sort keys and
their directions are. Among the values are all that JSON can write. -/
theorem comparators_areTotalPreorders :
    (forall text value, Json.parse? text = some value -> value.isFinite = true)
      ∧ IsTotalPreorder (fun value : Json => value.isFinite = true) compareValues
      ∧ (forall sort : List (List (String × Direction)),
          IsTotalPreorder (fun doc : Document => doc.source.isFinite = true)
              (compareDocuments (sortKeys sort))
            ∧ forall docs, sortDocuments sort docs =
                docs.mergeSort (fun a b => compareDocuments (sortKeys sort) a b != .gt))
      ∧ forall order : List SortEntry,
          IsTotalPreorder IsComparable (compareGroups order.flatten)
            ∧ forall subs groups sorted, sortGroups subs order groups = .ok sorted ->
                sorted = groups.mergeSort (fun a b => compareGroups order.flatten a b != .gt) := by
  refine ⟨fun _ _ => Json.isFinite_of_parse, ?_, ?_, ?_⟩
  · exact isTotalPreorder_of_agree compareValues_eq_valueOrder
  · intro sort
    refine ⟨?_, sortDocuments_eq_mergeSort sort⟩
    exact isTotalPreorder_of_agree (compareDocuments_eq_documentOrder (sortKeys sort))
  · intro order
    refine ⟨?_, ?_⟩
    · exact isTotalPreorder_of_agree (fun ha hb => compareGroups_eq_groupOrder ha hb order.flatten)
    · intro subs groups sorted hsorted
      exact eq_mergeSort_of_sortGroups hsorted

theorem comparators_areTotalPreorders_mixed :
    compareValues (.int 2) (.str "1") ≠ .gt ∧ compareValues (.str "1") (.bool false) ≠ .gt
      ∧ compareValues (.int 2) (.bool false) ≠ .gt := by
  have hfirst : compareValues (.int 2) (.str "1") ≠ .gt := by decide
  have hsecond : compareValues (.str "1") (.bool false) ≠ .gt := by decide
  refine ⟨hfirst, hsecond, ?_⟩
  exact comparators_areTotalPreorders.2.1.trans _ (.str "1") _ rfl rfl rfl hfirst hsecond

end Store
end Rollup
