import Mathlib.Data.String.Basic

/-!
# Splitting texts

A text that is split at a character has the pieces that its characters have as a list. What
stands before and behind a mark is known from the whole.
-/

namespace Rollup
namespace Text

open String

/-- The loop of `String.splitOn` behind `before`, with `piece` read and `rest` ahead. -/
theorem splitOnAux_eq (sep : Char) (before piece rest : List Char) (done : List String) :
    splitOnAux (ofList (before ++ piece ++ rest)) (ofList [sep]) ⟨utf8Len before⟩
        ⟨utf8Len before + utf8Len piece⟩ 0 done
      = done.reverse
          ++ (List.splitOnPPrepend (fun c => c == sep) rest piece.reverse).map ofList := by
  have hfirst : Pos.Raw.get (ofList [sep]) 0 = sep := get_of_valid [] [sep]
  have hnextSep : Pos.Raw.next (ofList [sep]) 0 = ⟨sep.utf8Size⟩ := by
    have h := next_of_valid [] sep []
    rw [List.nil_append, utf8Len_nil, Nat.zero_add] at h
    exact h
  have hendSep : Pos.Raw.atEnd (ofList [sep]) ⟨sep.utf8Size⟩ = true := by
    rw [atEnd_iff, rawEndPos_ofList]
    simp
  induction rest generalizing before piece done with
  | nil =>
      have hend : Pos.Raw.atEnd (ofList (before ++ piece ++ []))
          ⟨utf8Len before + utf8Len piece⟩ = true := by
        rw [atEnd_iff, rawEndPos_ofList]
        simp
      rw [splitOnAux, if_pos hend, extract_of_valid before piece []]
      simp [List.splitOnPPrepend]
  | cons c rest ih =>
      have hget := get_of_valid (before ++ piece) (c :: rest)
      have hnext := next_of_valid (before ++ piece) c rest
      have hextract := extract_of_valid before piece (c :: rest)
      rw [utf8Len_append] at hget hnext
      have hmore : ¬ Pos.Raw.atEnd (ofList (before ++ piece ++ c :: rest))
          ⟨utf8Len before + utf8Len piece⟩ = true := by
        have hsize := c.utf8Size_pos
        rw [atEnd_iff, rawEndPos_ofList, Pos.Raw.mk_le_mk, utf8Len_append, utf8Len_append,
          utf8Len_cons]
        omega
      rw [splitOnAux, if_neg hmore, hget, hfirst]
      by_cases hsep : c = sep
      -- The piece is done, and the next one begins behind the separator.
      · subst hsep
        have hback : Pos.Raw.unoffsetBy ⟨utf8Len before + utf8Len piece + c.utf8Size⟩ ⟨c.utf8Size⟩
            = ⟨utf8Len before + utf8Len piece⟩ := by
          simp [Pos.Raw.unoffsetBy]
        have hrest := ih (before ++ piece ++ [c]) [] (ofList piece :: done)
        simp only [List.headD_cons, beq_self_eq_true, if_true, hnext, hnextSep, hendSep, hback,
          hextract]
        simp only [List.append_assoc, utf8Len_append, utf8Len_cons, utf8Len_nil, Nat.zero_add,
          Nat.add_zero, List.singleton_append] at hrest ⊢
        rw [Nat.add_assoc, hrest]
        simp [List.splitOnPPrepend_cons_eq_if]
      · have hother : ((c :: rest).headD default == sep) = false := by
          simpa using hsep
        have hstay : Pos.Raw.unoffsetBy ⟨utf8Len before + utf8Len piece⟩ 0
            = ⟨utf8Len before + utf8Len piece⟩ := rfl
        have hrest := ih before (piece ++ [c]) done
        rw [hother, if_neg Bool.false_ne_true, hstay, hnext]
        simp only [List.append_assoc, utf8Len_append, utf8Len_cons, utf8Len_nil, Nat.zero_add,
          List.singleton_append] at hrest ⊢
        rw [Nat.add_assoc, hrest]
        simp [List.splitOnPPrepend_cons_eq_if, hsep]

theorem splitOn_eq_map_ofList (text : String) (sep : Char) :
    text.splitOn (ofList [sep]) = (text.toList.splitOn sep).map ofList := by
  have hloop := splitOnAux_eq sep [] [] text.toList []
  have hsep : (ofList [sep] == "") = false := by
    simp
  rw [List.nil_append, List.nil_append, ofList_toList] at hloop
  rw [splitOn, hsep, if_neg Bool.false_ne_true, List.splitOn_eq_splitOnP,
    List.splitOnP_eq_splitOnPPrepend]
  exact hloop

theorem splitOn_ne_nil (text : String) (sep : Char) : text.splitOn (ofList [sep]) ≠ [] := by
  rw [splitOn_eq_map_ofList]
  simp [List.splitOn_ne_nil]

theorem eq_of_splitOn_eq_singleton {text piece : String} {sep : Char}
    (h : text.splitOn (ofList [sep]) = [piece]) : piece = text := by
  rw [splitOn_eq_map_ofList] at h
  rcases List.map_eq_singleton_iff.mp h with ⟨chars, hchars, rfl⟩
  have hjoined : [sep].intercalate (text.toList.splitOn sep) = text.toList :=
    List.intercalate_splitOn sep
  rw [hchars, List.intercalate_singleton] at hjoined
  rw [hjoined, ofList_toList]

/-!
# Marks that divide a text
-/

/-- Where every element of the first part goes on and the second part starts with one that
does not, the parts are known from the whole. -/
theorem append_inj_of_stops {alpha : Type} (goes : alpha -> Prop) {xs ys us vs : List alpha}
    (hxs : forall x, x ∈ xs -> goes x) (hys : forall y, y ∈ ys -> goes y)
    (hus : forall u, us.head? = some u -> ¬ goes u) (hvs : forall v, vs.head? = some v -> ¬ goes v)
    (h : xs ++ us = ys ++ vs) : xs = ys ∧ us = vs := by
  induction xs generalizing ys with
  | nil =>
      cases ys with
      | nil => exact ⟨rfl, h⟩
      | cons y ys => exact absurd (hys y List.mem_cons_self) (hus y (congrArg List.head? h))
  | cons x xs ih =>
      cases ys with
      | nil => exact absurd (hxs x List.mem_cons_self) (hvs x (congrArg List.head? h.symm))
      | cons y ys =>
          injection h with hfirst hrest
          rcases ih (fun a ha => hxs a (List.mem_cons_of_mem x ha))
            (fun a ha => hys a (List.mem_cons_of_mem y ha)) hrest with ⟨hsame, htail⟩
          exact ⟨by rw [hfirst, hsame], htail⟩

/-- Texts are known before and behind a mark that does not stand in the first of them. -/
theorem append_cons_inj {mark : Char} {xs ys us vs : List Char} (hxs : mark ∉ xs)
    (hys : mark ∉ ys) (h : xs ++ mark :: us = ys ++ mark :: vs) : xs = ys ∧ us = vs := by
  have hmark : forall rest : List Char, forall u, (mark :: rest).head? = some u -> ¬ u ≠ mark :=
    fun rest u hu hne => hne (Option.some.inj hu).symm
  rcases append_inj_of_stops (fun c => c ≠ mark) (fun x hx heq => hxs (heq ▸ hx))
    (fun y hy heq => hys (heq ▸ hy)) (hmark us) (hmark vs) h with ⟨hsame, htail⟩
  injection htail with _ hrest
  exact ⟨hsame, hrest⟩

theorem splitOn_append_of_notMem {mark : Char} {xs : List Char} (h : mark ∉ xs)
    (ys : List Char) :
    (xs ++ ys).splitOn mark = (ys.splitOn mark).modifyHead (fun piece => xs ++ piece) := by
  induction xs with
  | nil => cases hys : ys.splitOn mark <;> simp [hys]
  | cons x xs ih =>
      rw [List.mem_cons, not_or] at h
      have hx : (x == mark) = false := beq_eq_false_iff_ne.mpr (Ne.symm h.left)
      rw [List.cons_append, List.splitOn_cons_eq_if_modifyHead, hx, ih h.right,
        List.modifyHead_modifyHead]
      rfl

theorem splitOn_intercalate_flatMap {mark : Char} {parts : List (List Char)} (h : parts ≠ []) :
    ([mark].intercalate parts).splitOn mark = parts.flatMap (fun part => part.splitOn mark) := by
  induction parts with
  | nil => exact absurd rfl h
  | cons part rest ih =>
      cases rest with
      | nil => simp
      | cons next rest =>
          rw [List.intercalate_cons_cons, List.append_assoc, List.singleton_append,
            List.splitOn_append_cons_self, ih (List.cons_ne_nil next rest)]
          rfl

theorem intercalate_ne_nil {mark : Char} {parts : List (List Char)} (hne : parts ≠ [])
    (h : forall part, part ∈ parts -> part ≠ []) : [mark].intercalate parts ≠ [] := by
  cases parts with
  | nil => exact absurd rfl hne
  | cons part rest =>
      have hpart := h part List.mem_cons_self
      cases rest with
      | nil => simpa using hpart
      | cons next rest => simp [List.intercalate_cons_cons]

end Text
end Rollup
