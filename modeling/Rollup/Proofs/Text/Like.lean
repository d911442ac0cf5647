import Rollup.Text.Wildcard

/-!
# LIKE patterns

SQL reads a text along a pattern: `%` stands for any run of characters, `_` for one
character, and every other character for itself. The wildcard text of a pattern has one
part for each of its characters. Its wildcards pass over no line feed, so that a text
matches if it is like the pattern and has no line feeds but those of the pattern.
-/

namespace Rollup
namespace Text

/-- The whole text can be read along the pattern. -/
inductive IsLike : List Char -> List Char -> Prop
  | done : IsLike [] []
  | many (run : List Char) {pattern rest : List Char} (h : IsLike pattern rest) :
      IsLike ('%' :: pattern) (run ++ rest)
  | one (c : Char) {pattern rest : List Char} (h : IsLike pattern rest) :
      IsLike ('_' :: pattern) (c :: rest)
  | itself {c : Char} (hmany : c ≠ '%') (hone : c ≠ '_') {pattern rest : List Char}
      (h : IsLike pattern rest) : IsLike (c :: pattern) (c :: rest)

namespace IsLike

theorem nil_iff {text : List Char} : IsLike [] text <-> text = [] := by
  constructor
  · intro h
    cases h
    rfl
  · intro h
    rw [h]
    exact .done

theorem many_iff {pattern text : List Char} :
    IsLike ('%' :: pattern) text
      <-> exists run rest, run ++ rest = text ∧ IsLike pattern rest := by
  constructor
  · intro h
    cases h with
    | many run h => exact ⟨run, _, rfl, h⟩
    | itself hmany => exact absurd rfl hmany
  · intro ⟨run, rest, htext, h⟩
    rw [<- htext]
    exact .many run h

theorem many_nil_iff {pattern : List Char} : IsLike ('%' :: pattern) [] <-> IsLike pattern [] := by
  rw [many_iff]
  constructor
  · intro ⟨run, rest, htext, h⟩
    rw [(List.append_eq_nil_iff.mp htext).right] at h
    exact h
  · intro h
    exact ⟨[], [], rfl, h⟩

theorem many_cons_iff {pattern rest : List Char} {d : Char} :
    IsLike ('%' :: pattern) (d :: rest)
      <-> IsLike pattern (d :: rest) ∨ IsLike ('%' :: pattern) rest := by
  rw [many_iff, many_iff]
  constructor
  · intro ⟨run, behind, htext, h⟩
    cases run with
    | nil =>
        rw [<- htext]
        exact Or.inl h
    | cons first run =>
        injection htext with _ hrest
        exact Or.inr ⟨run, behind, hrest, h⟩
  · intro h
    cases h with
    | inl h => exact ⟨[], d :: rest, rfl, h⟩
    | inr h =>
        rcases h with ⟨run, behind, hrest, h⟩
        exact ⟨d :: run, behind, congrArg (List.cons d) hrest, h⟩

theorem one_cons_iff {pattern rest : List Char} {d : Char} :
    IsLike ('_' :: pattern) (d :: rest) <-> IsLike pattern rest := by
  constructor
  · intro h
    cases h with
    | one c h => exact h
    | itself _ hone => exact absurd rfl hone
  · intro h
    exact .one d h

theorem itself_cons_iff {c d : Char} (hmany : c ≠ '%') (hone : c ≠ '_')
    {pattern rest : List Char} :
    IsLike (c :: pattern) (d :: rest) <-> c = d ∧ IsLike pattern rest := by
  constructor
  · intro h
    generalize htext : d :: rest = text at h
    cases h with
    | many => exact absurd rfl hmany
    | one => exact absurd rfl hone
    | itself _ _ h =>
        injection htext with hfirst hrest
        rw [hrest]
        exact ⟨hfirst.symm, h⟩
  · intro h
    rw [<- h.left]
    exact .itself hmany hone h.right

theorem not_cons_nil {c : Char} (hmany : c ≠ '%') {pattern : List Char} :
    ¬ IsLike (c :: pattern) [] := by
  intro h
  generalize htext : ([] : List Char) = text at h
  cases h with
  | many => exact absurd rfl hmany
  | one => cases htext
  | itself => cases htext

theorem count_le {pattern text : List Char} (h : IsLike pattern text) :
    pattern.count '\n' <= text.count '\n' := by
  induction h with
  | done => exact Nat.le_refl _
  | many run h ih =>
      rw [List.count_cons_of_ne (by decide), List.count_append]
      exact Nat.le_add_left_of_le ih
  | one c h ih =>
      rw [List.count_cons_of_ne (by decide)]
      exact Nat.le_trans ih List.count_le_count_cons
  | itself hmany hone h ih =>
      rw [List.count_cons, List.count_cons]
      exact Nat.add_le_add_right ih _

end IsLike

/-!
# Parts of a pattern
-/

def likePart : Char -> WildcardPart
  | '%' => .many
  | '_' => .one
  | c => .char c

theorem likePart_itself {c : Char} (hmany : c ≠ '%') (hone : c ≠ '_') : likePart c = .char c := by
  unfold likePart
  split
  · exact absurd rfl hmany
  · exact absurd rfl hone
  · rfl

theorem wildcardParts_likeChar (c : Char) (rest : List Char) :
    wildcardParts (likeChar c ++ rest) = likePart c :: wildcardParts rest := by
  by_cases hmany : c = '%'
  · rw [hmany]
    rfl
  by_cases hone : c = '_'
  · rw [hone]
    rfl
  rw [likePart_itself hmany hone]
  unfold likeChar
  split
  · exact absurd rfl hmany
  · exact absurd rfl hone
  · split
    · rfl
    · rename_i hplain
      simp only [Bool.or_eq_true, beq_iff_eq, not_or] at hplain
      rw [List.singleton_append, wildcardParts]
      · intro _ _ hslash
        exact absurd hslash hplain.right
      · intro hslash
        exact absurd hslash hplain.right
      · exact hplain.left.left
      · exact hplain.left.right

theorem wildcardParts_likeToWildcard (pattern : String) :
    wildcardParts (likeToWildcard pattern).toList = pattern.toList.map likePart := by
  rw [likeToWildcard, String.toList_ofList]
  induction pattern.toList with
  | nil => rfl
  | cons c rest ih => rw [List.flatMap_cons, wildcardParts_likeChar, ih, List.map_cons]

/-!
# Matching
-/

theorem passes_iff {rest : List Char} {least : Nat} (h : least <= rest.count '\n') (d : Char) :
    d ≠ '\n' ∧ rest.count '\n' = least <-> (d :: rest).count '\n' = least := by
  by_cases hfeed : d = '\n'
  · rw [hfeed, List.count_cons_self]
    constructor
    · intro hpass
      exact absurd rfl hpass.left
    · intro hcount
      omega
  · rw [List.count_cons_of_ne hfeed]
    exact and_iff_right hfeed

section

variable {pattern : List Char}
  (ih : forall text, matchParts (pattern.map likePart) text = true
    <-> IsLike pattern text ∧ text.count '\n' = pattern.count '\n')

include ih

theorem matchParts_many_iff (text : List Char) :
    matchParts (.many :: pattern.map likePart) text = true
      <-> IsLike ('%' :: pattern) text ∧ text.count '\n' = pattern.count '\n' := by
  induction text with
  | nil =>
      rw [matchParts, IsLike.many_nil_iff]
      exact ih []
  | cons d rest ihrest =>
      rw [matchParts, Bool.or_eq_true, Bool.and_eq_true, bne_iff_ne, IsLike.many_cons_iff, ih,
        ihrest, or_and_right]
      apply or_congr_right
      rw [and_left_comm]
      apply and_congr_right
      intro hlike
      have hleast : pattern.count '\n' <= rest.count '\n' := by
        have hcount := hlike.count_le
        rw [List.count_cons_of_ne (by decide)] at hcount
        exact hcount
      exact passes_iff hleast d

theorem matchParts_one_iff (text : List Char) :
    matchParts (.one :: pattern.map likePart) text = true
      <-> IsLike ('_' :: pattern) text ∧ text.count '\n' = pattern.count '\n' := by
  cases text with
  | nil =>
      rw [matchParts]
      constructor
      · intro h
        cases h
      · intro h
        exact absurd h.left (IsLike.not_cons_nil (by decide))
  | cons d rest =>
      rw [matchParts, Bool.and_eq_true, bne_iff_ne, ih, IsLike.one_cons_iff, and_left_comm]
      apply and_congr_right
      intro hlike
      exact passes_iff hlike.count_le d

theorem matchParts_itself_iff {c : Char} (hmany : c ≠ '%') (hone : c ≠ '_') (text : List Char) :
    matchParts (.char c :: pattern.map likePart) text = true
      <-> IsLike (c :: pattern) text ∧ text.count '\n' = (c :: pattern).count '\n' := by
  cases text with
  | nil =>
      rw [matchParts]
      constructor
      · intro h
        cases h
      · intro h
        exact absurd h.left (IsLike.not_cons_nil hmany)
  | cons d rest =>
      rw [matchParts, Bool.and_eq_true, beq_iff_eq, ih, IsLike.itself_cons_iff hmany hone,
        and_assoc]
      apply and_congr_right
      intro hsame
      rw [hsame, List.count_cons, List.count_cons, Nat.add_right_cancel_iff]

end

theorem matchParts_likeParts_iff (pattern text : List Char) :
    matchParts (pattern.map likePart) text = true
      <-> IsLike pattern text ∧ text.count '\n' = pattern.count '\n' := by
  induction pattern generalizing text with
  | nil =>
      rw [List.map_nil, matchParts, List.isEmpty_iff, IsLike.nil_iff]
      constructor
      · intro h
        rw [h]
        exact ⟨rfl, rfl⟩
      · exact And.left
  | cons c pattern ih =>
      rw [List.map_cons]
      by_cases hmany : c = '%'
      · rw [hmany, List.count_cons_of_ne (by decide)]
        exact matchParts_many_iff ih text
      by_cases hone : c = '_'
      · rw [hone, List.count_cons_of_ne (by decide)]
        exact matchParts_one_iff ih text
      · rw [likePart_itself hmany hone]
        exact matchParts_itself_iff ih hmany hone text

/-- The wildcard text of a LIKE pattern matches the texts that are like the pattern, as far as
they have no line feeds but those of the pattern. -/
theorem matchesWildcard_likeToWildcard_iff (pattern text : String) :
    matchesWildcard (likeToWildcard pattern) text = true
      <-> IsLike pattern.toList text.toList
        ∧ text.toList.count '\n' = pattern.toList.count '\n' := by
  rw [matchesWildcard_eq, wildcardParts_likeToWildcard]
  exact matchParts_likeParts_iff pattern.toList text.toList

/-- A text of two lines is like a pattern that its first character begins, but is not matched. -/
theorem matchesWildcard_twoLines :
    IsLike "a%".toList "a\nb".toList
      ∧ matchesWildcard (likeToWildcard "a%") "a\nb" = false := by
  constructor
  · exact .itself (by decide) (by decide) (.many ['\n', 'b'] .done)
  · decide +kernel

end Text
end Rollup
