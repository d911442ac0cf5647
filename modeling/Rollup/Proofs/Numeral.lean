import Rollup.Number.Reading

/-!
# Numerals

The texts that the query language takes for numbers: an optional minus sign, digits,
and optionally a point with digits behind it.
-/

namespace Rollup
namespace Number

/-- A run of characters of a class ends where a character outside the class, or nothing,
follows it. -/
theorem span_append {p : Char -> Bool} {cs rest : List Char}
    (hcs : forall c, c ∈ cs -> p c = true)
    (hrest : forall c, rest.head? = some c -> p c = false) :
    (cs ++ rest).takeWhile p = cs ∧ (cs ++ rest).dropWhile p = rest := by
  have hstop : rest.takeWhile p = [] ∧ rest.dropWhile p = rest := by
    cases rest with
    | nil => exact ⟨rfl, rfl⟩
    | cons c rest => simp [hrest c rfl]
  rw [List.takeWhile_append_of_pos hcs, List.dropWhile_append_of_pos hcs, hstop.left,
    hstop.right, List.append_nil]
  exact ⟨rfl, rfl⟩

/-- At least one digit and nothing else. -/
def IsDigits (cs : List Char) : Prop :=
  cs ≠ [] ∧ forall c, c ∈ cs -> c.isDigit = true

instance (cs : List Char) : Decidable (IsDigits cs) :=
  decidable_of_iff (cs ≠ [] ∧ cs.all Char.isDigit = true) (by rw [IsDigits, List.all_eq_true])

inductive IsUnsigned : List Char -> Prop
  | whole {digits : List Char} (hdigits : IsDigits digits) : IsUnsigned digits
  | fraction {digits places : List Char} (hdigits : IsDigits digits) (hplaces : IsDigits places) :
      IsUnsigned (digits ++ '.' :: places)

inductive IsNumeral : List Char -> Prop
  | unsigned {cs : List Char} (h : IsUnsigned cs) : IsNumeral cs
  | negative {cs : List Char} (h : IsUnsigned cs) : IsNumeral ('-' :: cs)

theorem isDigits_toDigits (n : Nat) : IsDigits (Nat.toDigits 10 n) :=
  ⟨Nat.toDigits_ne_nil, fun _ hc =>
    Nat.isDigit_of_mem_toDigits (by decide) (by decide) hc⟩

theorem isNumeral_toString (n : Nat) : IsNumeral (toString n).toList := by
  have htext : (toString n).toList = Nat.toDigits 10 n := Nat.toList_repr
  rw [htext]
  exact .unsigned (.whole (isDigits_toDigits n))

theorem digitsValue_toDigits (n : Nat) : digitsValue 0 (Nat.toDigits 10 n) = n :=
  Nat.ofDigitChars_ten_toDigits

theorem readNat?_toString {limit n : Nat} (h : n < limit) :
    readNat? limit (toString n) = some n := by
  have htext : (toString n).toList = Nat.toDigits 10 n := Nat.toList_repr
  rcases isDigits_toDigits n with ⟨hne, hdigits⟩
  have hread : readDigits? (Nat.toDigits 10 n) = some n := by
    rw [readDigits?, List.all_eq_true.mpr hdigits, digitsValue_toDigits]
    simp [hne]
  unfold readNat?
  rw [htext]
  split
  · rename_i heq
    rw [heq] at hdigits
    cases hdigits '+' List.mem_cons_self
  · dsimp only
    rw [hread]
    exact if_pos h

theorem toDigits_injective {m n : Nat} (h : Nat.toDigits 10 m = Nat.toDigits 10 n) : m = n := by
  have hvalue := congrArg (fun digits => Nat.ofDigitChars 10 digits 0) h
  simpa only [Nat.ofDigitChars_ten_toDigits] using hvalue

theorem IsUnsigned.head_isDigit {cs : List Char} (h : IsUnsigned cs) :
    exists c rest, cs = c :: rest ∧ c.isDigit = true := by
  cases h with
  | whole hdigits =>
      obtain ⟨c, rest, rfl⟩ := List.exists_cons_of_ne_nil hdigits.left
      exact ⟨c, rest, rfl, hdigits.right c List.mem_cons_self⟩
  | @fraction digits places hdigits hplaces =>
      obtain ⟨c, rest, rfl⟩ := List.exists_cons_of_ne_nil hdigits.left
      exact ⟨c, rest ++ '.' :: places, rfl, hdigits.right c List.mem_cons_self⟩

theorem IsUnsigned.digit_or_point {cs : List Char} (h : IsUnsigned cs) {c : Char} (hc : c ∈ cs) :
    c.isDigit = true ∨ c = '.' := by
  cases h with
  | whole hdigits => exact Or.inl (hdigits.right c hc)
  | @fraction digits places hdigits hplaces =>
      rw [List.mem_append, List.mem_cons] at hc
      rcases hc with hc | rfl | hc
      · exact Or.inl (hdigits.right c hc)
      · exact Or.inr rfl
      · exact Or.inl (hplaces.right c hc)

theorem IsNumeral.digit_or_sign {cs : List Char} (h : IsNumeral cs) {c : Char} (hc : c ∈ cs) :
    c.isDigit = true ∨ c = '.' ∨ c = '-' := by
  cases h with
  | unsigned hunsigned => exact (hunsigned.digit_or_point hc).imp id Or.inl
  | negative hunsigned =>
      rcases List.mem_cons.mp hc with rfl | hc
      · exact Or.inr (Or.inr rfl)
      · exact (hunsigned.digit_or_point hc).imp id Or.inl

theorem not_isNumeral_of_mem {cs : List Char} {c : Char} (hc : c ∈ cs)
    (h : c.isDigit = false ∧ c ≠ '.' ∧ c ≠ '-') : ¬ IsNumeral cs := by
  intro hnumeral
  rcases hnumeral.digit_or_sign hc with hdigit | hpoint | hminus
  · rw [h.left] at hdigit
    cases hdigit
  · exact h.right.left hpoint
  · exact h.right.right hminus

theorem IsNumeral.ne_nil {cs : List Char} (h : IsNumeral cs) : cs ≠ [] := by
  rintro rfl
  cases h with
  | unsigned hunsigned =>
      rcases hunsigned.head_isDigit with ⟨c, rest, heq, _⟩
      cases heq

end Number
end Rollup
