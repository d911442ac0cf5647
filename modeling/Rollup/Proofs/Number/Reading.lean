import Rollup.Proofs.Number.Comparison

/-!
# Numerals as floats

A numeral is read as a number, also where it is too large for a finite float. Only a word
is read as a NaN, and no numeral is one.
-/

namespace Rollup
namespace Number

open Float.Model
open Float.Model.UnpackedFloat

/-!
# Decimal digits
-/

def isPositive : UnpackedFloat -> Bool
  | .finite .positive _ _ _ => true
  | _ => false

section

variable {a b : UnpackedFloat} (ha : isPositive a = true) (hb : isPositive b = true)

include ha hb

theorem isNaN_mul : (mul Format.binary64 a b).isNaN = false := by
  match a, b, ha, hb with
  | .finite .positive _ _ _, .finite .positive _ _ _, _, _ => exact isNaN_roundWithAccuracy _ _ _ _

theorem isNaN_div : (div Format.binary64 a b).isNaN = false := by
  match a, b, ha, hb with
  | .finite .positive _ _ _, .finite .positive _ _ _, _, _ => exact isNaN_roundWithAccuracy _ _ _ _

end

theorem isPositive_powerOfTen {power : Float} (h : power ∈ Float.exactlyRepresentablePowersOfTen) :
    isPositive power.toModel.unpack = true := by
  have hall : Float.exactlyRepresentablePowersOfTen.all
      (fun power => isPositive power.toModel.unpack) = true := by
    decide +kernel
  exact Array.all_eq_true_iff_forall_mem.mp hall power h

theorem isNaN_unpackedOfScientific (digits : Nat) (exponent : Int) :
    (UnpackedFloat.ofScientific Format.binary64 digits exponent).isNaN = false := by
  unfold UnpackedFloat.ofScientific
  by_cases hzero : digits = 0
  · rw [dif_pos hzero]
    rfl
  by_cases hlarge : exponent > 2 ^ Format.binary64.exponentBits
  · rw [dif_neg hzero, if_pos hlarge]
    rfl
  by_cases hsmall : exponent < -(2 ^ Format.binary64.exponentBits + digits.log2)
  · rw [dif_neg hzero, if_neg hlarge, if_pos hsmall]
    rfl
  rw [dif_neg hzero, if_neg hlarge, if_neg hsmall]
  by_cases hwhole : 0 <= exponent
  · rw [if_pos hwhole]
    exact isNaN_mul rfl rfl
  · rw [if_neg hwhole]
    exact isNaN_div rfl rfl

theorem isNaN_ofScientific {digits : Nat} (hpos : 0 < digits) (negative : Bool) (exponent : Nat) :
    (Float.ofScientific digits negative exponent).isNaN = false := by
  unfold Float.ofScientific
  split
  · rename_i hexact
    have hdigits : isPositive digits.toUInt64.toFloat.toModel.unpack = true := by
      rw [unpack_toFloat hpos hexact.left]
      rfl
    have hsize : exponent < Float.exactlyRepresentablePowersOfTen.size :=
      Nat.lt_succ_of_le hexact.right
    have hpower := isPositive_powerOfTen (Array.getElem_mem hsize)
    dsimp only
    split
    · exact isNaN_unpack_pack (isNaN_div hdigits hpower)
    · exact isNaN_unpack_pack (isNaN_mul hdigits hpower)
  · exact isNaN_unpack_pack (isNaN_unpackedOfScientific _ _)

theorem isNaN_nearestFloat (digits : Nat) (exponent : Int) :
    (nearestFloat digits exponent).isNaN = false := by
  unfold nearestFloat
  dsimp only
  split
  · decide +kernel
  rename_i hdigits
  have hpos : 0 < digits := by
    simp only [Bool.or_eq_true, decide_eq_true_eq, not_or] at hdigits
    omega
  split
  · decide +kernel
  split
  · exact isNaN_ofScientific hpos true _
  · exact isNaN_ofScientific hpos false _

/-!
# Numerals
-/

theorem isNaN_readSize? {cs : List Char} {x : Float} (h : readSize? cs = some x) :
    x.isNaN = false := by
  revert h
  fun_cases readSize? cs with
  | case1 => nofun
  | case2 =>
      intro h
      cases h
      exact isNaN_nearestFloat _ _
  | case3 => nofun

theorem IsNumeral.takeSign_snd {cs : List Char} (h : IsNumeral cs) :
    IsUnsigned (takeSign cs).2 := by
  cases h with
  | unsigned hunsigned =>
      rw [hunsigned.takeSign_eq]
      exact hunsigned
  | negative hunsigned => exact hunsigned

theorem isNaN_readFloat? {text : String} (h : IsNumeral text.toList) {x : Float}
    (hread : readFloat? text = some x) : x.isNaN = false := by
  have hunsigned := h.takeSign_snd
  unfold readFloat? at hread
  dsimp only at hread
  rw [hunsigned.lower_ne_word (by decide), hunsigned.lower_ne_word (by decide),
    hunsigned.lower_ne_word (by decide)] at hread
  rcases Option.map_eq_some_iff.mp hread with ⟨size, hsize, hsigned⟩
  have hnumber := isNaN_readSize? hsize
  cases hnegative : (takeSign text.toList).1 with
  | false =>
      rw [hnegative] at hsigned
      rw [<- hsigned]
      exact hnumber
  | true =>
      rw [hnegative] at hsigned
      rw [<- hsigned]
      exact isNaN_neg hnumber

end Number
end Rollup
