import Rollup.Answer.Table
import Rollup.Proofs.Number.Rounding
import Rollup.Store.Metric

/-!
# Natural numbers as floats

A natural number below `2 ^ 53` is a float, and a table shows it as it is. A percentile
of that many numbers has its place among them.
-/

namespace Rollup
namespace Number

open Float.Model
open Float.Model.UnpackedFloat

/-!
# Comparing
-/

theorem unpack_le_of_le {x y : Float} (h : x <= y) :
    x.toModel.unpack.le y.toModel.unpack = true :=
  of_decide_eq_true h

theorem unpack_lt_of_lt {x y : Float} (h : x < y) :
    x.toModel.unpack.lt y.toModel.unpack = true :=
  of_decide_eq_true h

theorem le_hundred_within {x : Float} (hlow : 0 <= x) (hhigh : x <= 100) :
    Within 100 x.toModel.unpack := by
  have hzero : (0 : Float).toModel.unpack = .zero .positive := rfl
  have hleast := unpack_le_of_le hlow
  have hmost := unpack_le_of_le hhigh
  rw [hzero] at hleast
  rw [unpack_hundred] at hmost
  rcases unpack_cases x with
    ⟨_, _, hx, _⟩ | ⟨sign, mantissa, exponent, hpos, hx, _, hm, he⟩ | ⟨hx, _⟩
  · rw [hx]
    trivial
  · rw [hx] at hleast hmost ⊢
    cases sign with
    | negative => exact absurd hleast Bool.false_ne_true
    | positive =>
        have horder : ((compare exponent (-46)).then (compare mantissa 7036874417766400)).isLE :=
          hmost
        have hcases : exponent < -46 ∨ exponent = -46 ∧ mantissa <= 7036874417766400 := by
          rcases Int.lt_trichotomy exponent (-46) with hlt | heq | hgt
          · exact Or.inl hlt
          · rw [Int.compare_eq_eq.mpr heq] at horder
            exact Or.inr ⟨heq, Nat.isLE_compare.mp horder⟩
          · rw [Int.compare_eq_gt.mpr hgt] at horder
            exact absurd horder Bool.false_ne_true
        refine ⟨hm, he, by omega, ?_⟩
        rcases hcases with hlt | ⟨rfl, hle⟩
        · have hpow : 2 ^ 47 <= 2 ^ (-exponent).toNat :=
            Nat.pow_le_pow_right (by decide) (by omega)
          omega
        · exact hle
  · cases hunpacked : x.toModel.unpack with
    | notANumber =>
        rw [hunpacked] at hmost
        exact absurd hmost Bool.false_ne_true
    | infinity sign =>
        rw [hunpacked] at hleast hmost
        cases sign with
        | negative => exact absurd hleast Bool.false_ne_true
        | positive => exact absurd hmost Bool.false_ne_true
    | zero => trivial
    | finite =>
        rw [hunpacked] at hx
        exact absurd hx.symm Bool.false_ne_true

/-!
# Exact conversion
-/

theorem log2_mul_two_pow {n : Nat} (hpos : 0 < n) (amount : Nat) :
    (n * 2 ^ amount).log2 = n.log2 + amount := by
  induction amount with
  | zero => rw [Nat.pow_zero, Nat.mul_one, Nat.add_zero]
  | succ amount ih =>
      have hne : n * 2 ^ amount ≠ 0 := Nat.ne_of_gt (Nat.mul_pos hpos (Nat.two_pow_pos amount))
      rw [Nat.pow_succ', Nat.mul_left_comm, Nat.log2_two_mul hne, ih, Nat.add_assoc]

theorem shiftToTargetExponent_exact {mantissa : Nat} (hlog : mantissa.log2 = 52)
    (hpos : 0 < mantissa) (amount : Nat) {exponent : Int} (hleast : -1074 <= exponent + amount) :
    shiftToTargetExponent Format.binary64 (mantissa * 2 ^ amount) exponent .exact =
      (ExtendedMantissa.mk mantissa false false, exponent + amount) := by
  rw [shiftToTargetExponent_eq, log2_mul_two_pow hpos, hlog]
  have hamount :
      (max (((52 + amount : Nat) : Int) + exponent - 52) (-1074) - exponent).toNat = amount := by
    omega
  dsimp only
  rw [hamount]
  exact congrArg (fun em => (em, exponent + (amount : Int))) (shiftRight_exact mantissa amount)

theorem roundWithAccuracy_exact {mantissa amount : Nat} {exponent final : Int}
    (hlog : mantissa.log2 = 52) (hpos : 0 < mantissa) (hfinal : exponent + amount = final)
    (hleast : -1074 <= final) :
    roundWithAccuracy Format.binary64 .positive (mantissa * 2 ^ amount) exponent .exact =
      .finite .positive mantissa final hpos := by
  subst hfinal
  have hrounded : (ExtendedMantissa.mk mantissa false false).roundedMantissa = mantissa := rfl
  have hsecond := shiftToTargetExponent_exact hlog hpos 0 (by simpa using hleast)
  rw [Nat.pow_zero, Nat.mul_one] at hsecond
  unfold roundWithAccuracy
  rw [shiftToTargetExponent_exact hlog hpos amount hleast]
  dsimp only
  rw [hrounded, hsecond]
  rw [dif_neg (Nat.ne_of_gt hpos)]
  exact finite_congr rfl (Int.add_zero _)

theorem log2_mul_shift {n : Nat} (hpos : 0 < n) (hsmall : n < 2 ^ 53) :
    (n * 2 ^ (52 - n.log2)).log2 = 52 := by
  have hlog : n.log2 < 53 := (Nat.log2_lt (by omega)).mpr hsmall
  rw [log2_mul_two_pow hpos]
  omega

theorem unpack_toFloat {n : Nat} (hpos : 0 < n) (hsmall : n < 2 ^ 53) :
    (n.toUInt64.toFloat).toModel.unpack =
      .finite .positive (n * 2 ^ (52 - n.log2)) ((n.log2 : Int) - 52)
        (Nat.mul_pos hpos (Nat.two_pow_pos _)) := by
  have hlog : n.log2 < 53 := (Nat.log2_lt (by omega)).mpr hsmall
  have hword : n.toUInt64.toNat = n := by
    rw [UInt64.toNat_ofNat']
    omega
  have hamount : ((0 : Int) - max ((n.log2 : Int) + 0 - 52) (-1074)).toNat = 52 - n.log2 := by
    omega
  have hexponent : (0 : Int) - ((52 - n.log2 : Nat) : Int) = (n.log2 : Int) - 52 := by omega
  have hround : UnpackedFloat.round Format.binary64 .positive n 0 =
      .finite .positive (n * 2 ^ (52 - n.log2)) ((n.log2 : Int) - 52)
        (Nat.mul_pos hpos (Nat.two_pow_pos _)) := by
    unfold UnpackedFloat.round decreaseExponent
    rw [targetExponent_eq]
    dsimp only
    rw [hamount, hexponent, Nat.shiftLeft_eq]
    have hexact := roundWithAccuracy_exact (log2_mul_shift hpos hsmall)
      (Nat.mul_pos hpos (Nat.two_pow_pos _)) (Int.add_zero ((n.log2 : Int) - 52)) (by omega)
    rw [Nat.pow_zero, Nat.mul_one] at hexact
    exact hexact
  show (Float.Model.pack (ofNat Format.binary64 n.toUInt64.toNat)).unpack = _
  rw [hword, UnpackedFloat.ofNat, UnpackedFloat.ofInt, UnpackedFloat.normalize,
    Int.compare_eq_gt.mpr (by omega)]
  dsimp only
  rw [Int.toNat_natCast, hround]
  exact unpack_pack_normal _ (log2_mul_shift hpos hsmall) (by omega) (by omega)

theorem unpack_ofNat {n : Nat} (hpos : 0 < n) (hsmall : n < 2 ^ 53) :
    (Float.ofNat n).toModel.unpack =
      .finite .positive (n * 2 ^ (52 - n.log2)) ((n.log2 : Int) - 52)
        (Nat.mul_pos hpos (Nat.two_pow_pos _)) := by
  have hlog : n.log2 < 53 := (Nat.log2_lt (by omega)).mpr hsmall
  have hone : (Float.ofBits 0x3FF0000000000000).toModel.unpack =
      .finite .positive (2 ^ 52) (-52) (Nat.two_pow_pos 52) := rfl
  have hfast : Float.ofNat n = n.toUInt64.toFloat * Float.ofBits 0x3FF0000000000000 := by
    show Float.ofScientific n false 0 = _
    unfold Float.ofScientific
    rw [dif_pos ⟨hsmall, Nat.zero_le 22⟩]
    rfl
  have hexponent : (n.log2 : Int) - 52 + -52 + (52 : Nat) = (n.log2 : Int) - 52 := by omega
  rw [hfast]
  show (Float.Model.pack (mul Format.binary64 _ _)).unpack = _
  rw [unpack_toFloat hpos hsmall, hone]
  show (Float.Model.pack
    (roundWithAccuracy Format.binary64 .positive _ ((n.log2 : Int) - 52 + -52) .exact)).unpack = _
  rw [roundWithAccuracy_exact (log2_mul_shift hpos hsmall)
    (Nat.mul_pos hpos (Nat.two_pow_pos _)) hexponent (by omega)]
  exact unpack_pack_normal _ (log2_mul_shift hpos hsmall) (by omega) (by omega)

theorem dyadic?_of_unpack {x : Float} {mantissa : Nat} {exponent : Int} {hpos : 0 < mantissa}
    (h : x.toModel.unpack = .finite .positive mantissa exponent hpos) :
    dyadic? x = some { negative := false, mantissa := mantissa, exponent := exponent } := by
  rcases unpack_cases x with
    ⟨_, _, hzero, _⟩ | ⟨sign, _, _, _, hfinite, ⟨negative, hsign, hdyadic⟩, _, _⟩ | ⟨hnone, _⟩
  · rw [h] at hzero
    cases hzero
  · rw [h] at hfinite
    cases hfinite
    rw [hdyadic, hsign.mp rfl]
  · rw [h] at hnone
    cases hnone

theorem Dyadic.wholePart_eq (d : Dyadic) :
    d.wholePart = d.mantissa * 2 ^ d.exponent.toNat / 2 ^ (-d.exponent).toNat :=
  rfl

theorem Dyadic.hasFraction_eq (d : Dyadic) :
    d.hasFraction = (d.mantissa * 2 ^ d.exponent.toNat % 2 ^ (-d.exponent).toNat != 0) :=
  rfl

theorem Dyadic.wholePart_le {bound : Nat} {d : Dyadic} (hexponent : d.exponent <= 0)
    (h : d.mantissa <= bound * 2 ^ (-d.exponent).toNat) :
    d.wholePart + (if d.hasFraction then 1 else 0) <= bound := by
  have hscale : d.exponent.toNat = 0 := by omega
  rw [Dyadic.wholePart_eq, Dyadic.hasFraction_eq, hscale, Nat.pow_zero, Nat.mul_one]
  generalize 2 ^ (-d.exponent).toNat = scale at h ⊢
  by_cases hexact : d.mantissa % scale = 0
  · simp only [hexact, bne_self_eq_false, Bool.false_eq_true, if_false, Nat.add_zero]
    exact Nat.div_le_of_le_mul (by rwa [Nat.mul_comm])
  · have hne : d.mantissa ≠ bound * scale := by
      intro heq
      exact hexact (heq ▸ Nat.mul_mod_left bound scale)
    have htrue : (d.mantissa % scale != 0) = true := bne_iff_ne.mpr hexact
    rw [if_pos htrue]
    exact Nat.div_lt_of_lt_mul (by rw [Nat.mul_comm]; omega)

theorem toIndex_le {bound : Nat} {x : Float} (h : Within bound x.toModel.unpack) :
    toIndex Dyadic.floor x <= bound ∧ toIndex Dyadic.ceil x <= bound := by
  have hdyadic : exists d, dyadic? x = some d ∧ d.exponent <= 0
      ∧ d.mantissa <= bound * 2 ^ (-d.exponent).toNat := by
    rcases unpack_cases x with
      ⟨_, _, _, hzero⟩ | ⟨sign, _, _, _, hfinite, ⟨_, _, hdyadic⟩, _, _⟩ | ⟨hnone, _⟩
    · exact ⟨_, hzero, (by decide : (-1074 : Int) <= 0), Nat.zero_le _⟩
    · rw [hfinite] at h
      cases sign with
      | negative => exact h.elim
      | positive => exact ⟨_, hdyadic, h.2.2.1, h.2.2.2⟩
    · cases hunpack : x.toModel.unpack with
      | notANumber => exact (hunpack ▸ h).elim
      | infinity => exact (hunpack ▸ h).elim
      | zero => rw [hunpack] at hnone; cases hnone
      | finite => rw [hunpack] at hnone; cases hnone
  rcases hdyadic with ⟨d, hd, hexponent, hle⟩
  have hwhole := Dyadic.wholePart_le hexponent hle
  unfold toIndex
  rw [hd]
  unfold Dyadic.floor Dyadic.ceil Dyadic.signed
  cases d.negative <;> cases hfraction : d.hasFraction <;>
    simp [hfraction] at hwhole ⊢ <;> omega

theorem ofNat_within {n : Nat} (hsmall : n < 2 ^ 53) : Within n (Float.ofNat n).toModel.unpack := by
  rcases Nat.eq_zero_or_pos n with rfl | hpos
  · trivial
  · have hlog : n.log2 < 53 := (Nat.log2_lt (by omega)).mpr hsmall
    have hhigh : n * 2 ^ (52 - n.log2) < 2 ^ 53 := by
      have hself : n * 2 ^ (52 - n.log2) < 2 ^ ((n * 2 ^ (52 - n.log2)).log2 + 1) :=
        Nat.lt_log2_self
      rwa [log2_mul_shift hpos hsmall] at hself
    have hroom : (-((n.log2 : Int) - 52)).toNat = 52 - n.log2 := by omega
    rw [unpack_ofNat hpos hsmall]
    exact ⟨hhigh, by omega, by omega, Nat.le_of_eq (by rw [hroom])⟩

theorem place_within {percent : Float} (hlow : 0 <= percent) (hhigh : percent <= 100) {last : Nat}
    (hlast : last < 2 ^ 53) :
    Within last (percent / 100 * Float.ofNat last).toModel.unpack := by
  have hshare : Within 1 (percent / 100).toModel.unpack := by
    show Within 1 (Float.Model.pack
      (div Format.binary64 percent.toModel.unpack (100 : Float).toModel.unpack)).unpack
    rw [unpack_hundred]
    exact (le_hundred_within hlow hhigh).div_hundred.unpack_pack
  exact (Within.mul hlast hshare (ofNat_within hlast)).unpack_pack

end Number
end Rollup
