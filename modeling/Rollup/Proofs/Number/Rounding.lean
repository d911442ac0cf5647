import Mathlib.Tactic.Ring
import Rollup.Number.Dyadic

/-!
# Rounding

A float keeps 53 bits of a number. The bounds here say that rounding does not pass a
natural number that the exact result does not pass, and that natural numbers below
`2 ^ 53` are kept as they are.
-/

namespace Rollup
namespace Number

open Float.Model
open Float.Model.UnpackedFloat

/-!
# Bits of a float
-/

theorem unpackMantissa_toNat (bits : BitVec 64) :
    (@unpackMantissa Format.binary64 bits).toNat = bits.toNat % 2 ^ 52 := by
  simp [unpackMantissa]

theorem unpackExponent_toNat (bits : BitVec 64) :
    (@unpackExponent Format.binary64 bits).toNat = bits.toNat / 2 ^ 52 % 2048 := by
  simp [unpackExponent, Nat.shiftRight_eq_div_pow]

theorem unpackSign_toNat (bits : BitVec 64) :
    (@unpackSign Format.binary64 bits).toNat = bits.toNat / 2 ^ 63 % 2 := by
  show (bits.extractLsb' 63 1).toNat = _
  rw [BitVec.extractLsb'_toNat, Nat.shiftRight_eq_div_pow]

theorem unpackSign_eq_positive_iff (bits : BitVec 64) :
    Sign.ofBitVec (@unpackSign Format.binary64 bits) = .positive <-> bits.toNat < 2 ^ 63 := by
  have hbits := bits.isLt
  have hzero : @unpackSign Format.binary64 bits = 0#1 <-> bits.toNat < 2 ^ 63 := by
    rw [<- BitVec.toNat_inj, unpackSign_toNat]
    simp only [BitVec.toNat_ofNat]
    omega
  unfold Sign.ofBitVec
  by_cases h : @unpackSign Format.binary64 bits = 0#1
  · simp only [h, if_true, true_iff]
    exact hzero.mp h
  · rw [if_neg h]
    exact ⟨fun hsign => (by cases hsign), fun hlt => absurd (hzero.mpr hlt) h⟩

theorem implicitBit_toNat (fraction : BitVec 52) :
    (1#1 ++ fraction).toNat = 2 ^ 52 + fraction.toNat := by
  have hlt := fraction.isLt
  rw [BitVec.toNat_append]
  show 1 <<< 52 ||| fraction.toNat = 2 ^ 52 + fraction.toNat
  rw [<- Nat.shiftLeft_add_eq_or_of_lt hlt]
  rfl

theorem implicitBit_pos (fraction : BitVec 52) : 0 < (1#1 ++ fraction).toNat := by
  rw [implicitBit_toNat]
  omega

theorem toNat_pos_of_ne_zero {fraction : BitVec 52} (h : fraction ≠ 0#52) : 0 < fraction.toNat :=
  Nat.pos_of_ne_zero (fun hzero => h (BitVec.eq_of_toNat_eq hzero))

/-- The float that three fields of bits stand for. -/
def ofFields (sign : Sign) (exponent : BitVec 11) (fraction : BitVec 52) : UnpackedFloat :=
  if exponent = -1#11 then
    if fraction = 0#52 then .infinity sign else .notANumber
  else if exponent = 0#11 then
    if h : fraction = 0#52 then
      .zero sign
    else
      .finite sign fraction.toNat (-1074) (toNat_pos_of_ne_zero h)
  else
    .finite sign (1#1 ++ fraction).toNat ((exponent.toNat : Int) - 1075)
      (implicitBit_pos fraction)

theorem finite_congr {sign : Sign} {m n : Nat} {e f : Int} {hm : 0 < m} {hn : 0 < n}
    (hmantissa : m = n) (hexponent : e = f) :
    UnpackedFloat.finite sign m e hm = .finite sign n f hn := by
  subst hmantissa hexponent
  rfl

theorem unpack_eq_ofFields (bits : BitVec 64) :
    UnpackedFloat.unpack Format.binary64 bits =
      ofFields (Sign.ofBitVec (@unpackSign Format.binary64 bits))
        (@unpackExponent Format.binary64 bits) (@unpackMantissa Format.binary64 bits) := by
  unfold UnpackedFloat.unpack ofFields
  dsimp only
  by_cases hones : @unpackExponent Format.binary64 bits = -1#11
  · rw [if_pos hones, if_pos hones]
  · rw [if_neg hones, if_neg hones]
    by_cases hzero : @unpackExponent Format.binary64 bits = 0#11
    · rw [if_pos hzero, if_pos hzero]
      by_cases hnone : @unpackMantissa Format.binary64 bits = 0#52
      · rw [dif_pos hnone, dif_pos hnone]
      · rw [dif_neg hnone, dif_neg hnone]
        refine finite_congr rfl ?_
        rw [hzero]
        rfl
    · rw [if_neg hzero, if_neg hzero]
      rfl

theorem ofFields_cases (sign : Sign) (exponent : BitVec 11) (fraction : BitVec 52) :
    (exponent = -1#11 ∧ (ofFields sign exponent fraction = .infinity sign
        ∨ ofFields sign exponent fraction = .notANumber))
      ∨ (exponent ≠ -1#11 ∧ (ofFields sign exponent fraction = .zero sign
        ∨ exists mantissa scale hpos,
          ofFields sign exponent fraction = .finite sign mantissa scale hpos
            ∧ scale <= 971)) := by
  unfold ofFields
  by_cases hones : exponent = -1#11
  · rw [if_pos hones]
    by_cases hnone : fraction = 0#52
    · rw [if_pos hnone]
      exact Or.inl ⟨hones, Or.inl rfl⟩
    · rw [if_neg hnone]
      exact Or.inl ⟨hones, Or.inr rfl⟩
  · rw [if_neg hones]
    refine Or.inr ⟨hones, ?_⟩
    by_cases hzero : exponent = 0#11
    · rw [if_pos hzero]
      by_cases hnone : fraction = 0#52
      · rw [dif_pos hnone]
        exact Or.inl rfl
      · rw [dif_neg hnone]
        exact Or.inr ⟨_, _, _, rfl, by decide⟩
    · rw [if_neg hzero]
      have hlt := exponent.isLt
      have hsmall : exponent.toNat ≠ 2047 := fun h => hones (BitVec.eq_of_toNat_eq h)
      exact Or.inr ⟨_, _, _, rfl, by omega⟩

theorem dyadic?_eq (x : Float) :
    dyadic? x =
      let bits := x.toModel.toBits.toBitVec
      let negative : Bool := 2 ^ 63 <= bits.toNat
      let exponent := (@unpackExponent Format.binary64 bits).toNat
      let fraction := (@unpackMantissa Format.binary64 bits).toNat
      if exponent = 2047 then
        none
      else if exponent = 0 then
        some { negative := negative, mantissa := fraction, exponent := -1074 }
      else
        some
          { negative := negative
            mantissa := 2 ^ 52 + fraction
            exponent := (exponent : Int) - 1075 } := by
  dsimp only
  rw [unpackExponent_toNat, unpackMantissa_toNat]
  rfl

/-- A finite float is zero or has a mantissa of at most 53 bits, which `dyadic?` gives. -/
theorem unpack_cases (x : Float) :
    (exists sign negative, x.toModel.unpack = .zero sign
      ∧ dyadic? x = some { negative := negative, mantissa := 0, exponent := -1074 })
    ∨ (exists sign mantissa exponent hpos,
        x.toModel.unpack = .finite sign mantissa exponent hpos
        ∧ (exists negative, (sign = .positive <-> negative = false)
            ∧ dyadic? x =
              some { negative := negative, mantissa := mantissa, exponent := exponent })
        ∧ mantissa < 2 ^ 53 ∧ -1074 <= exponent)
    ∨ (x.toModel.unpack.isFinite = false ∧ dyadic? x = none) := by
  have hdyadic := dyadic?_eq x
  have hnegative :
      Sign.ofBitVec (@unpackSign Format.binary64 x.toModel.toBits.toBitVec) = .positive <->
        decide (2 ^ 63 <= x.toModel.toBits.toBitVec.toNat) = false := by
    rw [unpackSign_eq_positive_iff, decide_eq_false_iff_not, Nat.not_le]
  dsimp only at hdyadic
  unfold Float.Model.unpack
  rw [unpack_eq_ofFields]
  generalize Sign.ofBitVec (@unpackSign Format.binary64 x.toModel.toBits.toBitVec) = sign
    at hnegative ⊢
  generalize @unpackExponent Format.binary64 x.toModel.toBits.toBitVec = exponent at hdyadic ⊢
  generalize @unpackMantissa Format.binary64 x.toModel.toBits.toBitVec = fraction at hdyadic ⊢
  have hfraction : fraction.toNat < 2 ^ 52 := fraction.isLt
  by_cases hones : exponent = -1#11
  · have hfull : exponent.toNat = 2047 := congrArg BitVec.toNat hones
    rw [if_pos hfull] at hdyadic
    rcases ofFields_cases sign exponent fraction with ⟨_, hvalue | hvalue⟩ | ⟨hother, _⟩
    · rw [hvalue]
      exact Or.inr (Or.inr ⟨rfl, hdyadic⟩)
    · rw [hvalue]
      exact Or.inr (Or.inr ⟨rfl, hdyadic⟩)
    · exact absurd hones hother
  · have hsmall : exponent.toNat ≠ 2047 := fun h => hones (BitVec.eq_of_toNat_eq h)
    rw [if_neg hsmall] at hdyadic
    rw [ofFields, if_neg hones]
    by_cases hzero : exponent = 0#11
    · have hcleared : exponent.toNat = 0 := congrArg BitVec.toNat hzero
      rw [if_pos hzero]
      rw [if_pos hcleared] at hdyadic
      by_cases hnone : fraction = 0#52
      · rw [dif_pos hnone]
        rw [hnone] at hdyadic
        exact Or.inl ⟨_, _, rfl, hdyadic⟩
      · rw [dif_neg hnone]
        exact Or.inr (Or.inl ⟨_, _, _, toNat_pos_of_ne_zero hnone, rfl, ⟨_, hnegative, hdyadic⟩,
          Nat.lt_trans hfraction (by decide), by decide⟩)
    · have hpos : exponent.toNat ≠ 0 := fun h => hzero (BitVec.eq_of_toNat_eq h)
      rw [if_neg hzero]
      rw [if_neg hpos, <- implicitBit_toNat] at hdyadic
      refine Or.inr (Or.inl ⟨_, _, _, implicitBit_pos _, rfl, ⟨_, hnegative, hdyadic⟩, ?_, ?_⟩)
      · rw [implicitBit_toNat]
        omega
      · omega

/-!
# Shifting

An extended mantissa stands for a number between the mantissa and its ceiling.
-/

def ceiling (em : ExtendedMantissa) : Nat :=
  em.mantissa + if em.roundBit || em.stickyBit then 1 else 0

theorem roundedMantissa_le_ceiling (em : ExtendedMantissa) : em.roundedMantissa <= ceiling em := by
  rcases em with ⟨mantissa, _ | _, _ | _⟩
  · exact Nat.le_refl mantissa
  · exact Nat.le_succ mantissa
  · show mantissa + mantissa % 2 <= mantissa + 1
    omega
  · exact Nat.le_refl (mantissa + 1)

theorem ceiling_shiftRightOne_le {em : ExtendedMantissa} {bound : Nat}
    (h : ceiling em <= bound * 2) : ceiling em.shiftRightOne <= bound := by
  rcases em with ⟨mantissa, roundBit, stickyBit⟩
  unfold ceiling at h
  show mantissa / 2 + (if mantissa % 2 != 0 || (roundBit || stickyBit) then 1 else 0) <= bound
  dsimp only at h
  generalize (roundBit || stickyBit) = inexact at h ⊢
  cases inexact with
  | false =>
      rcases Nat.mod_two_eq_zero_or_one mantissa with hparity | hparity
      all_goals
        simp [hparity] at h ⊢
        omega
  | true =>
      simp at h ⊢
      omega

theorem ceiling_shiftRight_le {em : ExtendedMantissa} {bound : Nat} (amount : Nat)
    (h : ceiling em <= bound * 2 ^ amount) : ceiling (em >>> amount) <= bound := by
  induction amount generalizing bound with
  | zero =>
      rw [Nat.pow_zero, Nat.mul_one] at h
      exact h
  | succ amount ih =>
      apply ceiling_shiftRightOne_le
      apply ih
      rwa [Nat.mul_assoc, <- Nat.pow_succ']

theorem mantissa_shiftRight (em : ExtendedMantissa) (amount : Nat) :
    (em >>> amount).mantissa = em.mantissa / 2 ^ amount := by
  induction amount with
  | zero => exact (Nat.div_one em.mantissa).symm
  | succ amount ih =>
      show (em >>> amount).mantissa / 2 = _
      rw [ih, Nat.div_div_eq_div_mul, Nat.pow_succ]

theorem shiftRight_exact (mantissa amount : Nat) :
    (ExtendedMantissa.mk (mantissa * 2 ^ amount) false false) >>> amount =
      ExtendedMantissa.mk mantissa false false := by
  induction amount generalizing mantissa with
  | zero => simp [HShiftRight.hShiftRight, Nat.repeat]
  | succ amount ih =>
      show (ExtendedMantissa.mk (mantissa * 2 ^ (amount + 1)) false false >>> amount).shiftRightOne
        = _
      rw [Nat.pow_succ', <- Nat.mul_assoc, ih]
      simp [ExtendedMantissa.shiftRightOne]

/-!
# Bounds

A natural bound below `2 ^ 53` is itself a float, so that rounding cannot pass it.
-/

/-- Zero, or a positive number that is at most the bound. -/
def Within (bound : Nat) : UnpackedFloat -> Prop
  | .zero _ => True
  | .finite .positive mantissa exponent _ =>
      mantissa < 2 ^ 53 ∧ -1074 <= exponent ∧ exponent <= 0
        ∧ mantissa <= bound * 2 ^ (-exponent).toNat
  | _ => False

theorem targetExponent_eq (mantissa : Nat) (exponent : Int) :
    Format.binary64.targetExponent (totalExponent mantissa exponent) =
      max ((mantissa.log2 : Int) + exponent - 52) (-1074) := by
  show max ((mantissa.log2 : Int) + 1 + exponent - 53) (-1074) = _
  omega

theorem mantissa_ofMantissaAndAccuracy (mantissa : Nat) (accuracy : Accuracy) :
    (ExtendedMantissa.ofMantissaAndAccuracy mantissa accuracy).mantissa = mantissa := by
  rcases accuracy with _ | _ | _ | _ <;> rfl

theorem shiftToTargetExponent_eq (mantissa : Nat) (exponent : Int) (accuracy : Accuracy) :
    shiftToTargetExponent Format.binary64 mantissa exponent accuracy =
      let amount := (max ((mantissa.log2 : Int) + exponent - 52) (-1074) - exponent).toNat
      (ExtendedMantissa.ofMantissaAndAccuracy mantissa accuracy >>> amount, exponent + amount) := by
  rw [shiftToTargetExponent, targetExponent_eq]
  rfl

theorem shiftToTargetExponent_within {mantissa bound : Nat} {exponent : Int} {accuracy : Accuracy}
    (hbound : bound < 2 ^ 53) (hexponent : exponent <= 0)
    (h : ceiling (.ofMantissaAndAccuracy mantissa accuracy) <=
      bound * 2 ^ (-exponent).toNat) :
    let shifted := shiftToTargetExponent Format.binary64 mantissa exponent accuracy
    shifted.1.mantissa < 2 ^ 53 ∧ -1074 <= shifted.2 ∧ shifted.2 <= 0
      ∧ ceiling shifted.1 <= bound * 2 ^ (-shifted.2).toNat := by
  have hmantissa : mantissa <= bound * 2 ^ (-exponent).toNat := by
    have hle : mantissa <= ceiling (.ofMantissaAndAccuracy mantissa accuracy) := by
      unfold ceiling
      rw [mantissa_ofMantissaAndAccuracy]
      exact Nat.le_add_right _ _
    exact Nat.le_trans hle h
  have hlog : (mantissa.log2 : Int) < 53 + (-exponent).toNat := by
    by_cases hzero : mantissa = 0
    · rw [hzero, Nat.log2_zero]
      omega
    · have hlt : mantissa < 2 ^ (53 + (-exponent).toNat) := by
        rw [Nat.pow_add]
        exact Nat.lt_of_le_of_lt hmantissa
          (Nat.mul_lt_mul_of_pos_right hbound (Nat.two_pow_pos _))
      have := (Nat.log2_lt hzero).mpr hlt
      omega
  rw [shiftToTargetExponent_eq]
  dsimp only
  generalize hamount :
    (max ((mantissa.log2 : Int) + exponent - 52) (-1074) - exponent).toNat = amount
  have hsplit : (-exponent).toNat = (-(exponent + amount)).toNat + amount := by omega
  refine ⟨?_, by omega, by omega, ?_⟩
  · rw [mantissa_shiftRight, mantissa_ofMantissaAndAccuracy]
    apply Nat.div_lt_of_lt_mul
    have hself : mantissa < 2 ^ (mantissa.log2 + 1) := Nat.lt_log2_self
    have hpow : 2 ^ (mantissa.log2 + 1) <= 2 ^ (amount + 53) :=
      Nat.pow_le_pow_right (by decide) (by omega)
    rw [<- Nat.pow_add]
    exact Nat.lt_of_lt_of_le hself hpow
  · apply ceiling_shiftRight_le
    rw [Nat.mul_assoc, <- Nat.pow_add, <- hsplit]
    exact h

theorem roundWithAccuracy_within {mantissa bound : Nat} {exponent : Int} {accuracy : Accuracy}
    (hbound : bound < 2 ^ 53) (hexponent : exponent <= 0)
    (h : ceiling (.ofMantissaAndAccuracy mantissa accuracy) <=
      bound * 2 ^ (-exponent).toNat) :
    Within bound (roundWithAccuracy Format.binary64 .positive mantissa exponent accuracy) := by
  have hfirst := shiftToTargetExponent_within hbound hexponent h
  unfold roundWithAccuracy
  generalize shiftToTargetExponent Format.binary64 mantissa exponent accuracy = first at hfirst ⊢
  rcases hfirst with ⟨_, _, hfirstExponent, hfirstCeiling⟩
  have hrounded :
      ceiling (.ofMantissaAndAccuracy first.1.roundedMantissa .exact) <=
        bound * 2 ^ (-first.2).toNat :=
    Nat.le_trans (roundedMantissa_le_ceiling first.1) hfirstCeiling
  -- Rounding may carry into a 54th bit, which the second shift takes away.
  have hsecond := shiftToTargetExponent_within hbound hfirstExponent hrounded
  dsimp only
  generalize shiftToTargetExponent Format.binary64 first.1.roundedMantissa first.2 .exact =
    second at hsecond ⊢
  rcases hsecond with ⟨hmantissa, hleast, hgreatest, hceiling⟩
  by_cases hzero : second.1.mantissa = 0
  · rw [dif_pos hzero]
    trivial
  · rw [dif_neg hzero]
    have hle : second.1.mantissa <= ceiling second.1 := Nat.le_add_right _ _
    exact ⟨hmantissa, hleast, hgreatest, Nat.le_trans hle hceiling⟩

theorem roundWithAccuracy_cases (sign : Sign) (mantissa : Nat) (exponent : Int)
    (accuracy : Accuracy) :
    roundWithAccuracy Format.binary64 sign mantissa exponent accuracy = .zero sign
      ∨ exists rounded scale hpos,
        roundWithAccuracy Format.binary64 sign mantissa exponent accuracy =
          .finite sign rounded scale hpos := by
  unfold roundWithAccuracy
  dsimp only
  generalize shiftToTargetExponent Format.binary64 _ _ .exact = last
  by_cases hzero : last.1.mantissa = 0
  · rw [dif_pos hzero]
    exact Or.inl rfl
  · rw [dif_neg hzero]
    exact Or.inr ⟨_, _, _, rfl⟩

/-!
# Packing
-/

theorem sign_packComponents {spec : Format} (sign : Sign) (exponent : BitVec spec.exponentBits)
    (fraction : BitVec spec.mantissaBitsWithoutImplicit) :
    Sign.ofBitVec (unpackSign (packComponents spec sign exponent fraction)) = sign := by
  have hbit : unpackSign (packComponents spec sign exponent fraction) = sign.toBitVec := by
    ext index hindex
    obtain rfl : index = 0 := Nat.lt_one_iff.mp hindex
    delta unpackSign
    simp [packComponents, BitVec.getLsbD_append, BitVec.getElem_append]
  rw [hbit]
  cases sign <;> rfl

theorem unpack_packComponents (sign : Sign) (exponent : BitVec 11) (fraction : BitVec 52) :
    UnpackedFloat.unpack Format.binary64
        (packComponents Format.binary64 sign exponent fraction) =
      ofFields sign exponent fraction := by
  rw [unpack_eq_ofFields, sign_packComponents, unpackExponent_packComponents,
    unpackMantissa_packComponents]

theorem unpack_packComponents_normal {sign : Sign} {exponent : BitVec 11} {fraction : BitVec 52}
    (hones : exponent ≠ -1#11) (hzero : exponent ≠ 0#11) (hpos : 0 < (1#1 ++ fraction).toNat) :
    UnpackedFloat.unpack Format.binary64
        (packComponents Format.binary64 sign exponent fraction) =
      .finite sign (1#1 ++ fraction).toNat ((exponent.toNat : Int) - 1075) hpos := by
  rw [unpack_packComponents, ofFields, if_neg hones, if_neg hzero]

theorem unpack_packComponents_subnormal {sign : Sign} {fraction : BitVec 52}
    (hpos : 0 < fraction.toNat) :
    UnpackedFloat.unpack Format.binary64 (packComponents Format.binary64 sign 0#11 fraction) =
      .finite sign fraction.toNat (-1074) hpos := by
  have hones : (0#11 : BitVec 11) ≠ -1#11 := by decide
  have hzero : fraction ≠ 0#52 := by
    rintro rfl
    exact absurd hpos (by decide)
  rw [unpack_packComponents, ofFields, if_neg hones, if_pos rfl, dif_neg hzero]

theorem pack_finite {sign : Sign} {mantissa : Nat} {exponent : Int} (hpos : 0 < mantissa)
    (hgreatest : exponent <= 971) :
    UnpackedFloat.pack Format.binary64 (.finite sign mantissa exponent hpos) =
      if mantissa.log2 = 52 then
        packComponents Format.binary64 sign (BitVec.ofNat 11 (exponent + 1075).toNat)
          (BitVec.ofNat 52 mantissa)
      else
        packComponents Format.binary64 sign 0#11 (BitVec.ofNat 52 mantissa) := by
  have hsum : exponent + (1023 : Nat) + (52 : Nat) = exponent + 1075 := by omega
  have hfits : ¬ 2048 <= (exponent + 1075).toNat + 1 := by omega
  show (if 2048 <= (exponent + (1023 : Nat) + (52 : Nat)).toNat + 1 then _
    else if mantissa.log2 + 1 = 53 then
      packComponents Format.binary64 sign
        (BitVec.ofNat 11 (exponent + (1023 : Nat) + (52 : Nat)).toNat) (BitVec.ofNat 52 mantissa)
    else _) = _
  rw [hsum, if_neg hfits]
  simp only [Nat.reduceEqDiff]

theorem unpack_pack_normal {sign : Sign} {mantissa : Nat} {exponent : Int} (hpos : 0 < mantissa)
    (hlog : mantissa.log2 = 52) (hleast : -1074 <= exponent) (hgreatest : exponent <= 971) :
    (Float.Model.pack (.finite sign mantissa exponent hpos)).unpack =
      .finite sign mantissa exponent hpos := by
  rcases (Nat.log2_eq_iff (by omega)).mp hlog with ⟨hlow, hhigh⟩
  have hbiased : (BitVec.ofNat 11 (exponent + 1075).toNat).toNat = (exponent + 1075).toNat := by
    rw [BitVec.toNat_ofNat]
    omega
  have hones : BitVec.ofNat 11 (exponent + 1075).toNat ≠ -1#11 := by
    intro h
    have hnat : (BitVec.ofNat 11 (exponent + 1075).toNat).toNat = 2047 := congrArg BitVec.toNat h
    omega
  have hzero : BitVec.ofNat 11 (exponent + 1075).toNat ≠ 0#11 := by
    intro h
    have hnat : (BitVec.ofNat 11 (exponent + 1075).toNat).toNat = 0 := congrArg BitVec.toNat h
    omega
  have hmantissa : (1#1 ++ BitVec.ofNat 52 mantissa).toNat = mantissa := by
    rw [implicitBit_toNat, BitVec.toNat_ofNat]
    omega
  have hexponent : ((exponent + 1075).toNat : Int) - 1075 = exponent := by omega
  show UnpackedFloat.unpack Format.binary64 (UnpackedFloat.pack Format.binary64 _) = _
  rw [pack_finite hpos hgreatest, if_pos hlog,
    unpack_packComponents_normal hones hzero (by omega)]
  exact finite_congr hmantissa (by rw [hbiased, hexponent])

theorem unpack_pack_subnormal {sign : Sign} {mantissa : Nat} {exponent : Int} (hpos : 0 < mantissa)
    (hhigh : mantissa < 2 ^ 52) (hgreatest : exponent <= 0) :
    (Float.Model.pack (.finite sign mantissa exponent hpos)).unpack =
      .finite sign mantissa (-1074) hpos := by
  have hmantissa : (BitVec.ofNat 52 mantissa).toNat = mantissa := by
    rw [BitVec.toNat_ofNat]
    omega
  have hlog : mantissa.log2 ≠ 52 := Nat.ne_of_lt ((Nat.log2_lt (by omega)).mpr hhigh)
  show UnpackedFloat.unpack Format.binary64 (UnpackedFloat.pack Format.binary64 _) = _
  rw [pack_finite hpos (by omega), if_neg hlog, unpack_packComponents_subnormal (by omega)]
  exact finite_congr hmantissa rfl

theorem unpack_pack_zero (sign : Sign) : (Float.Model.pack (.zero sign)).unpack = .zero sign := by
  cases sign <;> rfl

theorem Within.unpack_pack {bound : Nat} {value : UnpackedFloat} (h : Within bound value) :
    Within bound (Float.Model.pack value).unpack := by
  match value, h with
  | .zero sign, _ =>
      rw [unpack_pack_zero]
      trivial
  | .finite .positive mantissa exponent hpos, ⟨hhigh, hleast, hgreatest, hle⟩ =>
      by_cases hnormal : mantissa < 2 ^ 52
      · have hbound : 0 < bound := by
          rcases Nat.eq_zero_or_pos bound with rfl | hbound
          · omega
          · exact hbound
        rw [unpack_pack_subnormal hpos hnormal hgreatest]
        have hlarge : 2 ^ 53 <= 2 ^ (-(-1074 : Int)).toNat :=
          Nat.pow_le_pow_right (by decide) (by decide)
        have hscaled := Nat.le_mul_of_pos_left (2 ^ (-(-1074 : Int)).toNat) hbound
        exact ⟨hhigh, by decide, by decide,
          Nat.le_trans (Nat.le_of_lt hhigh) (Nat.le_trans hlarge hscaled)⟩
      · have hlog : mantissa.log2 = 52 :=
          (Nat.log2_eq_iff (by omega)).mpr ⟨by omega, hhigh⟩
        rw [unpack_pack_normal hpos hlog hleast (by omega)]
        exact ⟨hhigh, hleast, hgreatest, hle⟩

/-!
# Products and quotients
-/

theorem Within.mul {bound : Nat} (hbound : bound < 2 ^ 53) {a b : UnpackedFloat}
    (ha : Within 1 a) (hb : Within bound b) : Within bound (mul Format.binary64 a b) := by
  match a, b, ha, hb with
  | .zero _, .zero _, _, _ => trivial
  | .zero _, .finite .positive _ _ _, _, _ => trivial
  | .finite .positive _ _ _, .zero _, _, _ => trivial
  | .finite .positive m e _, .finite .positive n f _, ⟨_, _, he, hm⟩, ⟨_, _, hf, hn⟩ =>
      show Within bound (roundWithAccuracy Format.binary64 .positive (m * n) (e + f) .exact)
      apply roundWithAccuracy_within hbound (by omega)
      have hsum : (-(e + f)).toNat = (-e).toNat + (-f).toNat := by omega
      show m * n <= bound * 2 ^ (-(e + f)).toNat
      calc m * n <= 1 * 2 ^ (-e).toNat * (bound * 2 ^ (-f).toNat) := Nat.mul_le_mul hm hn
        _ = bound * 2 ^ (-(e + f)).toNat := by
            rw [hsum, Nat.pow_add]
            ring

/-- Rounding up a quotient is the least natural number whose multiple is not below the dividend. -/
theorem ceiling_accuracyOfFraction_le {dividend divisor bound : Nat}
    (h : dividend <= bound * divisor) :
    ceiling (.ofMantissaAndAccuracy (dividend / divisor)
      (accuracyOfFraction (dividend % divisor) divisor)) <= bound := by
  unfold accuracyOfFraction
  by_cases hexact : dividend % divisor = 0
  · rw [if_pos hexact]
    exact Nat.div_le_of_le_mul (by rwa [Nat.mul_comm])
  · rw [if_neg hexact]
    have hunit : ceiling (.ofMantissaAndAccuracy (dividend / divisor)
        (.inexact (compare (2 * (dividend % divisor)) divisor))) = dividend / divisor + 1 := by
      cases compare (2 * (dividend % divisor)) divisor <;> rfl
    have hne : dividend ≠ bound * divisor := by
      rintro rfl
      exact hexact (Nat.mul_mod_left bound divisor)
    rw [hunit]
    exact Nat.div_lt_of_lt_mul (by rw [Nat.mul_comm]; omega)

theorem unpack_hundred :
    (100 : Float).toModel.unpack = .finite .positive 7036874417766400 (-46) (by decide) := by
  rfl

theorem Within.div_hundred {a : UnpackedFloat} (ha : Within 100 a) :
    Within 1 (div Format.binary64 a (.finite .positive 7036874417766400 (-46) (by decide))) := by
  match a, ha with
  | .zero _, _ => trivial
  | .finite .positive m e hpos, ⟨_, _, he, hm⟩ =>
      have hlog : m.log2 < 7 + (-e).toNat := by
        apply (Nat.log2_lt (by omega)).mpr
        rw [Nat.pow_add]
        exact Nat.lt_of_le_of_lt hm (Nat.mul_lt_mul_of_pos_right (by decide) (Nat.two_pow_pos _))
      show Within 1
        (match divCore Format.binary64 m e 7036874417766400 (-46) with
          | (quotient, exponent, accuracy) =>
              roundWithAccuracy Format.binary64 .positive quotient exponent accuracy)
      unfold divCore
      dsimp only
      have hlogHundred : Nat.log2 7036874417766400 = 52 := by decide
      have htarget : Format.binary64.targetExponent
          (totalExponent m e - totalExponent 7036874417766400 (-46)) =
            max ((m.log2 : Int) + e - 59) (-1074) := by
        unfold totalExponent
        rw [hlogHundred]
        show max ((m.log2 : Int) + 1 + e - ((52 : Nat) + 1 + -46) - 53) (-1074) = _
        omega
      rw [htarget]
      generalize hexponent : min (e - -46) (max ((m.log2 : Int) + e - 59) (-1074)) = exponent
      have hsmall : exponent <= 0 := by omega
      apply roundWithAccuracy_within (by decide) hsmall
      apply ceiling_accuracyOfFraction_le
      generalize hamount : (e - -46 - exponent).toNat = amount
      have hsplit : (-e).toNat + amount = (-exponent).toNat + 46 := by omega
      rw [Nat.shiftLeft_eq]
      calc m * 2 ^ amount <= 100 * 2 ^ (-e).toNat * 2 ^ amount := Nat.mul_le_mul_right _ hm
        _ = 100 * 2 ^ ((-exponent).toNat + 46) := by rw [Nat.mul_assoc, <- Nat.pow_add, hsplit]
        _ = 1 * 2 ^ (-exponent).toNat * 7036874417766400 := by
            rw [Nat.pow_add]
            ring

end Number
end Rollup
