import Rollup.Proofs.Number.Nearest

/-!
# Places beyond the last

The place of a percentile among numbers is a share of the last place. A percent that is no
more than zero has the first place. Rounding cannot hide that a percent is greater than one
hundred, and so its place is beyond the last one, if that is not the first.
-/

namespace Rollup
namespace Number

open Float.Model
open Float.Model.UnpackedFloat

/-!
# No more than zero
-/

/-- The float is not greater than zero; it may be no number. -/
inductive NotPositive : UnpackedFloat -> Prop
  | notANumber : NotPositive .notANumber
  | zero (sign : Sign) : NotPositive (.zero sign)
  | infinity : NotPositive (.infinity .negative)
  | finite (mantissa : Nat) (exponent : Int) (hpos : 0 < mantissa) :
      NotPositive (.finite .negative mantissa exponent hpos)

theorem notPositive_roundWithAccuracy (mantissa : Nat) (exponent : Int) (accuracy : Accuracy) :
    NotPositive (roundWithAccuracy Format.binary64 .negative mantissa exponent accuracy) := by
  rcases roundWithAccuracy_cases .negative mantissa exponent accuracy with
    hvalue | ⟨rounded, scale, hpos, hvalue⟩
  · rw [hvalue]
    exact .zero _
  · rw [hvalue]
    exact .finite rounded scale hpos

theorem NotPositive.div {a : UnpackedFloat} (h : NotPositive a) {mantissa : Nat} {exponent : Int}
    (hpos : 0 < mantissa) :
    NotPositive (div Format.binary64 a (.finite .positive mantissa exponent hpos)) := by
  cases h with
  | notANumber => exact .notANumber
  | zero sign => exact .zero _
  | infinity => exact .infinity
  | finite => exact notPositive_roundWithAccuracy _ _ _

theorem NotPositive.mul {a : UnpackedFloat} (h : NotPositive a) {mantissa : Nat} {exponent : Int}
    (hpos : 0 < mantissa) :
    NotPositive (mul Format.binary64 a (.finite .positive mantissa exponent hpos)) := by
  cases h with
  | notANumber => exact .notANumber
  | zero sign => exact .zero _
  | infinity => exact .infinity
  | finite => exact notPositive_roundWithAccuracy _ _ _

theorem notPositive_mul_zero (a : UnpackedFloat) (sign : Sign) :
    NotPositive (UnpackedFloat.mul Format.binary64 a (.zero sign)) := by
  cases a with
  | notANumber => exact .notANumber
  | infinity => exact .notANumber
  | zero => exact .zero _
  | finite => exact .zero _

theorem notPositive_unpack_packComponents (exponent : BitVec 11) (fraction : BitVec 52) :
    NotPositive (UnpackedFloat.unpack Format.binary64
      (packComponents Format.binary64 .negative exponent fraction)) := by
  rw [unpack_packComponents]
  rcases ofFields_cases .negative exponent fraction with
    ⟨_, hvalue | hvalue⟩ | ⟨_, hvalue | ⟨mantissa, scale, hpos, hvalue, _⟩⟩
  · rw [hvalue]
    exact .infinity
  · rw [hvalue]
    exact .notANumber
  · rw [hvalue]
    exact .zero _
  · rw [hvalue]
    exact .finite mantissa scale hpos

theorem NotPositive.unpack_pack {value : UnpackedFloat} (h : NotPositive value) :
    NotPositive (Float.Model.pack value).unpack := by
  cases h with
  | notANumber => exact .notANumber
  | zero sign =>
      rw [unpack_pack_zero]
      exact .zero sign
  | infinity => exact notPositive_unpack_packComponents _ _
  | finite mantissa exponent hpos =>
      show NotPositive (UnpackedFloat.unpack Format.binary64 (UnpackedFloat.pack Format.binary64 _))
      unfold UnpackedFloat.pack
      dsimp only
      split
      · exact notPositive_unpack_packComponents _ _
      · split
        · exact notPositive_unpack_packComponents _ _
        · exact notPositive_unpack_packComponents _ _

theorem Dyadic.toNat_floor_ceil {d : Dyadic} (h : d.negative = true ∨ d.mantissa = 0) :
    d.floor.toNat = 0 ∧ d.ceil.toNat = 0 := by
  have hsigned : forall size : Nat, d.negative = true ∨ size = 0 -> (d.signed size).toNat = 0 := by
    intro size hsize
    unfold Dyadic.signed
    split
    · omega
    · rename_i hpositive
      rw [hsize.resolve_left hpositive]
      rfl
  have hzero : d.mantissa = 0 -> d.wholePart = 0 ∧ d.hasFraction = false := by
    intro hmantissa
    rw [Dyadic.wholePart_eq, Dyadic.hasFraction_eq, hmantissa, Nat.zero_mul, Nat.zero_div,
      Nat.zero_mod]
    exact ⟨rfl, rfl⟩
  unfold Dyadic.floor Dyadic.ceil
  rcases h with hnegative | hmantissa
  · exact ⟨hsigned _ (Or.inl hnegative), hsigned _ (Or.inl hnegative)⟩
  · rcases hzero hmantissa with ⟨hwhole, hfraction⟩
    rw [hwhole, hfraction, Bool.and_false, Bool.and_false]
    exact ⟨hsigned 0 (Or.inr rfl), hsigned 0 (Or.inr rfl)⟩

theorem toIndex_of_notPositive {x : Float} (h : NotPositive x.toModel.unpack) :
    toIndex Dyadic.floor x = 0 ∧ toIndex Dyadic.ceil x = 0 := by
  unfold toIndex
  rcases unpack_cases x with
    ⟨_, negative, _, hdyadic⟩ | ⟨sign, _, _, _, hfinite, ⟨negative, hsign, hdyadic⟩, _⟩
      | ⟨hinfinite, hdyadic⟩
  · rw [hdyadic]
    exact Dyadic.toNat_floor_ceil (Or.inr rfl)
  · rw [hdyadic]
    rw [hfinite] at h
    cases h
    have hnegative : negative = true := by
      cases negative with
      | true => rfl
      | false => cases hsign.mpr rfl
    exact Dyadic.toNat_floor_ceil (Or.inl hnegative)
  · rw [hdyadic]
    dsimp only
    by_cases hnan : x.isNaN = true
    · rw [if_pos hnan]
      exact ⟨rfl, rfl⟩
    · have hlt : x < 0 := by
        apply lt_iff_floatOrder.mpr
        refine ⟨Bool.eq_false_of_not_eq_true hnan, rfl, ?_⟩
        unfold floatOrder
        generalize hunpack : x.toModel.unpack = value at h hinfinite
        cases h with
        | notANumber => exact absurd (congrArg UnpackedFloat.isNaN hunpack) hnan
        | zero sign => cases hinfinite
        | infinity => rfl
        | finite => cases hinfinite
      rw [if_neg hnan, if_pos hlt]
      exact ⟨rfl, rfl⟩

/-!
# More than a bound
-/

def Exceeds (bound : Nat) (value : UnpackedFloat) : Prop :=
  value = .infinity .positive
    ∨ exists size, HasSize .positive value size ∧ bound * 2 ^ 52 < size

theorem Exceeds.unpack_pack {bound : Nat} {value : UnpackedFloat} (h : Exceeds bound value) :
    Exceeds bound (Float.Model.pack value).unpack := by
  rcases h with rfl | ⟨size, hsize, hlt⟩
  · exact Or.inl rfl
  · rcases hsize.unpack_pack with hkept | ⟨hlarge, _⟩
    · exact Or.inr ⟨size, hkept, hlt⟩
    · exact Or.inl hlarge

theorem log2_hundred : Nat.log2 7036874417766400 = 52 := by decide

theorem exceeds_hundred {x : Float} (h : 100 < x) : Exceeds 100 x.toModel.unpack := by
  rcases lt_iff_floatOrder.mp h with ⟨_, hnan, horder⟩
  rw [floatOrder, unpack_hundred] at horder
  rcases unpack_cases x with
    ⟨_, _, hzero, _⟩ | ⟨sign, mantissa, exponent, hpos, hfinite, ⟨_, _, hdyadic⟩, _⟩
      | ⟨hinfinite, _⟩
  · rw [hzero] at horder
    cases horder
  · rw [hfinite] at horder ⊢
    cases sign with
    | negative => cases horder
    | positive =>
        change (compare (-46) exponent).then (compare (7036874417766400 : Int) mantissa) = .lt
          at horder
        have hcases : -46 < exponent ∨ exponent = -46 ∧ 7036874417766400 < mantissa := by
          rcases Int.lt_trichotomy (-46) exponent with hlt | heq | hgt
          · exact Or.inl hlt
          · rw [Int.compare_eq_eq.mpr heq] at horder
            exact Or.inr ⟨heq.symm, Int.ofNat_lt.mp (Int.compare_eq_lt.mp horder)⟩
          · rw [Int.compare_eq_gt.mpr hgt] at horder
            cases horder
        have hlog : mantissa.log2 = 52 := by
          rcases (dyadic?_bounds hdyadic).right.right with hleast | hlog
          · change exponent = -1074 at hleast
            omega
          · exact hlog
        refine Or.inr ⟨_, ⟨mantissa, exponent, hpos, rfl, hlog, by omega, rfl⟩, ?_⟩
        rw [show 100 * 2 ^ 52 = 7036874417766400 * 2 ^ 6 by decide]
        rcases hcases with hlarge | ⟨rfl, hlarge⟩
        · exact mul_two_pow_lt log2_hundred hlog (by decide) hpos (by omega)
        · exact Nat.mul_lt_mul_of_pos_right hlarge (by decide)
  · change x.toModel.unpack.isNaN = false at hnan
    generalize x.toModel.unpack = value at hnan horder hinfinite ⊢
    cases value with
    | notANumber => cases hnan
    | zero sign => cases hinfinite
    | finite => cases hinfinite
    | infinity sign =>
        cases sign with
        | negative => cases horder
        | positive => exact Or.inl rfl

theorem divCore_hundred {mantissa : Nat} {exponent : Int} (hlog : mantissa.log2 = 52)
    (hleast : -46 <= exponent) :
    divCore Format.binary64 mantissa exponent 7036874417766400 (-46) =
      (mantissa * 2 ^ 53 / 7036874417766400, exponent - 7,
        accuracyOfFraction (mantissa * 2 ^ 53 % 7036874417766400) 7036874417766400) := by
  have htarget : Format.binary64.targetExponent
      (totalExponent mantissa exponent - totalExponent 7036874417766400 (-46)) = exponent - 7 := by
    unfold totalExponent
    rw [log2_hundred, hlog]
    show max (((52 : Nat) : Int) + 1 + exponent - ((52 : Nat) + 1 + -46) - 53) (-1074) = _
    omega
  have hexponent : min (exponent - -46) (exponent - 7) = exponent - 7 := by omega
  have hamount : (exponent - -46 - (exponent - 7)).toNat = 53 := by omega
  unfold divCore
  dsimp only
  rw [htarget, hexponent, hamount, Nat.shiftLeft_eq]

theorem log2_div_hundred {mantissa : Nat} (hpos : 0 < mantissa) (hlog : mantissa.log2 = 52) :
    exists amount, (mantissa * 2 ^ 53 / 7036874417766400).log2 = 52 + amount
      ∧ (amount = 0 ∧ mantissa <= 7036874417766400
          ∧ 2 ^ 52 < mantissa * 2 ^ 53 / 7036874417766400 ∨ amount = 1) := by
  rcases (Nat.log2_eq_iff (Nat.ne_of_gt hpos)).mp hlog with ⟨hlow, hhigh⟩
  rcases Nat.lt_or_ge (mantissa * 2 ^ 53 / 7036874417766400) (2 ^ 53) with hshort | hlong
  · refine ⟨0, (Nat.log2_eq_iff ?_).mpr ⟨?_, hshort⟩, Or.inl ⟨rfl, ?_, ?_⟩⟩ <;> omega
  · refine ⟨1, (Nat.log2_eq_iff ?_).mpr ⟨hlong, ?_⟩, Or.inr rfl⟩ <;> omega

theorem lt_mul_two_pow {n amount : Nat} (hle : 2 ^ 52 <= n) (h : 2 ^ 52 < n ∨ 1 <= amount) :
    2 ^ 52 < n * 2 ^ amount := by
  rcases h with hlt | hamount
  · exact Nat.lt_of_lt_of_le hlt (Nat.le_mul_of_pos_right n (Nat.two_pow_pos amount))
  · calc
      2 ^ 52 < 2 ^ 52 * 2 ^ 1 := by decide
      _ <= n * 2 ^ amount := Nat.mul_le_mul hle (Nat.pow_le_pow_right Nat.two_pos hamount)

theorem Exceeds.div_hundred {a : UnpackedFloat} (ha : Exceeds 100 a) :
    Exceeds 1 (div Format.binary64 a (.finite .positive 7036874417766400 (-46) (by decide))) := by
  rcases ha with rfl | ⟨_, ⟨mantissa, exponent, hpos, rfl, hlog, _, rfl⟩, hlt⟩
  · exact Or.inl rfl
  rw [show 100 * 2 ^ 52 = 7036874417766400 * 2 ^ 6 by decide] at hlt
  have hleast : -46 <= exponent := by
    by_contra hsmall
    have := mul_two_pow_lt hlog log2_hundred hpos (by decide)
      (show (exponent + 52).toNat < 6 by omega)
    omega
  have hgreater : exponent = -46 -> 7036874417766400 < mantissa := by
    rintro rfl
    exact Nat.lt_of_mul_lt_mul_right hlt
  rcases log2_div_hundred hpos hlog with ⟨amount, hquotient, hamount⟩
  rcases nearestDiv_bounds rfl hquotient with ⟨hrounded, _⟩
  -- Only next to one hundred does it matter which way the quotient is rounded.
  have hlarge : -52 <= exponent - 7 + amount
      ∧ (2 ^ 52 < nearestDiv (mantissa * 2 ^ 53) (7036874417766400 * 2 ^ amount)
        ∨ 1 <= (exponent - 7 + amount + 52).toNat) := by
    rcases hamount with ⟨rfl, hle, hwhole⟩ | rfl
    · refine ⟨by omega, Or.inl ?_⟩
      rw [Nat.pow_zero, Nat.mul_one]
      exact Nat.lt_of_lt_of_le hwhole (div_le_nearestDiv _ _)
    · refine ⟨by omega, ?_⟩
      rcases Int.lt_or_eq_of_le hleast with hfar | hnext
      · exact Or.inr (by omega)
      · have := hgreater hnext.symm
        exact Or.inl (lt_nearestDiv (by decide) (by omega))
  unfold UnpackedFloat.div
  dsimp only
  rw [divCore_hundred hlog hleast]
  refine Or.inr ⟨_, hasSize_roundWithAccuracy (by decide)
    (standsFor_accuracyOfFraction (by decide)) hquotient hlarge.left, ?_⟩
  rw [Nat.one_mul]
  exact lt_mul_two_pow hrounded hlarge.right

theorem Exceeds.mul {a b : UnpackedFloat} {n : Nat} (ha : Exceeds 1 a)
    (hb : HasSize .positive b (n * 2 ^ 52)) :
    Exceeds n (UnpackedFloat.mul Format.binary64 a b) := by
  rcases hb with ⟨factor, shift, hfactor, rfl, hfactorLog, hshift, hsize⟩
  rcases ha with rfl | ⟨_, ⟨mantissa, exponent, hpos, rfl, hlog, hleast, rfl⟩, hlt⟩
  · exact Or.inl rfl
  rcases (Nat.log2_eq_iff (Nat.ne_of_gt hpos)).mp hlog with ⟨hlow, _⟩
  rcases (Nat.log2_eq_iff (Nat.ne_of_gt hfactor)).mp hfactorLog with ⟨hfactorLow, hfactorHigh⟩
  have hproduct : 52 + 52 <= (mantissa * factor).log2 := by
    apply (Nat.le_log2 (Nat.ne_of_gt (Nat.mul_pos hpos hfactor))).mpr
    rw [Nat.pow_add]
    exact Nat.mul_le_mul hlow hfactorLow
  obtain ⟨amount, hamount⟩ :=
    Nat.exists_eq_add_of_le (Nat.le_trans (Nat.le_add_left 52 52) hproduct)
  rcases nearestDiv_bounds (Nat.div_one _).symm hamount with ⟨hrounded, _⟩
  have hscale : (exponent + shift + amount + 52).toNat =
      (exponent + amount).toNat + (shift + 52).toNat := by
    omega
  show Exceeds n (roundWithAccuracy Format.binary64 .positive (mantissa * factor)
    (exponent + shift) .exact)
  refine Or.inr
    ⟨_, hasSize_roundWithAccuracy Nat.one_pos (standsFor_exact _) hamount (by omega), ?_⟩
  rw [<- hsize, hscale, Nat.pow_add 2 (exponent + amount).toNat, <- Nat.mul_assoc]
  apply Nat.mul_lt_mul_of_pos_right _ (Nat.two_pow_pos _)
  rcases Nat.eq_zero_or_pos (exponent + amount).toNat with hnone | hsome
  · obtain rfl : exponent = -52 := by omega
    obtain rfl : amount = 52 := by omega
    have hmantissa : 2 ^ 52 < mantissa := by
      rwa [show ((-52 : Int) + 52).toNat = 0 by decide, Nat.pow_zero, Nat.mul_one, Nat.one_mul]
        at hlt
    rw [hnone, Nat.pow_zero, Nat.mul_one]
    apply Nat.lt_of_lt_of_le _ (div_le_nearestDiv _ _)
    rw [Nat.lt_iff_add_one_le, Nat.le_div_iff_mul_le (by decide)]
    calc
      (factor + 1) * (1 * 2 ^ 52) <= (2 ^ 52 + 1) * factor := by omega
      _ <= mantissa * factor := Nat.mul_le_mul_right _ hmantissa
  · calc
      factor < 2 ^ 52 * 2 ^ 1 := hfactorHigh
      _ <= _ := Nat.mul_le_mul hrounded (Nat.pow_le_pow_right Nat.two_pos hsome)

/-!
# Places
-/

theorem Dyadic.lt_ceil {bound : Nat} {d : Dyadic} (hnegative : d.negative = false)
    (h : bound * 2 ^ (-d.exponent).toNat < d.mantissa * 2 ^ d.exponent.toNat) :
    bound < d.ceil.toNat := by
  have hscale : 0 < 2 ^ (-d.exponent).toNat := Nat.two_pow_pos _
  unfold Dyadic.ceil Dyadic.signed
  rw [hnegative, if_neg Bool.false_ne_true, Bool.not_false, Bool.true_and, Int.toNat_natCast,
    Dyadic.wholePart_eq, Dyadic.hasFraction_eq]
  generalize d.mantissa * 2 ^ d.exponent.toNat = size at h ⊢
  generalize 2 ^ (-d.exponent).toNat = scale at h hscale ⊢
  by_cases hexact : size % scale = 0
  · rw [hexact, bne_self_eq_false, if_neg Bool.false_ne_true]
    apply Nat.lt_of_mul_lt_mul_right
    rwa [Nat.div_mul_cancel (Nat.dvd_of_mod_eq_zero hexact)]
  · rw [if_pos (bne_iff_ne.mpr hexact)]
    exact Nat.lt_succ_of_le ((Nat.le_div_iff_mul_le hscale).mpr (Nat.le_of_lt h))

theorem lt_toIndex_ceil {bound : Nat} {x : Float} (hbound : bound < 2 ^ 53)
    (h : Exceeds bound x.toModel.unpack) : bound < toIndex Dyadic.ceil x := by
  unfold toIndex
  rcases h with hinfinity | ⟨_, ⟨mantissa, exponent, _, hunpack, _, hleast, rfl⟩, hlt⟩
  · have hdyadic : dyadic? x = none := by
      rcases unpack_cases x with ⟨_, _, hzero, _⟩ | ⟨_, _, _, _, hfinite, _⟩ | ⟨_, hnone⟩
      · cases hinfinity.symm.trans hzero
      · cases hinfinity.symm.trans hfinite
      · exact hnone
    have hnan : x.isNaN = false := congrArg UnpackedFloat.isNaN hinfinity
    have hlt : ¬ x < 0 := by
      rw [lt_iff_floatOrder, floatOrder, hinfinity]
      intro h
      rcases h with ⟨_, _, horder⟩
      cases horder
    rw [hdyadic]
    dsimp only
    rw [hnan, if_neg Bool.false_ne_true, if_neg hlt]
    omega
  · rw [dyadic?_of_unpack hunpack]
    apply Dyadic.lt_ceil rfl
    show bound * 2 ^ (-exponent).toNat < mantissa * 2 ^ exponent.toNat
    rcases Int.le_total 0 exponent with hwhole | hpart
    · have hamount : (exponent + 52).toNat = exponent.toNat + 52 := by omega
      have hnone : (-exponent).toNat = 0 := by omega
      rw [hamount, Nat.pow_add, <- Nat.mul_assoc] at hlt
      rw [hnone, Nat.pow_zero, Nat.mul_one]
      exact Nat.lt_of_mul_lt_mul_right hlt
    · have hamount : 52 = (-exponent).toNat + (exponent + 52).toNat := by omega
      have hnone : exponent.toNat = 0 := by omega
      rw [hnone, Nat.pow_zero, Nat.mul_one]
      apply Nat.lt_of_mul_lt_mul_right
      rwa [Nat.mul_assoc, <- Nat.pow_add, <- hamount]

theorem percent_cases (percent : Float) :
    100 < percent ∨ 0 <= percent ∧ percent <= 100 ∨ NotPositive percent.toModel.unpack := by
  cases hunpack : percent.toModel.unpack with
  | notANumber => exact Or.inr (Or.inr .notANumber)
  | zero sign => exact Or.inr (Or.inr (.zero sign))
  | infinity sign =>
      cases sign with
      | negative => exact Or.inr (Or.inr .infinity)
      | positive =>
          apply Or.inl
          rw [lt_iff_floatOrder, floatOrder, hunpack]
          exact ⟨rfl, congrArg UnpackedFloat.isNaN hunpack, rfl⟩
  | finite sign mantissa exponent hpos =>
      cases sign with
      | negative => exact Or.inr (Or.inr (.finite mantissa exponent hpos))
      | positive =>
          have hnan : percent.isNaN = false := congrArg UnpackedFloat.isNaN hunpack
          have hnonnegative : 0 <= percent := by
            rw [le_iff_floatOrder, floatOrder, hunpack]
            exact ⟨rfl, hnan, rfl⟩
          rcases @Number.lt_or_le 100 percent rfl hnan with hlt | hle
          · exact Or.inl hlt
          · exact Or.inr (Or.inl ⟨hnonnegative, hle⟩)

section Place

variable {percent : Float} {last : Nat}

theorem place_exceeds (h : 100 < percent) (hpos : 0 < last) (hlast : last < 2 ^ 53) :
    Exceeds last (percent / 100 * Float.ofNat last).toModel.unpack := by
  have hshare : Exceeds 1 (percent / 100).toModel.unpack := by
    show Exceeds 1 (Float.Model.pack
      (div Format.binary64 percent.toModel.unpack (100 : Float).toModel.unpack)).unpack
    rw [unpack_hundred]
    exact (exceeds_hundred h).div_hundred.unpack_pack
  have hsize := hasSize_ofNat hpos (Nat.lt_trans hlast (by decide))
  rw [nearestNat_of_lt hlast] at hsize
  exact (hshare.mul hsize).unpack_pack

theorem place_notPositive (h : NotPositive percent.toModel.unpack ∨ last = 0)
    (hlast : last < 2 ^ 53) :
    NotPositive (percent / 100 * Float.ofNat last).toModel.unpack := by
  show NotPositive (Float.Model.pack (UnpackedFloat.mul Format.binary64
    (percent / 100).toModel.unpack (Float.ofNat last).toModel.unpack)).unpack
  apply NotPositive.unpack_pack
  rcases Nat.eq_zero_or_pos last with rfl | hpos
  · exact notPositive_mul_zero _ .positive
  · have hshare : NotPositive (percent / 100).toModel.unpack := by
      show NotPositive (Float.Model.pack
        (div Format.binary64 percent.toModel.unpack (100 : Float).toModel.unpack)).unpack
      rw [unpack_hundred]
      exact ((h.resolve_right (Nat.ne_of_gt hpos)).div (by decide)).unpack_pack
    rw [unpack_ofNat hpos hlast]
    exact hshare.mul _

/-- The place is beyond the last one just for percents over one hundred, and never where the
last is the first. -/
theorem place_cases (hlast : last < 2 ^ 53) :
    0 < last ∧ 100 < percent
        ∧ last < toIndex Dyadic.ceil (percent / 100 * Float.ofNat last)
      ∨ ¬ (0 < last ∧ 100 < percent)
        ∧ toIndex Dyadic.floor (percent / 100 * Float.ofNat last) <= last
        ∧ toIndex Dyadic.ceil (percent / 100 * Float.ofNat last) <= last := by
  by_cases h : 0 < last ∧ 100 < percent
  · exact Or.inl ⟨h.left, h.right, lt_toIndex_ceil hlast (place_exceeds h.right h.left hlast)⟩
  · have hfirst : NotPositive percent.toModel.unpack ∨ last = 0 ->
        toIndex Dyadic.floor (percent / 100 * Float.ofNat last) <= last
          ∧ toIndex Dyadic.ceil (percent / 100 * Float.ofNat last) <= last := by
      intro hnone
      rcases toIndex_of_notPositive (place_notPositive hnone hlast) with ⟨hfloor, hceil⟩
      rw [hfloor, hceil]
      exact ⟨Nat.zero_le last, Nat.zero_le last⟩
    refine Or.inr ⟨h, ?_⟩
    rcases Nat.eq_zero_or_pos last with hzero | hpos
    · exact hfirst (Or.inr hzero)
    · rcases percent_cases percent with hlarge | ⟨hlow, hhigh⟩ | hnone
      · exact absurd ⟨hpos, hlarge⟩ h
      · exact toIndex_le (place_within hlow hhigh hlast)
      · exact hfirst (Or.inl hnone)

end Place

end Number
end Rollup
