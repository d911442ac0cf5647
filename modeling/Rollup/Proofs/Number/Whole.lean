import Mathlib.Data.Nat.Digits.Defs
import Rollup.Number.Reading
import Rollup.Proofs.Number.Naturals
import Rollup.Proofs.Numeral

/-!
# Whole numbers as floats

A natural number is a float if it has at most 53 bits before its trailing zeros. Such a
number is kept when its digits are read, when it is rounded, and when it becomes an
integer again.
-/

namespace Rollup
namespace Number

open Float.Model
open Float.Model.UnpackedFloat

/-- The number has at most 53 bits before its trailing zeros. -/
def IsShort (n : Nat) : Prop :=
  n < 2 ^ 53
    ∨ exists mantissa amount, mantissa.log2 = 52 ∧ 0 < amount ∧ amount <= 971
        ∧ n = mantissa * 2 ^ amount

/-!
# Rounded floats
-/

theorem dyadic?_bounds {x : Float} {d : Dyadic} (h : dyadic? x = some d) :
    d.mantissa < 2 ^ 53 ∧ d.exponent <= 971 ∧ (d.exponent = -1074 ∨ d.mantissa.log2 = 52) := by
  rw [dyadic?_eq] at h
  dsimp only at h
  have hfraction : (@unpackMantissa Format.binary64 x.toModel.toBits.toBitVec).toNat < 2 ^ 52 :=
    BitVec.isLt _
  have hexponent : (@unpackExponent Format.binary64 x.toModel.toBits.toBitVec).toNat < 2048 :=
    BitVec.isLt _
  split at h
  · cases h
  · split at h
    · cases h
      exact ⟨by dsimp only; omega, by dsimp only; omega, Or.inl rfl⟩
    · cases h
      refine ⟨by dsimp only; omega, by dsimp only; omega, Or.inr ?_⟩
      exact (Nat.log2_eq_iff (by dsimp only; omega)).mpr
        ⟨by dsimp only; omega, by dsimp only; omega⟩

theorem Dyadic.round_eq (d : Dyadic) :
    d.round = d.signed ((2 * (d.mantissa * 2 ^ d.exponent.toNat) + 2 ^ (-d.exponent).toNat)
      / (2 * 2 ^ (-d.exponent).toNat)) :=
  rfl

theorem Dyadic.round_of_nonneg {d : Dyadic} (h : 0 <= d.exponent) :
    d.round = d.signed (d.mantissa * 2 ^ d.exponent.toNat) := by
  have hscale : (-d.exponent).toNat = 0 := by omega
  rw [Dyadic.round_eq, hscale]
  congr 1
  omega

theorem Dyadic.round_of_neg {d : Dyadic} (hmantissa : d.mantissa < 2 ^ 53)
    (h : d.exponent <= 0) : exists size, d.round = d.signed size ∧ size < 2 ^ 53 := by
  have hscale : d.exponent.toNat = 0 := by omega
  refine ⟨_, Dyadic.round_eq d, ?_⟩
  rw [hscale, Nat.pow_zero, Nat.mul_one]
  have hpos := Nat.two_pow_pos (-d.exponent).toNat
  generalize 2 ^ (-d.exponent).toNat = scale at hpos ⊢
  exact Nat.div_lt_of_lt_mul (by omega)

theorem toNat_signed_le (d : Dyadic) (size : Nat) :
    (d.signed size).toNat = size ∨ (d.signed size).toNat = 0 := by
  unfold Dyadic.signed
  split <;> omega

theorem isShort_round {x : Float} {d : Dyadic} (h : dyadic? x = some d) :
    IsShort d.round.toNat := by
  rcases dyadic?_bounds h with ⟨hmantissa, hgreatest, hnormal⟩
  by_cases hexponent : d.exponent <= 0
  · rcases Dyadic.round_of_neg hmantissa hexponent with ⟨size, hround, hsize⟩
    rw [hround]
    rcases toNat_signed_le d size with hsame | hzero
    · exact Or.inl (by rw [hsame]; exact hsize)
    · exact Or.inl (by rw [hzero]; exact Nat.two_pow_pos 53)
  · rw [Dyadic.round_of_nonneg (by omega)]
    rcases toNat_signed_le d (d.mantissa * 2 ^ d.exponent.toNat) with hsame | hzero
    · rw [hsame]
      exact Or.inr ⟨d.mantissa, d.exponent.toNat, hnormal.resolve_left (by omega), by omega,
        by omega, rfl⟩
    · exact Or.inl (by rw [hzero]; exact Nat.two_pow_pos 53)

/-!
# Exact conversion
-/

theorem ofScientific_zero {n : Nat} (hn : n ≠ 0) :
    UnpackedFloat.ofScientific Format.binary64 n 0 =
      roundWithAccuracy Format.binary64 .positive (n * 2 ^ 53) (-53) .exact := by
  have hleast : ¬ (0 : Int) < -(2 ^ Format.binary64.exponentBits + (n.log2 : Int)) := by
    show ¬ (0 : Int) < -(2 ^ 11 + (n.log2 : Int))
    omega
  have hshift : n <<< Format.binary64.mantissaBits * 10 ^ (0 : Int).toNat = n * 2 ^ 53 := by
    rw [Nat.shiftLeft_eq]
    show n * 2 ^ 53 * 10 ^ 0 = _
    rw [Nat.pow_zero, Nat.mul_one]
  have hexponent : -(Format.binary64.mantissaBits : Int) + 0 = -53 := by decide
  unfold UnpackedFloat.ofScientific
  rw [dif_neg hn, if_neg (by decide), if_neg hleast, if_pos (by decide)]
  unfold UnpackedFloat.mul
  dsimp only
  rw [hshift, hexponent]
  rfl

theorem ofNat_eq_ofScientific {n : Nat} (h : ¬ n < 2 ^ 53) :
    Float.ofNat n = { toModel := Float.Model.ofScientific n 0 } := by
  show Float.ofScientific n false 0 = _
  unfold Float.ofScientific
  rw [dif_neg (fun hfast => h hfast.left)]
  rfl

theorem unpack_ofNat_scaled {mantissa amount : Nat} (hlog : mantissa.log2 = 52)
    (hpos : 0 < mantissa) (hamount : 0 < amount) (hgreatest : amount <= 971) :
    (Float.ofNat (mantissa * 2 ^ amount)).toModel.unpack =
      .finite .positive mantissa amount hpos := by
  rcases (Nat.log2_eq_iff (by omega)).mp hlog with ⟨hlow, _⟩
  have hlarge : ¬ mantissa * 2 ^ amount < 2 ^ 53 := by
    have hpower : 2 ^ 1 <= 2 ^ amount := Nat.pow_le_pow_right (by decide) hamount
    have := Nat.mul_le_mul hlow hpower
    omega
  have hshift : mantissa * 2 ^ amount * 2 ^ 53 = mantissa * 2 ^ (amount + 53) := by
    rw [Nat.mul_assoc, Nat.pow_add]
  rw [ofNat_eq_ofScientific hlarge]
  show (Float.Model.pack _).unpack = _
  rw [ofScientific_zero (by omega), hshift,
    roundWithAccuracy_exact hlog hpos (show -53 + ((amount + 53 : Nat) : Int) = amount by omega)
      (by omega)]
  exact unpack_pack_normal hpos hlog (by omega) (by omega)

theorem unpack_of_isShort {n : Nat} (hpos : 0 < n) (h : IsShort n) :
    exists mantissa exponent hmantissa,
      (Float.ofNat n).toModel.unpack = .finite .positive mantissa exponent hmantissa
        ∧ mantissa.log2 = 52
        ∧ mantissa * 2 ^ exponent.toNat = n * 2 ^ (-exponent).toNat := by
  rcases h with hsmall | ⟨mantissa, amount, hlog, hamount, hgreatest, rfl⟩
  · have hlog : n.log2 < 53 := (Nat.log2_lt (by omega)).mpr hsmall
    have hwhole : ((n.log2 : Int) - 52).toNat = 0 := by omega
    have hscale : (-((n.log2 : Int) - 52)).toNat = 52 - n.log2 := by omega
    refine ⟨_, _, _, unpack_ofNat hpos hsmall, log2_mul_shift hpos hsmall, ?_⟩
    rw [hwhole, hscale, Nat.pow_zero, Nat.mul_one]
  · have hmantissa : 0 < mantissa := by
      rcases Nat.eq_zero_or_pos mantissa with rfl | hmantissa
      · omega
      · exact hmantissa
    refine ⟨mantissa, amount, hmantissa, unpack_ofNat_scaled hlog hmantissa hamount hgreatest,
      hlog, ?_⟩
    have hscale : (-(amount : Int)).toNat = 0 := by omega
    rw [Int.toNat_natCast, hscale, Nat.pow_zero, Nat.mul_one]

theorem sub_self_finite (sign : Sign) {mantissa : Nat} (exponent : Int) (hpos : 0 < mantissa) :
    UnpackedFloat.sub Format.binary64 (.finite sign mantissa exponent hpos)
      (.finite sign mantissa exponent hpos) = .zero .positive := by
  unfold UnpackedFloat.sub
  dsimp only
  unfold UnpackedFloat.normalize
  rw [Int.sub_self]
  rfl

theorem unpack_maxInt64 :
    (Float.ofInt maxInt64).toModel.unpack = .finite .positive (2 ^ 52) 11 (Nat.two_pow_pos 52) :=
  rfl

section

variable {n : Nat} (hpos : 0 < n) (h : IsShort n)

include hpos h

theorem round_ofNat : exists d, dyadic? (Float.ofNat n) = some d ∧ d.round = n := by
  rcases unpack_of_isShort hpos h with ⟨mantissa, exponent, hmantissa, hunpack, _, hvalue⟩
  refine ⟨_, dyadic?_of_unpack hunpack, ?_⟩
  rw [Dyadic.round_eq]
  dsimp only
  rw [hvalue]
  have hscale := Nat.two_pow_pos (-exponent).toNat
  generalize 2 ^ (-exponent).toNat = scale at hscale ⊢
  have hhalf : (2 * (n * scale) + scale) / (2 * scale) = n := by
    rw [Nat.div_eq_iff (by omega)]
    constructor
    · have : n * (2 * scale) = 2 * (n * scale) := by ring
      omega
    · have : n * (2 * scale) = 2 * (n * scale) := by ring
      omega
  rw [hhalf]
  rfl

theorem roundFloat_ofNat : roundFloat (Float.ofNat n) = Float.ofNat n := by
  rcases round_ofNat hpos h with ⟨d, hd, hround⟩
  unfold roundFloat
  rw [hd]
  dsimp only
  rw [hround]
  rfl

theorem not_ofNat_le_zero : ¬ Float.ofNat n <= 0 := by
  intro hle
  have hzero : (0 : Float).toModel.unpack = .zero .positive := rfl
  have horder := unpack_le_of_le hle
  rcases unpack_of_isShort hpos h with ⟨mantissa, exponent, hmantissa, hunpack, _⟩
  rw [hunpack, hzero] at horder
  exact absurd horder Bool.false_ne_true

theorem isWhole_ofNat : ¬ (Float.ofNat n - roundFloat (Float.ofNat n)).abs > 1e-9 := by
  intro hlt
  have horder := unpack_lt_of_lt hlt
  have hbound : (1e-9 : Float).toModel.unpack
      = .finite .positive 4835703278458517 (-82) (by decide) := rfl
  rcases unpack_of_isShort hpos h with ⟨mantissa, exponent, hmantissa, hunpack, _⟩
  have hzero : (Float.ofNat n - roundFloat (Float.ofNat n)).abs.toModel.unpack
      = .zero .positive := by
    rw [roundFloat_ofNat hpos h]
    show (Float.Model.pack (Float.Model.pack (UnpackedFloat.sub Format.binary64
      (Float.ofNat n).toModel.unpack (Float.ofNat n).toModel.unpack)).unpack.abs).unpack = _
    rw [hunpack, sub_self_finite, unpack_pack_zero]
    exact unpack_pack_zero .positive
  rw [hbound, hzero] at horder
  exact absurd horder Bool.false_ne_true

theorem not_maxInt64_le_ofNat (hfits : n < 2 ^ 63) : ¬ Float.ofInt maxInt64 <= Float.ofNat n := by
  intro hle
  have horder := unpack_le_of_le hle
  rcases unpack_of_isShort hpos h with ⟨mantissa, exponent, hmantissa, hunpack, hlog, hvalue⟩
  rcases (Nat.log2_eq_iff (by omega)).mp hlog with ⟨hlow, _⟩
  have hexponent : exponent < 11 := by
    by_contra hlarge
    have hscale : (-exponent).toNat = 0 := by omega
    have hpower : 2 ^ 11 <= 2 ^ exponent.toNat := Nat.pow_le_pow_right (by decide) (by omega)
    rw [hscale, Nat.pow_zero, Nat.mul_one] at hvalue
    have := Nat.mul_le_mul hlow hpower
    omega
  rw [unpack_maxInt64, hunpack] at horder
  have hcompare : ((compare (11 : Int) exponent).then (compare (2 ^ 52) mantissa)).isLE := horder
  rw [Int.compare_eq_gt.mpr hexponent] at hcompare
  exact absurd hcompare Bool.false_ne_true

theorem toInt64By_round_ofNat (hfits : n < 2 ^ 63) :
    toInt64By Dyadic.round (Float.ofNat n) = n := by
  rcases round_ofNat hpos h with ⟨d, hd, hround⟩
  unfold toInt64By
  rw [hd]
  dsimp only
  rw [hround]
  unfold clampInt64 minInt64 maxInt64
  omega

end

/-!
# Numbers that fit 64 bits
-/

theorem signed_le (d : Dyadic) (size : Nat) : d.signed size <= size := by
  unfold Dyadic.signed
  split <;> omega

theorem maxInt64_le_of_round {x : Float} {d : Dyadic} (h : dyadic? x = some d)
    (hround : maxInt64 < d.round) : Float.ofInt maxInt64 <= x := by
  rcases dyadic?_bounds h with ⟨hmantissa, _, hnormal⟩
  have hexponent : 0 < d.exponent := by
    by_contra hsmall
    rcases Dyadic.round_of_neg hmantissa (by omega) with ⟨size, hsize, hlt⟩
    have hle := signed_le d size
    rw [hsize] at hround
    unfold maxInt64 at hround
    omega
  rw [Dyadic.round_of_nonneg (by omega)] at hround
  have hpositive : d.negative = false := by
    by_contra hnegative
    unfold Dyadic.signed maxInt64 at hround
    rw [if_pos (Bool.eq_true_of_not_eq_false hnegative)] at hround
    omega
  have hlarge : 11 <= d.exponent := by
    by_contra hsmall
    have hpower : 2 ^ d.exponent.toNat <= 2 ^ 10 := Nat.pow_le_pow_right (by decide) (by omega)
    have hproduct := Nat.mul_le_mul (Nat.le_of_lt_succ hmantissa) hpower
    have hle := signed_le d (d.mantissa * 2 ^ d.exponent.toNat)
    unfold maxInt64 at hround
    omega
  have hlog : d.mantissa.log2 = 52 := hnormal.resolve_left (by omega)
  rcases unpack_cases x with
    ⟨_, _, _, hzero⟩ | ⟨sign, mantissa, exponent, hpos, hunpack, ⟨_, hsign, hd⟩, _, _⟩ | ⟨_, hnone⟩
  · rw [h] at hzero
    cases hzero
    exact absurd (show (11 : Int) <= -1074 from hlarge) (by decide)
  · rw [h] at hd
    cases hd
    rcases (Nat.log2_eq_iff (Nat.ne_of_gt hpos)).mp hlog with ⟨hlow, _⟩
    refine decide_eq_true ?_
    show (Float.ofInt maxInt64).toModel.unpack.le x.toModel.unpack = true
    rw [unpack_maxInt64, hunpack, hsign.mpr hpositive]
    -- The nearest float of `maxInt64` is `2 ^ 63`, which has the exponent 11.
    show ((compare (11 : Int) exponent).then (compare (2 ^ 52) mantissa)).isLE = true
    rcases Int.lt_or_eq_of_le hlarge with hlt | heq
    · rw [Int.compare_eq_lt.mpr hlt]
      rfl
    · rw [Int.compare_eq_eq.mpr heq]
      exact Nat.isLE_compare.mpr hlow
  · rw [h] at hnone
    cases hnone

/-- A float that is no number of digits is past all integers, unless it is negative. -/
theorem maxInt64_le_of_none {x : Float} (h : dyadic? x = none) (hnumber : ¬ x.isNaN = true)
    (hpositive : ¬ x < 0) : Float.ofInt maxInt64 <= x := by
  refine decide_eq_true ?_
  show (Float.ofInt maxInt64).toModel.unpack.le x.toModel.unpack = true
  rcases unpack_cases x with ⟨_, _, _, hsome⟩ | ⟨_, _, _, _, _, ⟨_, _, hsome⟩, _, _⟩ | ⟨hx, _⟩
  · rw [h] at hsome
    cases hsome
  · rw [h] at hsome
    cases hsome
  · cases hunpack : x.toModel.unpack with
    | notANumber =>
        have hnan : x.isNaN = true := by
          show x.toModel.unpack.isNaN = true
          rw [hunpack]
          rfl
        exact absurd hnan hnumber
    | infinity sign =>
        cases sign with
        | positive => rfl
        | negative =>
            have hless : x < 0 := by
              refine decide_eq_true ?_
              show x.toModel.unpack.lt (0 : Float).toModel.unpack = true
              rw [hunpack]
              rfl
            exact absurd hless hpositive
    | zero sign =>
        rw [hunpack] at hx
        cases hx
    | finite sign mantissa exponent hpos =>
        rw [hunpack] at hx
        cases hx

theorem isShort_toInt64By_round {x : Float} (h : ¬ Float.ofInt maxInt64 <= x) :
    IsShort (toInt64By Dyadic.round x).toNat := by
  have hzero : IsShort 0 := Or.inl (Nat.two_pow_pos 53)
  unfold toInt64By
  cases hd : dyadic? x with
  | some d =>
      have hround : ¬ maxInt64 < d.round := fun hlt => h (maxInt64_le_of_round hd hlt)
      dsimp only
      unfold clampInt64
      split
      · exact hzero
      · exact isShort_round hd
  | none =>
      dsimp only
      split
      · exact hzero
      rename_i hnumber
      split
      · exact hzero
      rename_i hpositive
      exact absurd (maxInt64_le_of_none hd hnumber hpositive) h

/-!
# Reading digits
-/

theorem IsUnsigned.takeSign_eq {cs : List Char} (h : IsUnsigned cs) :
    takeSign cs = (false, cs) := by
  rcases h.head_isDigit with ⟨c, rest, rfl, hdigit⟩
  unfold takeSign
  split
  · rename_i heq
    cases heq
    cases hdigit
  · rename_i heq
    cases heq
    cases hdigit
  · rfl

theorem toLower_of_isDigit {c : Char} (h : c.isDigit = true) : c.toLower = c := by
  unfold Char.isDigit at h
  unfold Char.toLower
  rw [dif_neg]
  intro hupper
  simp [UInt32.le_iff_toNat_le] at h hupper
  omega

theorem IsUnsigned.lower_ne_word {cs : List Char} (h : IsUnsigned cs) {word : String}
    (hword : word.toList.head?.any Char.isDigit = false) :
    (String.ofList (cs.map Char.toLower) == word) = false := by
  rcases h.head_isDigit with ⟨c, rest, rfl, hdigit⟩
  rw [beq_eq_false_iff_ne]
  rintro rfl
  rw [String.toList_ofList, List.map_cons, toLower_of_isDigit hdigit, List.head?_cons,
    Option.any_some, hdigit] at hword
  cases hword

theorem nearestFloat_zero {n : Nat} (hpos : 0 < n) (hfits : n < 2 ^ 63) :
    nearestFloat n 0 = Float.ofNat n := by
  have hlength : (Nat.toDigits 10 n).length <= 19 :=
    Nat.toDigits_length 10 n 19 (by decide) (by omega)
  unfold nearestFloat
  dsimp only
  rw [if_neg, if_neg (by omega), if_neg (by decide)]
  · rfl
  · simp only [Bool.or_eq_true, decide_eq_true_eq]
    omega

theorem readFloat?_toDigits {n : Nat} (hpos : 0 < n) (hfits : n < 2 ^ 63) :
    readFloat? (String.ofList (Nat.toDigits 10 n)) = some (Float.ofNat n) := by
  have hdigits := isDigits_toDigits n
  have hunsigned := IsUnsigned.whole hdigits
  have hsize : readSize? (Nat.toDigits 10 n) = some (Float.ofNat n) := by
    have hspan : (Nat.toDigits 10 n).takeWhile Char.isDigit = Nat.toDigits 10 n
        ∧ (Nat.toDigits 10 n).dropWhile Char.isDigit = [] := by
      have happend := @span_append Char.isDigit _ [] hdigits.right (fun c hc => nomatch hc)
      rwa [List.append_nil] at happend
    unfold readSize?
    rw [hspan.left, hspan.right]
    dsimp only
    rw [if_neg (by simp [hdigits.left]), List.append_nil, digitsValue_toDigits]
    show some (nearestFloat n 0) = _
    rw [nearestFloat_zero hpos hfits]
  unfold readFloat?
  rw [String.toList_ofList, hunsigned.takeSign_eq]
  dsimp only
  rw [hunsigned.lower_ne_word (by decide), hunsigned.lower_ne_word (by decide),
    hunsigned.lower_ne_word (by decide), hsize]
  rfl

end Number
end Rollup
