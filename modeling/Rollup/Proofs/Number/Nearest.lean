import Rollup.Proofs.Number.Comparison

/-!
# Rounding to the nearest

A float is the nearest one to an exact result, and of two that are as near the one with the
even mantissa. The mantissa that is rounded carries two bits of what was cut off, which is
just what the nearest natural number of a fraction depends on.
-/

namespace Rollup
namespace Number

open Float.Model
open Float.Model.UnpackedFloat

/-!
# Fractions
-/

/-- The nearest natural number of a fraction; a half goes to the even one. -/
def nearestDiv (dividend divisor : Nat) : Nat :=
  let whole := dividend / divisor
  let rest := dividend % divisor
  if 2 * rest < divisor then whole
  else if 2 * rest = divisor then whole + whole % 2
  else whole + 1

theorem nearestDiv_le (dividend divisor : Nat) :
    nearestDiv dividend divisor <= dividend / divisor + 1 := by
  unfold nearestDiv
  dsimp only
  split
  · omega
  · split <;> omega

theorem div_le_nearestDiv (dividend divisor : Nat) :
    dividend / divisor <= nearestDiv dividend divisor := by
  unfold nearestDiv
  dsimp only
  split
  · omega
  · split <;> omega

theorem nearestDiv_one (n : Nat) : nearestDiv n 1 = n := by
  unfold nearestDiv
  rw [Nat.mod_one, Nat.div_one]
  rfl

theorem nearestDiv_mono {divisor a b : Nat} (h : a <= b) :
    nearestDiv a divisor <= nearestDiv b divisor := by
  rcases Nat.lt_or_eq_of_le (@Nat.div_le_div_right a b divisor h) with hlt | heq
  · exact Nat.le_trans (nearestDiv_le a divisor) (Nat.le_trans hlt (div_le_nearestDiv b divisor))
  · have hrest : a % divisor <= b % divisor := by
      have ha := Nat.div_add_mod a divisor
      have hb := Nat.div_add_mod b divisor
      rw [heq] at ha
      omega
    unfold nearestDiv
    dsimp only
    rw [heq]
    split_ifs <;> omega

theorem nearestDiv_mul_right (dividend divisor : Nat) {factor : Nat} (hpos : 0 < factor) :
    nearestDiv (dividend * factor) (divisor * factor) = nearestDiv dividend divisor := by
  unfold nearestDiv
  dsimp only
  rw [Nat.mul_div_mul_right _ _ hpos, Nat.mul_mod_mul_right, <- Nat.mul_assoc]
  simp only [Nat.mul_lt_mul_right hpos, Nat.mul_left_inj (Nat.ne_of_gt hpos)]

theorem lt_nearestDiv {dividend divisor bound : Nat} (hpos : 0 < divisor)
    (h : (2 * bound + 1) * divisor < 2 * dividend) : bound < nearestDiv dividend divisor := by
  have hsplit := Nat.div_add_mod dividend divisor
  have hrest := Nat.mod_lt dividend hpos
  rcases Nat.lt_trichotomy (dividend / divisor) bound with hbelow | heq | habove
  · have hnext := Nat.mul_le_mul_left divisor (Nat.succ_le_of_lt hbelow)
    rw [Nat.succ_eq_add_one, Nat.mul_add, Nat.mul_one] at hnext
    rw [Nat.add_mul, Nat.mul_assoc, Nat.one_mul, Nat.mul_comm bound] at h
    omega
  · unfold nearestDiv
    dsimp only
    rw [heq] at hsplit ⊢
    rw [Nat.add_mul, Nat.mul_assoc, Nat.one_mul, Nat.mul_comm bound] at h
    rw [if_neg (by omega), if_neg (by omega)]
    exact Nat.lt_succ_self bound
  · exact Nat.lt_of_lt_of_le habove (div_le_nearestDiv dividend divisor)

/-!
# Shifting

An extended mantissa stands for a fraction: the whole part of it, whether the rest is a half
or more, and whether it is neither nothing nor a half.
-/

/-- The mantissa and its two bits are those of the fraction. -/
structure StandsFor (em : ExtendedMantissa) (dividend divisor : Nat) : Prop where
  mantissa : em.mantissa = dividend / divisor
  roundBit : em.roundBit = decide (divisor <= 2 * (dividend % divisor))
  stickyBit : em.stickyBit =
    decide (dividend % divisor ≠ 0 ∧ 2 * (dividend % divisor) ≠ divisor)

theorem StandsFor.roundedMantissa_eq {em : ExtendedMantissa} {dividend divisor : Nat}
    (hpos : 0 < divisor) (h : StandsFor em dividend divisor) :
    em.roundedMantissa = nearestDiv dividend divisor := by
  rcases em with ⟨mantissa, roundBit, stickyBit⟩
  rcases h with ⟨hmantissa, hround, hsticky⟩
  dsimp only at hmantissa hround hsticky
  subst hmantissa
  unfold nearestDiv
  dsimp only
  cases roundBit with
  | false =>
      have hbelow := of_decide_eq_false hround.symm
      rw [if_pos (Nat.lt_of_not_le hbelow)]
      cases stickyBit <;> rfl
  | true =>
      have habove := of_decide_eq_true hround.symm
      rw [if_neg (Nat.not_lt_of_le habove)]
      cases stickyBit with
      | false =>
          have hhalf := of_decide_eq_false hsticky.symm
          rw [if_pos (by omega)]
          rfl
      | true =>
          have hrest := of_decide_eq_true hsticky.symm
          rw [if_neg hrest.right]
          rfl

theorem standsFor_exact (n : Nat) :
    StandsFor (ExtendedMantissa.ofMantissaAndAccuracy n .exact) n 1 where
  mantissa := (Nat.div_one n).symm
  roundBit := by
    rw [Nat.mod_one]
    rfl
  stickyBit := by
    rw [Nat.mod_one]
    rfl

theorem standsFor_accuracyOfFraction {dividend divisor : Nat} (hpos : 0 < divisor) :
    StandsFor (ExtendedMantissa.ofMantissaAndAccuracy (dividend / divisor)
      (accuracyOfFraction (dividend % divisor) divisor)) dividend divisor := by
  unfold accuracyOfFraction
  by_cases hexact : dividend % divisor = 0
  · rw [if_pos hexact]
    refine ⟨rfl, ?_, ?_⟩
    · rw [hexact]
      exact (decide_eq_false (by omega)).symm
    · rw [hexact]
      exact (decide_eq_false (fun h => h.left rfl)).symm
  · rw [if_neg hexact]
    rcases Nat.lt_trichotomy (2 * (dividend % divisor)) divisor with hlt | heq | hgt
    · rw [Nat.compare_eq_lt.mpr hlt]
      exact ⟨rfl, (decide_eq_false (by omega)).symm, (decide_eq_true (by omega)).symm⟩
    · rw [Nat.compare_eq_eq.mpr heq]
      exact ⟨rfl, (decide_eq_true (by omega)).symm, (decide_eq_false (by omega)).symm⟩
    · rw [Nat.compare_eq_gt.mpr hgt]
      exact ⟨rfl, (decide_eq_true (by omega)).symm, (decide_eq_true (by omega)).symm⟩

theorem StandsFor.shiftRightOne {em : ExtendedMantissa} {dividend divisor : Nat}
    (hpos : 0 < divisor) (h : StandsFor em dividend divisor) :
    StandsFor em.shiftRightOne dividend (divisor * 2) := by
  have hrest := Nat.mod_lt dividend hpos
  have hmod : dividend % (divisor * 2) = dividend % divisor + divisor * (dividend / divisor % 2) :=
    Nat.mod_mul
  have hparity := Nat.mod_two_eq_zero_or_one (dividend / divisor)
  refine ⟨?_, ?_, ?_⟩
  · show em.mantissa / 2 = _
    rw [h.mantissa, Nat.div_div_eq_div_mul]
  · show (em.mantissa % 2 != 0) = _
    rw [h.mantissa, hmod]
    rcases hparity with heven | hodd
    · rw [heven]
      exact (decide_eq_false (by omega)).symm
    · rw [hodd]
      exact (decide_eq_true (by omega)).symm
  · show (em.roundBit || em.stickyBit) = _
    rw [h.roundBit, h.stickyBit, hmod, <- Bool.decide_or]
    apply decide_eq_decide.mpr
    rcases hparity with heven | hodd
    · rw [heven]
      omega
    · rw [hodd]
      omega

theorem StandsFor.shiftRight {em : ExtendedMantissa} {dividend divisor : Nat}
    (hpos : 0 < divisor) (h : StandsFor em dividend divisor) (amount : Nat) :
    StandsFor (em >>> amount) dividend (divisor * 2 ^ amount) := by
  induction amount with
  | zero =>
      rw [Nat.pow_zero, Nat.mul_one]
      exact h
  | succ amount ih =>
      rw [Nat.pow_succ, <- Nat.mul_assoc]
      exact ih.shiftRightOne (Nat.mul_pos hpos (Nat.two_pow_pos amount))

/-!
# Size

A float from one on is a whole number of units of `2 ^ -52`, and floats compare as the
numbers of these units do.
-/

/-- The float has its full 53 bits and is that many times `2 ^ -52`. -/
def HasSize (sign : Sign) (value : UnpackedFloat) (size : Nat) : Prop :=
  exists mantissa exponent hpos,
    value = .finite sign mantissa exponent hpos ∧ mantissa.log2 = 52 ∧ -52 <= exponent
      ∧ mantissa * 2 ^ (exponent + 52).toNat = size

theorem HasSize.pos {sign : Sign} {value : UnpackedFloat} {size : Nat}
    (h : HasSize sign value size) : 0 < size := by
  rcases h with ⟨mantissa, exponent, hpos, _, _, _, rfl⟩
  exact Nat.mul_pos hpos (Nat.two_pow_pos _)

/-- Rounding may carry into a 54th bit, which then goes to the exponent. -/
theorem exists_carry {n : Nat} (hlow : 2 ^ 52 <= n) (hhigh : n <= 2 ^ 53) :
    exists mantissa carry : Nat, mantissa.log2 = 52 ∧ 0 < mantissa ∧ n = mantissa * 2 ^ carry := by
  rcases Nat.lt_or_eq_of_le hhigh with hlt | rfl
  · have hlog : n.log2 = 52 := (Nat.log2_eq_iff (by omega)).mpr ⟨hlow, hlt⟩
    exact ⟨n, 0, hlog, by omega, (Nat.mul_one n).symm⟩
  · exact ⟨2 ^ 52, 1, Nat.log2_two_pow, Nat.two_pow_pos 52, rfl⟩

theorem nearestDiv_bounds {mantissa dividend divisor amount : Nat}
    (hmantissa : mantissa = dividend / divisor) (hlog : mantissa.log2 = 52 + amount) :
    2 ^ 52 <= nearestDiv dividend (divisor * 2 ^ amount)
      ∧ nearestDiv dividend (divisor * 2 ^ amount) <= 2 ^ 53 := by
  have hne : mantissa ≠ 0 := by
    rintro rfl
    rw [Nat.log2_zero] at hlog
    omega
  rcases (Nat.log2_eq_iff hne).mp hlog with ⟨hlow, hhigh⟩
  have hwhole : dividend / (divisor * 2 ^ amount) = mantissa / 2 ^ amount := by
    rw [hmantissa, Nat.div_div_eq_div_mul]
  have hleast := div_le_nearestDiv dividend (divisor * 2 ^ amount)
  have hmost := nearestDiv_le dividend (divisor * 2 ^ amount)
  rw [hwhole] at hleast hmost
  constructor
  · apply Nat.le_trans _ hleast
    rwa [Nat.le_div_iff_mul_le (Nat.two_pow_pos amount), <- Nat.pow_add]
  · apply Nat.le_trans hmost
    apply Nat.div_lt_of_lt_mul
    rwa [<- Nat.pow_add, show amount + 53 = 52 + amount + 1 by omega]

theorem hasSize_roundWithAccuracy {sign : Sign} {mantissa dividend divisor amount : Nat}
    {exponent : Int} {accuracy : Accuracy} (hpos : 0 < divisor)
    (hfraction : StandsFor (.ofMantissaAndAccuracy mantissa accuracy) dividend divisor)
    (hlog : mantissa.log2 = 52 + amount) (hleast : -52 <= exponent + amount) :
    HasSize sign (roundWithAccuracy Format.binary64 sign mantissa exponent accuracy)
      (nearestDiv dividend (divisor * 2 ^ amount) * 2 ^ (exponent + amount + 52).toNat) := by
  have hamount :
      (max ((mantissa.log2 : Int) + exponent - 52) (-1074) - exponent).toNat = amount := by
    omega
  have hmantissa : mantissa = dividend / divisor := by
    rw [<- hfraction.mantissa, mantissa_ofMantissaAndAccuracy]
  have hrounded := (hfraction.shiftRight hpos amount).roundedMantissa_eq
    (Nat.mul_pos hpos (Nat.two_pow_pos amount))
  rcases nearestDiv_bounds hmantissa hlog with ⟨hlow, hhigh⟩
  rcases exists_carry hlow hhigh with ⟨rounded, carry, hroundedLog, hroundedPos, hcarry⟩
  have hexponent : (exponent + amount + carry + 52).toNat =
      carry + (exponent + amount + 52).toNat := by
    omega
  refine ⟨rounded, exponent + amount + carry, hroundedPos, ?_, hroundedLog, by omega, ?_⟩
  · unfold roundWithAccuracy
    rw [shiftToTargetExponent_eq]
    dsimp only
    rw [hamount, hrounded, hcarry,
      shiftToTargetExponent_exact hroundedLog hroundedPos carry (by omega)]
    exact dif_neg (Nat.ne_of_gt hroundedPos)
  · rw [hcarry, hexponent, Nat.pow_add, Nat.mul_assoc]

theorem unpack_pack_overflow {sign : Sign} {mantissa : Nat} {exponent : Int} (hpos : 0 < mantissa)
    (h : 971 < exponent) :
    (Float.Model.pack (.finite sign mantissa exponent hpos)).unpack = .infinity sign := by
  have hlarge : 2048 <= (exponent + (1023 : Nat) + (52 : Nat)).toNat + 1 := by omega
  have hpack : UnpackedFloat.pack Format.binary64 (.finite sign mantissa exponent hpos) =
      packedInfinity Format.binary64 sign :=
    if_pos hlarge
  show UnpackedFloat.unpack Format.binary64 (UnpackedFloat.pack Format.binary64 _) = _
  rw [hpack]
  cases sign <;> rfl

/-- A float keeps its size when it is stored, unless it is too large. -/
theorem HasSize.unpack_pack {sign : Sign} {value : UnpackedFloat} {size : Nat}
    (h : HasSize sign value size) :
    HasSize sign (Float.Model.pack value).unpack size
      ∨ (Float.Model.pack value).unpack = .infinity sign ∧ 2 ^ 200 <= size := by
  rcases h with ⟨mantissa, exponent, hpos, rfl, hlog, hleast, rfl⟩
  rcases lt_or_ge 971 exponent with hlarge | hsmall
  · have hpower : 2 ^ 200 <= 2 ^ (exponent + 52).toNat :=
      Nat.pow_le_pow_right Nat.two_pos (by omega)
    exact Or.inr ⟨unpack_pack_overflow hpos hlarge,
      Nat.le_trans hpower (Nat.le_mul_of_pos_left _ hpos)⟩
  · exact Or.inl ⟨mantissa, exponent, hpos, unpack_pack_normal hpos hlog (by omega) hsmall, hlog,
      hleast, rfl⟩

theorem lt_of_log2_lt {m n : Nat} (hpos : 0 < n) (h : m.log2 < n.log2) : m < n :=
  calc
    m < 2 ^ (m.log2 + 1) := Nat.lt_log2_self
    _ <= 2 ^ n.log2 := Nat.pow_le_pow_right (by decide) h
    _ <= n := Nat.log2_self_le (Nat.ne_of_gt hpos)

theorem mul_two_pow_lt {m n : Nat} (hm : m.log2 = 52) (hn : n.log2 = 52) (hmpos : 0 < m)
    (hnpos : 0 < n) {a b : Nat} (h : a < b) : m * 2 ^ a < n * 2 ^ b := by
  apply lt_of_log2_lt (Nat.mul_pos hnpos (Nat.two_pow_pos b))
  rw [log2_mul_two_pow hmpos, log2_mul_two_pow hnpos, hm, hn]
  exact Nat.add_lt_add_left h 52

theorem compare_parts {p q : Nat} {e f : Int} (hp : 0 < p) (hq : 0 < q) (hpLog : p.log2 = 52)
    (hqLog : q.log2 = 52) (he : -52 <= e) (hf : -52 <= f) :
    (compare e f).then (compare p q) =
      compare (p * 2 ^ (e + 52).toNat) (q * 2 ^ (f + 52).toNat) := by
  rcases Int.lt_trichotomy e f with hlt | rfl | hgt
  · rw [Int.compare_eq_lt.mpr hlt,
      Nat.compare_eq_lt.mpr (mul_two_pow_lt hpLog hqLog hp hq (by omega))]
    rfl
  · rw [Int.compare_eq_eq.mpr rfl, <- cmp_eq_compare (p * _), cmp_mul_pos_right (Nat.two_pow_pos _),
      cmp_eq_compare]
    rfl
  · rw [Int.compare_eq_gt.mpr hgt,
      Nat.compare_eq_gt.mpr (mul_two_pow_lt hqLog hpLog hq hp (by omega))]
    rfl

theorem HasSize.compareTriples_eq {s t : Sign} {a b : UnpackedFloat} {m n : Nat}
    (ha : HasSize s a m) (hb : HasSize t b n) :
    compareTriples (magnitude a) (magnitude b) = compare (s.apply m) (t.apply n) := by
  have hm := ha.pos
  have hn := hb.pos
  rcases ha with ⟨p, e, hp, rfl, hpLog, he, hpSize⟩
  rcases hb with ⟨q, f, hq, rfl, hqLog, hf, hqSize⟩
  have hparts := compare_parts hp hq hpLog hqLog he hf
  rw [hpSize, hqSize] at hparts
  cases s with
  | positive =>
      cases t with
      | positive =>
          show (compare e f).then (compare (p : Int) (q : Int)) = compare (m : Int) (n : Int)
          rw [compare_natCast, compare_natCast, hparts]
      | negative =>
          show Ordering.gt = compare (m : Int) (-n)
          rw [Int.compare_eq_gt.mpr (by omega)]
  | negative =>
      cases t with
      | positive =>
          show Ordering.lt = compare (-m : Int) n
          rw [Int.compare_eq_lt.mpr (by omega)]
      | negative =>
          show (compare (-e) (-f)).then (compare (-p : Int) (-q)) = compare (-m : Int) (-n)
          rw [compare_neg_neg, compare_neg_neg, compare_neg_neg, compare_natCast, compare_natCast,
            <- Ordering.swap_then, hparts]

theorem HasSize.compareTriples_zero {s : Sign} {a : UnpackedFloat} {m : Nat}
    (ha : HasSize s a m) : compareTriples (magnitude a) (0, 0, 0) = compare (s.apply m) 0 := by
  have hm := ha.pos
  rcases ha with ⟨p, e, hp, rfl, _⟩
  cases s with
  | positive =>
      show Ordering.gt = compare (m : Int) 0
      rw [Int.compare_eq_gt.mpr (by omega)]
  | negative =>
      show Ordering.lt = compare (-m : Int) 0
      rw [Int.compare_eq_lt.mpr (by omega)]

/-- The float is zero, or it has that size with its sign. -/
def HasUnits (value : UnpackedFloat) (units : Int) : Prop :=
  (exists sign, value = .zero sign) ∧ units = 0
    ∨ exists sign size, HasSize sign value size ∧ units = sign.apply size

theorem HasUnits.compareTriples_eq {a b : UnpackedFloat} {x y : Int} (ha : HasUnits a x)
    (hb : HasUnits b y) : compareTriples (magnitude a) (magnitude b) = compare x y := by
  rcases ha with ⟨⟨_, rfl⟩, rfl⟩ | ⟨s, m, ha, rfl⟩
  · rcases hb with ⟨⟨_, rfl⟩, rfl⟩ | ⟨t, n, hb, rfl⟩
    · rfl
    · rw [@Std.OrientedCmp.eq_swap _ compareTriples, @Std.OrientedCmp.eq_swap _ compare]
      exact congrArg Ordering.swap hb.compareTriples_zero
  · rcases hb with ⟨⟨_, rfl⟩, rfl⟩ | ⟨t, n, hb, rfl⟩
    · exact ha.compareTriples_zero
    · exact ha.compareTriples_eq hb

/-!
# Conversion of integers
-/

/-- The nearest number that has 53 bits and zeros after them. -/
def nearestNat (n : Nat) : Nat :=
  nearestDiv n (2 ^ (n.log2 - 52)) * 2 ^ (n.log2 - 52)

theorem nearestNat_of_lt {n : Nat} (h : n < 2 ^ 53) : nearestNat n = n := by
  have hamount : n.log2 - 52 = 0 := by
    rcases Nat.eq_zero_or_pos n with rfl | hpos
    · rfl
    · have hlog := (Nat.log2_lt (Nat.ne_of_gt hpos)).mpr h
      omega
  rw [nearestNat, hamount, Nat.pow_zero, nearestDiv_one, Nat.mul_one]

theorem nearestNat_bounds {n : Nat} (hpos : 0 < n) :
    2 ^ n.log2 <= nearestNat n ∧ nearestNat n <= 2 ^ (n.log2 + 1) := by
  rcases (Nat.log2_eq_iff (Nat.ne_of_gt hpos)).mp rfl with ⟨hlow, hhigh⟩
  rcases Nat.lt_or_ge n (2 ^ 53) with hshort | hlong
  · rw [nearestNat_of_lt hshort]
    exact ⟨hlow, Nat.le_of_lt hhigh⟩
  · have hlog : n.log2 = 52 + (n.log2 - 52) := by
      have hleast := (Nat.le_log2 (Nat.ne_of_gt hpos)).mpr hlong
      omega
    rcases nearestDiv_bounds (Nat.div_one n).symm hlog with ⟨hleast, hmost⟩
    rw [Nat.one_mul] at hleast hmost
    rw [hlog, Nat.pow_add, show 52 + (n.log2 - 52) + 1 = 53 + (n.log2 - 52) by omega, Nat.pow_add]
    exact ⟨Nat.mul_le_mul_right _ hleast, Nat.mul_le_mul_right _ hmost⟩

theorem nearestNat_mono {m n : Nat} (h : m <= n) : nearestNat m <= nearestNat n := by
  rcases Nat.eq_zero_or_pos m with rfl | hmpos
  · exact Nat.zero_le _
  have hnpos := Nat.lt_of_lt_of_le hmpos h
  rcases Nat.lt_or_ge m.log2 n.log2 with hlt | hge
  · calc
      nearestNat m <= 2 ^ (m.log2 + 1) := (nearestNat_bounds hmpos).right
      _ <= 2 ^ n.log2 := Nat.pow_le_pow_right Nat.two_pos hlt
      _ <= nearestNat n := (nearestNat_bounds hnpos).left
  · have hle : m.log2 <= n.log2 :=
      (Nat.le_log2 (Nat.ne_of_gt hnpos)).mpr
        (Nat.le_trans (Nat.log2_self_le (Nat.ne_of_gt hmpos)) h)
    have hlog : m.log2 = n.log2 := Nat.le_antisymm hle hge
    unfold nearestNat
    rw [hlog]
    exact Nat.mul_le_mul_right _ (nearestDiv_mono h)

theorem nearestNat_le {n : Nat} (h : n < 2 ^ 64) : nearestNat n <= 2 ^ 64 := by
  rcases Nat.eq_zero_or_pos n with rfl | hpos
  · exact Nat.zero_le _
  · have hlog : n.log2 < 64 := (Nat.log2_lt (Nat.ne_of_gt hpos)).mpr h
    exact Nat.le_trans (nearestNat_bounds hpos).right (Nat.pow_le_pow_right Nat.two_pos hlog)

theorem hasSize_ofNat {n : Nat} (hpos : 0 < n) (hsmall : n < 2 ^ 64) :
    HasSize .positive (Float.ofNat n).toModel.unpack (nearestNat n * 2 ^ 52) := by
  by_cases hshort : n < 2 ^ 53
  · have hlog : n.log2 < 53 := (Nat.log2_lt (Nat.ne_of_gt hpos)).mpr hshort
    have hamount : 52 - n.log2 + ((n.log2 : Int) - 52 + 52).toNat = 52 := by omega
    refine ⟨_, _, _, unpack_ofNat hpos hshort, log2_mul_shift hpos hshort, by omega, ?_⟩
    rw [nearestNat_of_lt hshort, Nat.mul_assoc, <- Nat.pow_add, hamount]
  · have hleast : 53 <= n.log2 := (Nat.le_log2 (Nat.ne_of_gt hpos)).mpr (Nat.le_of_not_lt hshort)
    have hlog : (n * 2 ^ 53).log2 = 52 + (n.log2 + 1) := by
      rw [log2_mul_two_pow hpos]
      omega
    have hsize : nearestDiv (n * 2 ^ 53) (1 * 2 ^ (n.log2 + 1))
          * 2 ^ (-53 + ((n.log2 + 1 : Nat) : Int) + 52).toNat =
        nearestNat n * 2 ^ 52 := by
      rw [Nat.one_mul, show n.log2 + 1 = n.log2 - 52 + 53 by omega, Nat.pow_add,
        nearestDiv_mul_right _ _ (Nat.two_pow_pos 53), nearestNat, Nat.mul_assoc, <- Nat.pow_add]
      congr 2
      omega
    have hbound := nearestNat_le hsmall
    rw [ofNat_eq_ofScientific hshort]
    show HasSize _ (Float.Model.pack _).unpack _
    rw [ofScientific_zero (Nat.ne_of_gt hpos)]
    have hrounded : HasSize .positive
        (roundWithAccuracy Format.binary64 .positive (n * 2 ^ 53) (-53) .exact)
          (nearestNat n * 2 ^ 52) := by
      rw [<- hsize]
      exact hasSize_roundWithAccuracy Nat.one_pos (standsFor_exact _) hlog (by omega)
    exact hrounded.unpack_pack.resolve_right (by omega)

theorem HasSize.neg {x : Float} {size : Nat} (h : HasSize .positive x.toModel.unpack size)
    (hsmall : size < 2 ^ 200) : HasSize .negative x.neg.toModel.unpack size := by
  have hneg : HasSize .negative x.toModel.unpack.neg size := by
    rcases h with ⟨mantissa, exponent, hpos, hunpack, hrest⟩
    rw [hunpack]
    exact ⟨mantissa, exponent, hpos, rfl, hrest⟩
  exact hneg.unpack_pack.resolve_right (by omega)

/-- The nearest integer that has 53 bits and zeros after them. -/
def nearestInt (n : Int) : Int :=
  n.sign * nearestNat n.natAbs

theorem nearestInt_neg (n : Int) : nearestInt (-n) = -nearestInt n := by
  rw [nearestInt, nearestInt, Int.sign_neg, Int.natAbs_neg, Int.neg_mul]

theorem nearestInt_natCast (n : Nat) : nearestInt n = nearestNat n := by
  rcases Nat.eq_zero_or_pos n with rfl | hpos
  · rfl
  · rw [nearestInt, Int.sign_eq_one_of_pos (Int.natCast_pos.mpr hpos), Int.one_mul,
      Int.natAbs_natCast]

theorem nearestInt_of_natAbs_lt {n : Int} (h : n.natAbs < 2 ^ 53) : nearestInt n = n := by
  rw [nearestInt, nearestNat_of_lt h, Int.sign_mul_natAbs]

theorem nearestInt_mono {a b : Int} (h : a <= b) : nearestInt a <= nearestInt b := by
  rcases Int.eq_nat_or_neg a with ⟨m, rfl | rfl⟩
  · obtain ⟨n, rfl⟩ := Int.eq_ofNat_of_zero_le (Int.le_trans (Int.natCast_nonneg m) h)
    rw [nearestInt_natCast, nearestInt_natCast]
    exact Int.ofNat_le.mpr (nearestNat_mono (Int.ofNat_le.mp h))
  · rcases Int.eq_nat_or_neg b with ⟨n, rfl | rfl⟩
    · rw [nearestInt_neg, nearestInt_natCast, nearestInt_natCast]
      omega
    · rw [nearestInt_neg, nearestInt_neg, nearestInt_natCast, nearestInt_natCast]
      exact Int.neg_le_neg (Int.ofNat_le.mpr (nearestNat_mono (by omega)))

theorem hasUnits_ofInt {n : Int} (h : n.natAbs < 2 ^ 64) :
    HasUnits (Float.ofInt n).toModel.unpack (nearestInt n * 2 ^ 52) := by
  have hcast : forall k : Nat, ((nearestNat k * 2 ^ 52 : Nat) : Int) = nearestInt k * 2 ^ 52 := by
    intro k
    rw [nearestInt_natCast]
    rfl
  cases n with
  | ofNat k =>
      rcases Nat.eq_zero_or_pos k with rfl | hpos
      · exact Or.inl ⟨⟨.positive, rfl⟩, rfl⟩
      · exact Or.inr ⟨.positive, _, hasSize_ofNat hpos h, (hcast k).symm⟩
  | negSucc k =>
      have hbound := nearestNat_le (n := k.succ) h
      refine Or.inr ⟨.negative, _, (hasSize_ofNat (Nat.succ_pos k) h).neg (by omega), ?_⟩
      show nearestInt (-((k + 1 : Nat) : Int)) * 2 ^ 52 =
        -((nearestNat (k + 1) * 2 ^ 52 : Nat) : Int)
      rw [nearestInt_neg, Int.neg_mul, hcast]

theorem floatOrder_ofInt {a b : Int} (ha : a.natAbs < 2 ^ 64) (hb : b.natAbs < 2 ^ 64) :
    floatOrder (Float.ofInt a) (Float.ofInt b) = compare (nearestInt a) (nearestInt b) := by
  rw [floatOrder, (hasUnits_ofInt ha).compareTriples_eq (hasUnits_ofInt hb), <- cmp_eq_compare,
    cmp_mul_pos_right (by decide), cmp_eq_compare]

theorem compareFloats_ofNat {m n : Nat} (hm : m < 2 ^ 53) (hn : n < 2 ^ 53) :
    Store.compareFloats (Float.ofNat m) (Float.ofNat n) = compare m n := by
  have horder :
      floatOrder (Float.ofNat m) (Float.ofNat n) = compare (nearestInt m) (nearestInt n) :=
    @floatOrder_ofInt m n (by omega) (by omega)
  rw [compareFloats_eq_floatOrder (isNaN_ofNat m) (isNaN_ofNat n), horder, nearestInt_natCast,
    nearestInt_natCast, nearestNat_of_lt hm, nearestNat_of_lt hn, compare_natCast]

/-!
# Whole floats
-/

/-- A whole float other than zero has a mantissa of 53 bits, of which those behind the point
are zeros. -/
theorem Dyadic.exists_whole {d : Dyadic} (hpos : 0 < d.mantissa) (hmantissa : d.mantissa < 2 ^ 53)
    (hnormal : d.exponent = -1074 ∨ d.mantissa.log2 = 52) (hexponent : d.exponent <= 0)
    (hwhole : d.hasFraction = false) :
    d.mantissa.log2 = 52 ∧ -52 <= d.exponent ∧ d.wholePart < 2 ^ 53
      ∧ d.mantissa * 2 ^ (d.exponent + 52).toNat = d.wholePart * 2 ^ 52 := by
  have hscale : d.exponent.toNat = 0 := by omega
  rw [Dyadic.hasFraction_eq, hscale, Nat.pow_zero, Nat.mul_one, bne_eq_false_iff_eq] at hwhole
  have hdvd := Nat.dvd_of_mod_eq_zero hwhole
  have hle := Nat.le_of_dvd hpos hdvd
  have hleast : -52 <= d.exponent := by
    by_contra hsmall
    have hpower : 2 ^ 53 <= 2 ^ (-d.exponent).toNat := Nat.pow_le_pow_right Nat.two_pos (by omega)
    omega
  have hpart : d.mantissa = d.wholePart * 2 ^ (-d.exponent).toNat := by
    rw [Dyadic.wholePart_eq, hscale, Nat.pow_zero, Nat.mul_one, Nat.div_mul_cancel hdvd]
  refine ⟨hnormal.resolve_left (by omega), hleast, ?_, ?_⟩
  · exact Nat.lt_of_le_of_lt (Nat.le_mul_of_pos_right _ (Nat.two_pow_pos _)) (hpart ▸ hmantissa)
  · rw [hpart, Nat.mul_assoc, <- Nat.pow_add]
    congr 2
    omega

theorem exponent_of_abs_lt {x : Float} {sign : Sign} {mantissa : Nat} {exponent : Int}
    {hpos : 0 < mantissa} (h : x.toModel.unpack = .finite sign mantissa exponent hpos)
    (hlog : mantissa.log2 = 52) (hleast : -1074 <= exponent) (hgreatest : exponent <= 971)
    (hsize : x.abs < 9e15) : exponent <= 0 := by
  have hbound : (9e15 : Float).toModel.unpack =
      .finite .positive 9000000000000000 0 (by decide) := rfl
  have habs : x.abs.toModel.unpack = .finite .positive mantissa exponent hpos := by
    show (Float.Model.pack x.toModel.unpack.abs).unpack = _
    rw [h]
    exact unpack_pack_normal hpos hlog hleast hgreatest
  have horder := lt_iff_compare.mp hsize
  rw [habs, hbound] at horder
  have hcompare : (compare exponent 0).then (compare mantissa 9000000000000000) = .lt :=
    Option.some.inj horder
  by_contra hlarge
  rw [Int.compare_eq_gt.mpr (by omega)] at hcompare
  cases hcompare

theorem clampInt64_truncate {sign : Sign} {d : Dyadic}
    (hsign : sign = .positive <-> d.negative = false) (hpart : d.wholePart < 2 ^ 53) :
    clampInt64 d.truncate = sign.apply d.wholePart := by
  unfold Dyadic.truncate Dyadic.signed clampInt64 minInt64 maxInt64
  cases hnegative : d.negative with
  | false =>
      rw [hsign.mpr hnegative]
      show _ = (d.wholePart : Int)
      simp only [Bool.false_eq_true, if_false]
      omega
  | true =>
      cases sign with
      | positive =>
          rw [hsign.mp rfl] at hnegative
          cases hnegative
      | negative =>
          show _ = -(d.wholePart : Int)
          simp only [if_true]
          omega

theorem HasSize.hasUnits {sign : Sign} {value : UnpackedFloat} {size : Nat}
    (h : HasSize sign value (size * 2 ^ 52)) : HasUnits value (sign.apply size * 2 ^ 52) := by
  refine Or.inr ⟨sign, _, h, ?_⟩
  cases sign with
  | positive => exact (Int.natCast_mul size (2 ^ 52)).symm
  | negative =>
      show -(size : Int) * 2 ^ 52 = -((size * 2 ^ 52 : Nat) : Int)
      rw [Int.natCast_mul, Int.neg_mul]
      rfl

theorem ofInt_beq_of_hasSize {x : Float} {sign : Sign} {size : Nat}
    (h : HasSize sign x.toModel.unpack (size * 2 ^ 52)) (hsmall : size < 2 ^ 53) :
    (Float.ofInt (sign.apply size) == x) = true := by
  have habs : (sign.apply size : Int).natAbs < 2 ^ 53 := by
    cases sign with
    | positive => exact hsmall
    | negative => exact (Int.natAbs_neg (size : Int)).trans_lt hsmall
  rw [beq_iff_compare, compare_eq_some_iff]
  refine ⟨isNaN_ofInt _, ?_, ?_⟩
  · rcases h with ⟨mantissa, exponent, hpos, hunpack, _⟩
    show x.toModel.unpack.isNaN = false
    rw [hunpack]
    rfl
  · rw [floatOrder, (hasUnits_ofInt (by omega)).compareTriples_eq h.hasUnits,
      nearestInt_of_natAbs_lt habs, Int.compare_eq_eq]

theorem ofInt_truncateInt64 {x : Float} (hwhole : isIntegral x = true) (hsize : x.abs < 9e15) :
    (Float.ofInt (truncateInt64 x) == x) = true := by
  unfold isIntegral at hwhole
  unfold truncateInt64 toInt64By
  rcases unpack_cases x with
    ⟨sign, negative, hunpack, hd⟩
      | ⟨sign, mantissa, exponent, hpos, hunpack, ⟨negative, hsign, hd⟩, hmantissa, hleast⟩
      | ⟨_, hd⟩
  · have hzero : clampInt64 (Dyadic.truncate ⟨negative, 0, -1074⟩) = 0 := by
      simp only [Dyadic.truncate, Dyadic.wholePart_eq, Dyadic.signed, Nat.zero_mul, Nat.zero_div]
      cases negative <;> rfl
    rw [hd]
    dsimp only
    rw [hzero, beq_iff_compare, hunpack]
    rfl
  · rw [hd] at hwhole ⊢
    rcases dyadic?_bounds hd with ⟨_, hgreatest, hnormal⟩
    have hexponent : exponent <= 0 := by
      rcases hnormal with hshort | hlog
      · exact hshort.trans_le (by decide)
      · exact exponent_of_abs_lt hunpack hlog hleast hgreatest hsize
    rcases Dyadic.exists_whole hpos hmantissa hnormal hexponent (Bool.not_eq_true' _ |>.mp hwhole)
      with ⟨hlog, hpoint, hpart, hunits⟩
    dsimp only
    rw [@clampInt64_truncate sign ⟨negative, mantissa, exponent⟩ hsign hpart]
    exact ofInt_beq_of_hasSize ⟨mantissa, exponent, hpos, hunpack, hlog, hpoint, hunits⟩ hpart
  · rw [hd] at hwhole
    cases hwhole

end Number
end Rollup
