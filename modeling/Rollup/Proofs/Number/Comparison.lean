import Rollup.Proofs.Number.Whole
import Rollup.Proofs.Order.Comparator

/-!
# Order of floats

Floats that are numbers compare like triples of integers: the side of zero, the exponent
and the mantissa. So they are ordered as every comparison by keys is, and only a NaN is
not. Integers never become a NaN.
-/

namespace Rollup
namespace Number

open Float.Model
open Float.Model.UnpackedFloat

/-- Side of zero, exponent and mantissa. The last two are turned around below zero. -/
def magnitude : UnpackedFloat -> Int × Int × Int
  | .infinity .negative => (-2, 0, 0)
  | .finite .negative mantissa exponent _ => (-1, -exponent, -mantissa)
  | .finite .positive mantissa exponent _ => (1, exponent, mantissa)
  | .infinity .positive => (2, 0, 0)
  | _ => (0, 0, 0)

def compareTriples : Int × Int × Int -> Int × Int × Int -> Ordering :=
  compareLex (compareOn (fun triple => triple.1))
    (compareLex (compareOn (fun triple => triple.2.1)) (compareOn (fun triple => triple.2.2)))

def floatOrder (x y : Float) : Ordering :=
  compareTriples (magnitude x.toModel.unpack) (magnitude y.toModel.unpack)

instance : Std.TransCmp compareTriples :=
  inferInstanceAs (Std.TransCmp (compareLex _ _))

instance : Std.TransCmp floatOrder :=
  Store.transCmp_key compareTriples (fun x : Float => magnitude x.toModel.unpack)

/-!
# Comparing by magnitude
-/

theorem compare_neg_neg (a b : Int) : compare (-a) (-b) = (compare a b).swap := by
  rcases Int.lt_trichotomy a b with hlt | heq | hgt
  · rw [Int.compare_eq_lt.mpr hlt, Int.compare_eq_gt.mpr (Int.neg_lt_neg hlt)]
    rfl
  · rw [Int.compare_eq_eq.mpr heq, Int.compare_eq_eq.mpr (congrArg Neg.neg heq)]
    rfl
  · rw [Int.compare_eq_gt.mpr hgt, Int.compare_eq_lt.mpr (Int.neg_lt_neg hgt)]
    rfl

theorem compare_natCast (m n : Nat) : compare (m : Int) (n : Int) = compare m n := by
  rcases Nat.lt_trichotomy m n with hlt | heq | hgt
  · rw [Nat.compare_eq_lt.mpr hlt, Int.compare_eq_lt.mpr (Int.ofNat_lt.mpr hlt)]
  · rw [Nat.compare_eq_eq.mpr heq, Int.compare_eq_eq.mpr (congrArg Nat.cast heq)]
  · rw [Nat.compare_eq_gt.mpr hgt, Int.compare_eq_gt.mpr (Int.ofNat_lt.mpr hgt)]

theorem compare_eq_compareTriples {a b : UnpackedFloat} (ha : a.isNaN = false)
    (hb : b.isNaN = false) :
    a.compare b = some (compareTriples (magnitude a) (magnitude b)) := by
  cases a with
  | notANumber => cases ha
  | infinity sign =>
      cases b with
      | notANumber => cases hb
      | infinity other => cases sign <;> cases other <;> rfl
      | zero other => cases sign <;> rfl
      | finite other n f hn => cases sign <;> cases other <;> rfl
  | zero sign =>
      cases b with
      | notANumber => cases hb
      | infinity other => cases other <;> rfl
      | zero other => rfl
      | finite other n f hn => cases other <;> rfl
  | finite sign m e hm =>
      cases b with
      | notANumber => cases hb
      | infinity other => cases sign <;> cases other <;> rfl
      | zero other => cases sign <;> rfl
      | finite other n f hn =>
          cases sign with
          | positive =>
              cases other with
              | negative => rfl
              | positive =>
                  show some ((compare e f).then (compare m n))
                    = some ((compare e f).then (compare (m : Int) (n : Int)))
                  rw [compare_natCast]
          | negative =>
              cases other with
              | positive => rfl
              | negative =>
                  show some ((compare e f).then (compare m n)).swap
                    = some ((compare (-e) (-f)).then (compare (-(m : Int)) (-(n : Int))))
                  rw [compare_neg_neg, compare_neg_neg, compare_natCast, Ordering.swap_then]

theorem lt_iff_compare {x y : Float} :
    x < y <-> x.toModel.unpack.compare y.toModel.unpack = some .lt := by
  have hlt : x < y <-> x.toModel.unpack.lt y.toModel.unpack = true :=
    ⟨unpack_lt_of_lt, decide_eq_true⟩
  rw [hlt, UnpackedFloat.lt, beq_iff_eq]

theorem beq_iff_compare {x y : Float} :
    (x == y) = true <-> x.toModel.unpack.compare y.toModel.unpack = some .eq := by
  show (x.toModel.unpack.compare y.toModel.unpack == some .eq) = true <-> _
  rw [beq_iff_eq]

theorem isNaN_of_compare {a b : UnpackedFloat} {order : Ordering} (h : a.compare b = some order) :
    a.isNaN = false ∧ b.isNaN = false := by
  cases a with
  | notANumber => cases h
  | _ => cases b with
    | notANumber => cases h
    | _ => exact ⟨rfl, rfl⟩

theorem compare_eq_some_iff {x y : Float} {order : Ordering} :
    x.toModel.unpack.compare y.toModel.unpack = some order
      <-> x.isNaN = false ∧ y.isNaN = false ∧ floatOrder x y = order := by
  constructor
  · intro h
    rcases isNaN_of_compare h with ⟨hx, hy⟩
    rw [compare_eq_compareTriples hx hy] at h
    exact ⟨hx, hy, Option.some.inj h⟩
  · intro ⟨hx, hy, horder⟩
    rw [compare_eq_compareTriples hx hy]
    exact congrArg some horder

theorem compareFloats?_eq_some_iff {x y : Float} {order : Ordering} :
    Store.compareFloats? x y = some order
      <-> x.isNaN = false ∧ y.isNaN = false ∧ floatOrder x y = order := by
  have hswap : floatOrder y x = (floatOrder x y).swap := Std.OrientedCmp.eq_swap
  unfold Store.compareFloats?
  simp only [GT.gt, lt_iff_compare, beq_iff_compare, compare_eq_some_iff, hswap]
  cases x.isNaN with
  | true => simp
  | false =>
      cases y.isNaN with
      | true => simp
      | false => cases floatOrder x y <;> simp

theorem compareFloats_eq_floatOrder {x y : Float} (hx : x.isNaN = false) (hy : y.isNaN = false) :
    Store.compareFloats x y = floatOrder x y := by
  rw [Store.compareFloats, compareFloats?_eq_some_iff.mpr ⟨hx, hy, rfl⟩]
  rfl

theorem lt_iff_floatOrder {x y : Float} :
    x < y <-> x.isNaN = false ∧ y.isNaN = false ∧ floatOrder x y = .lt :=
  lt_iff_compare.trans compare_eq_some_iff

theorem le_iff_floatOrder {x y : Float} :
    x <= y <-> x.isNaN = false ∧ y.isNaN = false ∧ (floatOrder x y).isLE = true := by
  have hle : x <= y <-> x.toModel.unpack.le y.toModel.unpack = true :=
    ⟨unpack_le_of_le, decide_eq_true⟩
  rw [hle, UnpackedFloat.le, Option.any_eq_true]
  constructor
  · intro ⟨order, hsome, horder⟩
    rcases compare_eq_some_iff.mp hsome with ⟨hx, hy, rfl⟩
    exact ⟨hx, hy, horder⟩
  · intro ⟨hx, hy, horder⟩
    exact ⟨_, compare_eq_some_iff.mpr ⟨hx, hy, rfl⟩, horder⟩

section

variable {x y z : Float}

protected theorem le_of_lt (h : x < y) : x <= y := by
  rcases lt_iff_floatOrder.mp h with ⟨hx, hy, hlt⟩
  refine le_iff_floatOrder.mpr ⟨hx, hy, ?_⟩
  rw [hlt]
  rfl

protected theorem le_trans (hxy : x <= y) (hyz : y <= z) : x <= z := by
  rcases le_iff_floatOrder.mp hxy with ⟨hx, _, hle⟩
  rcases le_iff_floatOrder.mp hyz with ⟨_, hz, hle'⟩
  exact le_iff_floatOrder.mpr ⟨hx, hz, Std.TransCmp.isLE_trans hle hle'⟩

protected theorem lt_of_lt_of_le (hxy : x < y) (hyz : y <= z) : x < z := by
  rcases lt_iff_floatOrder.mp hxy with ⟨hx, _, hlt⟩
  rcases le_iff_floatOrder.mp hyz with ⟨_, hz, hle⟩
  exact lt_iff_floatOrder.mpr ⟨hx, hz, Std.TransCmp.lt_of_lt_of_isLE hlt hle⟩

protected theorem not_lt_of_le (h : x <= y) : ¬ y < x := by
  intro hlt
  rcases le_iff_floatOrder.mp h with ⟨_, _, hle⟩
  rcases lt_iff_floatOrder.mp hlt with ⟨_, _, hless⟩
  rw [Std.OrientedCmp.gt_of_lt hless] at hle
  cases hle

protected theorem lt_or_le (hx : x.isNaN = false) (hy : y.isNaN = false) : x < y ∨ y <= x := by
  rw [lt_iff_floatOrder, le_iff_floatOrder]
  cases horder : floatOrder x y with
  | lt => exact Or.inl ⟨hx, hy, rfl⟩
  | eq =>
      rw [Std.OrientedCmp.eq_symm horder]
      exact Or.inr ⟨hy, hx, rfl⟩
  | gt =>
      rw [Std.OrientedCmp.lt_of_gt horder]
      exact Or.inr ⟨hy, hx, rfl⟩

end

/-!
# Integers as floats
-/

theorem isNaN_unpack_pack {value : UnpackedFloat} (h : value.isNaN = false) :
    (Float.Model.pack value).unpack.isNaN = false := by
  have hcomponents : forall (sign : Sign) (exponent : BitVec 11) (fraction : BitVec 52),
      exponent ≠ -1#11 ->
        (UnpackedFloat.unpack Format.binary64
          (packComponents Format.binary64 sign exponent fraction)).isNaN = false := by
    intro sign exponent fraction hones
    rw [unpack_packComponents]
    rcases ofFields_cases sign exponent fraction with ⟨h, _⟩ | ⟨_, hvalue | ⟨_, _, _, hvalue, _⟩⟩
    · exact absurd h hones
    · rw [hvalue]
      rfl
    · rw [hvalue]
      rfl
  cases value with
  | notANumber => cases h
  | infinity sign => cases sign <;> rfl
  | zero sign => cases sign <;> rfl
  | finite sign mantissa exponent hpos =>
      show (UnpackedFloat.unpack Format.binary64
        (UnpackedFloat.pack Format.binary64 _)).isNaN = false
      unfold UnpackedFloat.pack
      dsimp only
      split
      · cases sign <;> rfl
      · rename_i hfits
        split
        · apply hcomponents
          intro hones
          have hvalue := congrArg BitVec.toNat hones
          change _ % 2048 = 2047 at hvalue
          change ¬ 2048 <= _ at hfits
          omega
        · apply hcomponents
          decide

theorem isNaN_roundWithAccuracy (sign : Sign) (mantissa : Nat) (exponent : Int)
    (accuracy : Accuracy) :
    (roundWithAccuracy Format.binary64 sign mantissa exponent accuracy).isNaN = false := by
  rcases roundWithAccuracy_cases sign mantissa exponent accuracy with
    hvalue | ⟨_, _, _, hvalue⟩
  · rw [hvalue]
    rfl
  · rw [hvalue]
    rfl

theorem isNaN_ofNat (n : Nat) : (Float.ofNat n).isNaN = false := by
  show (Float.ofNat n).toModel.unpack.isNaN = false
  by_cases hsmall : n < 2 ^ 53
  · rcases Nat.eq_zero_or_pos n with rfl | hpos
    · rfl
    · rw [unpack_ofNat hpos hsmall]
      rfl
  · rw [ofNat_eq_ofScientific hsmall]
    apply isNaN_unpack_pack
    rw [ofScientific_zero (by omega)]
    exact isNaN_roundWithAccuracy _ _ _ _

theorem isNaN_neg {x : Float} (h : x.isNaN = false) : x.neg.isNaN = false := by
  show (Float.Model.pack x.toModel.unpack.neg).unpack.isNaN = false
  apply isNaN_unpack_pack
  change x.toModel.unpack.isNaN = false at h
  cases hunpacked : x.toModel.unpack with
  | notANumber =>
      rw [hunpacked] at h
      cases h
  | _ => rfl

theorem isNaN_ofInt (n : Int) : (Float.ofInt n).isNaN = false := by
  cases n with
  | ofNat n => exact isNaN_ofNat n
  | negSucc n => exact isNaN_neg (isNaN_ofNat n.succ)

theorem isNaN_of_isFinite {x : Float} (h : x.isFinite = true) : x.isNaN = false := by
  change x.toModel.unpack.isFinite = true at h
  show x.toModel.unpack.isNaN = false
  cases hunpacked : x.toModel.unpack with
  | notANumber =>
      rw [hunpacked] at h
      cases h
  | _ => rfl

end Number
end Rollup
