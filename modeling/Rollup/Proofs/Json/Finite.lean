import Rollup.Json.Reader
import Rollup.Proofs.FieldMap
import Rollup.Proofs.Order.Values

/-!
# Values that are read

A text of JSON holds finite numbers only, at every depth of the value.
-/

namespace Rollup

/-!
# Negative numbers
-/

namespace Number

open Float.Model
open Float.Model.UnpackedFloat

theorem exponent_le_of_unpack {x : Float} {sign : Sign} {mantissa : Nat} {exponent : Int}
    {hpos : 0 < mantissa} (h : x.toModel.unpack = .finite sign mantissa exponent hpos) :
    exponent <= 971 := by
  change UnpackedFloat.unpack Format.binary64 x.toModel.toBits.toBitVec = _ at h
  rw [unpack_eq_ofFields] at h
  rcases ofFields_cases _ _ _ with
    ⟨_, hvalue | hvalue⟩ | ⟨_, hvalue | ⟨_, scale, _, hvalue, hscale⟩⟩
  · cases hvalue.symm.trans h
  · cases hvalue.symm.trans h
  · cases hvalue.symm.trans h
  · injection hvalue.symm.trans h with _ _ hexponent
    exact hexponent ▸ hscale

theorem isFinite_unpack_packComponents {exponent : BitVec 11} (h : exponent ≠ -1#11) (sign : Sign)
    (fraction : BitVec 52) :
    (UnpackedFloat.unpack Format.binary64
      (packComponents Format.binary64 sign exponent fraction)).isFinite = true := by
  rw [unpack_packComponents]
  rcases ofFields_cases sign exponent fraction with
    ⟨hones, _⟩ | ⟨_, hvalue | ⟨_, _, _, hvalue, _⟩⟩
  · exact absurd hones h
  · rw [hvalue]
    rfl
  · rw [hvalue]
    rfl

theorem isFinite_neg {x : Float} (h : x.isFinite = true) : x.neg.isFinite = true := by
  change x.toModel.unpack.isFinite = true at h
  show (Float.Model.pack x.toModel.unpack.neg).unpack.isFinite = true
  cases hunpack : x.toModel.unpack with
  | notANumber =>
      rw [hunpack] at h
      cases h
  | infinity sign =>
      rw [hunpack] at h
      cases h
  | zero sign => cases sign <;> rfl
  | finite sign mantissa exponent hpos =>
      have hexponent := exponent_le_of_unpack hunpack
      show (UnpackedFloat.unpack Format.binary64 (UnpackedFloat.pack Format.binary64
        (.finite (-sign) mantissa exponent hpos))).isFinite = true
      rw [pack_finite hpos hexponent]
      split
      · apply isFinite_unpack_packComponents
        intro hones
        have hvalue := congrArg BitVec.toNat hones
        rw [BitVec.toNat_ofNat] at hvalue
        change _ % 2048 = 2047 at hvalue
        omega
      · exact isFinite_unpack_packComponents (by decide) _ _

end Number

/-!
# Reading
-/

namespace Json

theorem fieldsFinite_iff {fields : List (String × Json)} :
    fieldsFinite fields = true <-> forall entry, entry ∈ fields -> entry.2.isFinite = true := by
  induction fields with
  | nil => simp [fieldsFinite]
  | cons entry rest ih => simp [fieldsFinite, ih]

def ReadsFinite (read? : Rest -> Option (Json × Rest)) : Prop :=
  forall cs value rest, read? cs = some (value, rest) -> value.isFinite = true

theorem integerOf_cases (negative : Bool) (size : Nat) :
    (exists x, integerOf negative size = .float x)
      ∨ exists n, integerOf negative size = .int n := by
  unfold integerOf
  split
  · split
    · exact .inl ⟨_, rfl⟩
    split
    · exact .inr ⟨_, rfl⟩
    · exact .inl ⟨_, rfl⟩
  split
  · exact .inr ⟨_, rfl⟩
  · exact .inl ⟨_, rfl⟩

theorem isFinite_floatOf {negative : Bool} {digits : Nat} {exponent : Int} {value : Json}
    (h : floatOf? negative digits exponent = some value) : value.isFinite = true := by
  unfold floatOf? at h
  dsimp only at h
  split at h
  · rename_i hfinite
    cases h
    cases negative with
    | true => exact Number.isFinite_neg hfinite
    | false => exact hfinite
  · cases h

theorem readsFinite_number : ReadsFinite number? := by
  intro cs value rest h
  unfold number? at h
  rcases Option.bind_eq_some_iff.mp h with ⟨whole, _, h⟩
  rcases Option.bind_eq_some_iff.mp h with ⟨fraction, _, h⟩
  rcases Option.bind_eq_some_iff.mp h with ⟨exponent, _, h⟩
  dsimp only at h
  split at h
  · rcases integerOf_cases _ (Number.digitsValue 0 whole.1) with ⟨x, hx⟩ | ⟨n, hn⟩
    · rw [hx] at h
      dsimp only at h
      split at h
      · rename_i hfinite
        cases h
        exact hfinite
      · cases h
    · rw [hn] at h
      cases h
      rfl
  · rcases Option.bind_eq_some_iff.mp h with ⟨found, hfound, h⟩
    cases h
    exact isFinite_floatOf hfound

theorem readsFinite_word (word : List Char) {value : Json} (h : value.isFinite = true) :
    ReadsFinite (word? word value) := by
  intro cs found rest hfound
  unfold word? at hfound
  split at hfound
  · cases hfound
    exact h
  · cases hfound

section

variable {item? : Rest -> Option (Json × Rest)} (hitem : ReadsFinite item?)

include hitem

theorem isFinite_of_items {steps : Nat} {seen items : List Json} {cs rest : Rest}
    (hseen : forall value, value ∈ seen -> value.isFinite = true)
    (h : items? item? steps seen cs = some (items, rest)) :
    forall value, value ∈ items -> value.isFinite = true := by
  induction steps generalizing seen cs with
  | zero => cases h
  | succ steps ih =>
      unfold items? at h
      rcases Option.bind_eq_some_iff.mp h with ⟨⟨first, more⟩, hfirst, h⟩
      have hmore : forall value, value ∈ first :: seen -> value.isFinite = true :=
        List.forall_mem_cons.mpr ⟨hitem _ first more hfirst, hseen⟩
      dsimp only at h
      split at h
      · exact ih hmore h
      · cases h
        intro value hvalue
        exact hmore value (List.mem_reverse.mp hvalue)
      · cases h

theorem isFinite_of_fields {limit steps : Nat} {seen fields : List (String × Json)}
    {cs rest : Rest} (hseen : forall entry, entry ∈ seen -> entry.2.isFinite = true)
    (h : fields? limit item? steps seen cs = some (fields, rest)) :
    forall entry, entry ∈ fields -> entry.2.isFinite = true := by
  induction steps generalizing seen cs with
  | zero => cases h
  | succ steps ih =>
      unfold fields? at h
      split at h
      · rcases Option.bind_eq_some_iff.mp h with ⟨⟨key, after⟩, _, h⟩
        dsimp only at h
        split at h
        · rcases Option.bind_eq_some_iff.mp h with ⟨⟨first, more⟩, hfirst, h⟩
          have hmore : forall entry, entry ∈ (key, first) :: seen -> entry.2.isFinite = true :=
            List.forall_mem_cons.mpr ⟨hitem _ first more hfirst, hseen⟩
          dsimp only at h
          split at h
          · exact ih hmore h
          · cases h
            intro entry hentry
            exact hmore entry (List.mem_reverse.mp hentry)
          · cases h
        · cases h
      · cases h

end

theorem readsFinite_value_of_inner {limit depth : Nat}
    (hinner : forall inner, depth = inner + 1 -> ReadsFinite (value? limit inner)) :
    ReadsFinite (value? limit depth) := by
  intro cs value rest h
  cases cs with
  | nil =>
      unfold value? at h
      cases h
  | cons c more =>
      unfold value? at h
      split at h
      · rcases Option.map_eq_some_iff.mp h with ⟨found, _, heq⟩
        cases heq
        rfl
      split at h
      · cases depth with
        | zero => cases h
        | succ depth =>
            dsimp only at h
            split at h
            · cases h
              rfl
            · rcases Option.map_eq_some_iff.mp h with ⟨⟨items, after⟩, hitems, heq⟩
              cases heq
              exact itemsFinite_iff.mpr
                (isFinite_of_items (hinner depth rfl) (fun _ hnil => by cases hnil) hitems)
      split at h
      · cases depth with
        | zero => cases h
        | succ depth =>
            dsimp only at h
            split at h
            · cases h
              rfl
            · rcases Option.map_eq_some_iff.mp h with ⟨⟨fields, after⟩, hfields, heq⟩
              cases heq
              have hall :=
                isFinite_of_fields (hinner depth rfl) (fun _ hnil => by cases hnil) hfields
              exact fieldsFinite_iff.mpr (fun entry hentry => hall entry (mem_fieldMap hentry))
      split at h
      · exact readsFinite_word _ rfl _ _ _ h
      split at h
      · exact readsFinite_word _ rfl _ _ _ h
      split at h
      · exact readsFinite_word _ rfl _ _ _ h
      · exact readsFinite_number _ _ _ h

theorem readsFinite_value (limit depth : Nat) : ReadsFinite (value? limit depth) := by
  induction depth with
  | zero => exact readsFinite_value_of_inner (fun inner h => by cases h)
  | succ depth ih =>
      refine readsFinite_value_of_inner (fun inner h => ?_)
      cases h
      exact ih

theorem isFinite_of_parse {text : String} {value : Json} (h : parse? text = some value) :
    value.isFinite = true := by
  unfold parse? at h
  dsimp only at h
  split at h
  · rename_i found rest hfound
    split at h
    · cases h
      exact readsFinite_value _ _ _ _ _ hfound
    · cases h
  · cases h

end Json
end Rollup
