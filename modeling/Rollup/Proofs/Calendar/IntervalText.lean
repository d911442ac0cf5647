import Rollup.Calendar.Interval
import Rollup.Proofs.Number.Whole
import Rollup.Proofs.Text.Case

/-!
# Intervals as texts

An interval that was read is written with a whole number and the symbol of its unit. The
text can be read again and stands for the same interval. Only one minute, hour or day of
constant length is read as a minute, an hour or a day of the calendar.
-/

namespace Rollup
namespace Number

theorem ofNat_beq_one {n : Nat} (hpos : 0 < n) (h : IsShort n)
    (hone : (Float.ofNat n == 1.0) = true) : n = 1 := by
  rcases unpack_of_isShort hpos h with ⟨mantissa, exponent, hmantissa, hunpack, _, hvalue⟩
  have hbeq : (Float.ofNat n).toModel.unpack.beq (1.0 : Float).toModel.unpack = true := hone
  have hunit : (1.0 : Float).toModel.unpack
      = .finite .positive (2 ^ 52) (-52) (Nat.two_pow_pos 52) := rfl
  rw [hunpack, hunit] at hbeq
  have hcompare : (some ((compare exponent (-52)).then (compare mantissa (2 ^ 52)))
      == some .eq) = true := hbeq
  have hequal : (compare exponent (-52)).then (compare mantissa (2 ^ 52)) = .eq := by
    simpa using hcompare
  rw [Ordering.then_eq_eq] at hequal
  have hexponent : exponent = -52 := Int.compare_eq_eq.mp hequal.left
  have hfull : mantissa = 2 ^ 52 := Nat.compare_eq_eq.mp hequal.right
  subst hexponent
  subst hfull
  have hscaled : 2 ^ 52 * 1 = n * 2 ^ 52 := hvalue
  omega

end Number

namespace Calendar
namespace Interval

open Number (IsShort IsDigits)

/-!
# Intervals that were read
-/

/-- A positive number of units that is a float and whose length fits 64 bits. -/
structure IsStep (count : Nat) (unit : FixedUnit) : Prop where
  positive : 0 < count
  short : IsShort count
  fits : count * unit.millis < 2 ^ 63

theorem millis_pos (unit : FixedUnit) : 0 < unit.millis := by
  cases unit <;> decide

theorem IsStep.count_lt {count : Nat} {unit : FixedUnit} (h : IsStep count unit) :
    count < 2 ^ 63 := by
  have hle : count * 1 <= count * unit.millis := Nat.mul_le_mul_left count (millis_pos unit)
  have hfits := h.fits
  omega

theorem isStep_of_ofQuantity? {unit : FixedUnit} {quantity : Float} {interval : Interval}
    (h : ofQuantity? unit quantity = some interval) :
    exists count, interval = .fixed count unit ∧ IsStep count unit := by
  unfold ofQuantity? at h
  split at h
  · cases h
  rename_i hsmall
  dsimp only at h
  split at h
  · rename_i hlength
    cases h
    rw [Bool.and_eq_true, decide_eq_true_eq, decide_eq_true_eq] at hlength
    have hmax : Number.maxInt64 = 2 ^ 63 - 1 := by decide
    generalize hcount : (Number.toInt64By Number.Dyadic.round quantity).toNat = count at hlength ⊢
    have hshort : IsShort count := hcount ▸ Number.isShort_toInt64By_round hsmall
    refine ⟨count, rfl, ?_, hshort, ?_⟩
    · rcases Nat.eq_zero_or_pos count with rfl | hpos
      · simp at hlength
      · exact hpos
    · rw [hmax] at hlength
      have := hlength.right
      omega
  · cases h

theorem parseQuantity_cases {raw unit : String} {quantity : Float} {interval : Interval}
    (h : parseQuantity raw quantity unit = .ok interval) :
    (exists calendarUnit, interval = .calendar calendarUnit)
      ∨ exists count fixedUnit, interval = .fixed count fixedUnit ∧ IsStep count fixedUnit := by
  unfold parseQuantity at h
  dsimp only at h
  split at h
  · cases h
    exact Or.inl ⟨_, rfl⟩
  · cases h
  · cases h
  · split at h
    · cases h
    · split at h
      · rename_i hquantity
        cases h
        rcases isStep_of_ofQuantity? hquantity with ⟨count, rfl, hstep⟩
        exact Or.inr ⟨count, _, rfl, hstep⟩
      · cases h

theorem parse_cases {raw : String} {interval : Interval} (h : parse raw = .ok interval) :
    (exists unit, interval = .calendar unit)
      ∨ exists count unit, interval = .fixed count unit ∧ IsStep count unit := by
  unfold parse at h
  dsimp only at h
  split at h
  · cases h
    exact Or.inl ⟨_, rfl⟩
  · split at h
    · cases h
    · split at h
      · cases h
      · split at h
        · cases h
        · exact parseQuantity_cases h

/-!
# Texts of intervals
-/

theorem isBlank_of_isDigit {c : Char} (h : c.isDigit = true) : Text.isBlank c = false := by
  have hbounds : 48 <= c.toNat ∧ c.toNat <= 57 := Char.isDigit_iff_toNat.mp h
  rw [Bool.eq_false_iff]
  intro hblank
  simp only [Text.isBlank, Bool.or_eq_true, Bool.and_eq_true, decide_eq_true_eq, beq_iff_eq]
    at hblank
  omega

theorem mapCase_of_isDigit {c : Char} (h : c.isDigit = true) :
    Text.mapCase Text.lowerRuns Text.lowerSequences c = [c] := by
  have hascii : c.toNat < 128 := by
    have hbounds : 48 <= c.toNat ∧ c.toNat <= 57 := Char.isDigit_iff_toNat.mp h
    omega
  have hdigits : forall n, n < 128 -> (Char.ofNat n).isDigit = true ->
      (Char.ofNat n).toUpper.toLower = Char.ofNat n := by
    decide +kernel
  rw [Text.mapCase_lower_of_ascii hascii]
  simpa using hdigits c.toNat hascii (by simpa using h)

theorem trim_eq_self {text : String} (h : forall c, c ∈ text.toList -> Text.isBlank c = false) :
    Text.trim text = text := by
  have hdrop : forall cs : List Char, (forall c, c ∈ cs -> Text.isBlank c = false) ->
      cs.dropWhile Text.isBlank = cs := by
    intro cs hcs
    cases cs with
    | nil => rfl
    | cons c rest => rw [List.dropWhile_cons_of_neg (by simp [hcs c List.mem_cons_self])]
  have hreverse : forall c, c ∈ text.toList.reverse -> Text.isBlank c = false :=
    fun c hc => h c (List.mem_reverse.mp hc)
  rw [Text.trim, Text.trimChars, Text.trimStart, hdrop _ h, Text.trimEnd, hdrop _ hreverse,
    List.reverse_reverse, String.ofList_toList]

theorem ofWord?_of_isDigit {text : String} {c : Char} {rest : List Char}
    (htext : text.toList = c :: rest) (hdigit : c.isDigit = true) : Unit.ofWord? text = none := by
  have hwords : forall unit, unit ∈ Unit.all ->
      unit.word.toList.head?.any Char.isDigit = false := by decide
  unfold Unit.ofWord?
  rw [List.find?_eq_none]
  intro unit hunit hsame
  have hword := hwords unit hunit
  rw [beq_iff_eq.mp hsame, Text.lower, String.toList_ofList, htext, List.flatMap_cons,
    mapCase_of_isDigit hdigit] at hword
  rw [List.singleton_append, List.head?_cons, Option.any_some, hdigit] at hword
  cases hword

theorem settle_of_isWhole {unit : FixedUnit} {finer : List FixedUnit} {quantity : Float}
    (h : isWhole quantity = true) : settle (unit :: finer) quantity = some (unit, quantity) := by
  cases finer with
  | nil => rw [settle, if_pos h]
  | cons next rest => rw [settle, if_pos h]

theorem downFrom_symbol (unit : FixedUnit) :
    exists finer, FixedUnit.downFrom unit.symbol = unit :: finer := by
  refine ⟨(FixedUnit.downFrom unit.symbol).tail, ?_⟩
  cases unit <;> decide

theorem parseQuantity_symbol {raw : String} {unit : FixedUnit} {quantity : Float}
    {interval : Interval} (hother : (quantity == 1.0) = false) (hwhole : isWhole quantity = true)
    (hquantity : ofQuantity? unit quantity = some interval) :
    parseQuantity raw quantity unit.symbol = .ok interval := by
  rcases downFrom_symbol unit with ⟨finer, hunits⟩
  unfold parseQuantity
  dsimp only
  rw [hother, hunits]
  cases Unit.ofSymbol? unit.symbol <;> simp only [settle_of_isWhole hwhole, hquantity]

theorem parseQuantity_one {raw : String} {unit : FixedUnit} {quantity : Float}
    {interval : Interval} (hone : (quantity == 1.0) = true) (hwhole : isWhole quantity = true)
    (hquantity : ofQuantity? unit quantity = some interval) :
    parseQuantity raw quantity unit.symbol = .ok interval
      ∨ exists calendarUnit : Unit, calendarUnit.symbol = unit.symbol
          ∧ parseQuantity raw quantity unit.symbol = .ok (.calendar calendarUnit) := by
  rcases downFrom_symbol unit with ⟨finer, hunits⟩
  unfold parseQuantity
  dsimp only
  rw [hone, hunits]
  cases hsymbol : Unit.ofSymbol? unit.symbol with
  | none => exact Or.inl (by simp only [settle_of_isWhole hwhole, hquantity])
  | some calendarUnit =>
      have hfound := List.find?_some hsymbol
      exact Or.inr ⟨calendarUnit, beq_iff_eq.mp hfound, rfl⟩

theorem ofQuantity?_ofNat {count : Nat} {unit : FixedUnit} (h : IsStep count unit) :
    ofQuantity? unit (Float.ofNat count) = some (.fixed count unit) := by
  have hlength : 0 < count * unit.millis := Nat.mul_pos h.positive (millis_pos unit)
  have hmax : Number.maxInt64 = 2 ^ 63 - 1 := by decide
  unfold ofQuantity?
  rw [if_neg (Number.not_maxInt64_le_ofNat h.positive h.short h.count_lt)]
  dsimp only
  rw [Number.toInt64By_round_ofNat h.positive h.short h.count_lt, Int.toNat_natCast, if_pos]
  rw [Bool.and_eq_true, decide_eq_true_eq, decide_eq_true_eq, hmax]
  have := h.fits
  omega

theorem parse_text_fixed {count : Nat} {unit : FixedUnit} (h : IsStep count unit) :
    parse (Interval.fixed count unit).text
      = parseQuantity (Interval.fixed count unit).text (Float.ofNat count) unit.symbol := by
  have hdigits := Number.isDigits_toDigits count
  have htext : (Interval.fixed count unit).text.toList
      = Nat.toDigits 10 count ++ unit.symbol.toList := by
    have hrepr : (toString count).toList = Nat.toDigits 10 count := Nat.toList_repr
    rw [text, String.toList_append, hrepr]
  have hsymbol : unit.symbol.toList.all (fun c => !Text.isBlank c) = true := by
    cases unit <;> rfl
  have hstop : forall c, unit.symbol.toList.head? = some c -> isQuantityChar c = false := by
    cases unit <;> rintro c ⟨⟩ <;> rfl
  have hletters : unit.symbol.toList ≠ [] := by
    cases unit <;> decide
  have htrim : Text.trim (Interval.fixed count unit).text = (Interval.fixed count unit).text := by
    apply trim_eq_self
    intro c hc
    rw [htext, List.mem_append] at hc
    rcases hc with hc | hc
    · exact isBlank_of_isDigit (hdigits.right c hc)
    · simpa using List.all_eq_true.mp hsymbol c hc
  have hword : Unit.ofWord? (Interval.fixed count unit).text = none := by
    rcases List.exists_cons_of_ne_nil hdigits.left with ⟨c, rest, hcons⟩
    rw [hcons, List.cons_append] at htext
    exact ofWord?_of_isDigit htext (hdigits.right c (hcons ▸ List.mem_cons_self))
  have hquantity : forall c, c ∈ Nat.toDigits 10 count -> isQuantityChar c = true := by
    intro c hc
    rw [isQuantityChar, hdigits.right c hc, Bool.true_or]
  have hspan := Number.span_append hquantity hstop
  unfold parse
  dsimp only
  rw [htrim, hword]
  dsimp only
  rw [htext, hspan.left, hspan.right, if_neg hletters,
    Number.readFloat?_toDigits h.positive h.count_lt]
  dsimp only
  rw [if_neg (Number.not_ofNat_le_zero h.positive h.short), String.ofList_toList]

theorem parse_text {raw : String} {interval : Interval} (h : parse raw = .ok interval) :
    parse interval.text = .ok interval
      ∨ exists fixedUnit calendarUnit, interval = .fixed 1 fixedUnit
          ∧ calendarUnit.symbol = fixedUnit.symbol
          ∧ parse interval.text = .ok (.calendar calendarUnit) := by
  rcases parse_cases h with ⟨unit, rfl⟩ | ⟨count, unit, rfl, hstep⟩
  · left
    cases unit <;> decide +kernel
  · have hwhole : isWhole (Float.ofNat count) = true := by
      have := Number.isWhole_ofNat hstep.positive hstep.short
      simpa [isWhole] using this
    have hquantity := ofQuantity?_ofNat hstep
    rw [parse_text_fixed hstep]
    -- A quantity of one is tried as a unit of the calendar first.
    cases hone : Float.ofNat count == 1.0 with
    | false => exact Or.inl (parseQuantity_symbol hone hwhole hquantity)
    | true =>
        have hcount := Number.ofNat_beq_one hstep.positive hstep.short hone
        rcases parseQuantity_one hone hwhole hquantity with hsame | ⟨calendarUnit, hsymbol, hread⟩
        · exact Or.inl hsame
        · exact Or.inr ⟨unit, calendarUnit, by rw [hcount], hsymbol, hread⟩

end Interval
end Calendar
end Rollup
