import Rollup.Calendar.Reading
import Rollup.Proofs.Calendar.Periods

/-!
# Dates that were read

The fields of a text are read within their bounds. The instant made of them lies in a
supported year, and not after the leap second of its minute.
-/

namespace Rollup

/-!
# Optional results as wanted
-/

def IfAny {alpha : Type} (wanted : alpha -> Prop) (x : Option alpha) : Prop :=
  forall a, x = some a -> wanted a

namespace IfAny

variable {alpha beta : Type} {wanted : alpha -> Prop} {next : beta -> Prop}

theorem some {a : alpha} (h : wanted a) : IfAny wanted (some a) := by
  rintro _ ⟨⟩
  exact h

theorem none : IfAny wanted none := by
  rintro _ ⟨⟩

theorem unconditional (x : Option alpha) : IfAny (fun _ => True) x :=
  fun _ _ => trivial

theorem bind {x : Option alpha} {f : alpha -> Option beta} (hx : IfAny wanted x)
    (hf : forall a, wanted a -> IfAny next (f a)) : IfAny next (x >>= f) := by
  intro b hb
  rcases Option.bind_eq_some_iff.mp hb with ⟨a, ha, hfa⟩
  exact hf a (hx a ha) b hfa

theorem map {x : Option alpha} {f : alpha -> beta} (hx : IfAny wanted x)
    (hf : forall a, wanted a -> next (f a)) : IfAny next (x.map f) := by
  intro b hb
  rcases Option.map_eq_some_iff.mp hb with ⟨a, ha, rfl⟩
  exact hf a (hx a ha)

theorem orElse {x y : Option alpha} (hx : IfAny wanted x) (hy : IfAny wanted y) :
    IfAny wanted (x <|> y) := by
  cases x with
  | none => exact hy
  | some a => exact hx

theorem ite {p : Prop} [Decidable p] {x y : Option alpha} (hx : p -> IfAny wanted x)
    (hy : ¬p -> IfAny wanted y) : IfAny wanted (if p then x else y) := by
  split
  · exact hx ‹_›
  · exact hy ‹_›

end IfAny

namespace Number

theorem digitsValue_lt (start : Nat) {digits : List Char}
    (h : forall c, c ∈ digits -> c.isDigit = true) :
    digitsValue start digits < (start + 1) * 10 ^ digits.length := by
  induction digits generalizing start with
  | nil =>
      rw [List.length_nil, Nat.pow_zero, Nat.mul_one]
      exact Nat.lt_succ_self start
  | cons c digits ih =>
      have hdigit : 48 <= c.toNat ∧ c.toNat <= 57 :=
        Char.isDigit_iff_toNat.mp (h c List.mem_cons_self)
      have hrest := ih (10 * start + (c.toNat - 48)) (fun d hd => h d (List.mem_cons_of_mem c hd))
      have hstart : 10 * start + (c.toNat - 48) + 1 <= (start + 1) * 10 := by omega
      calc digitsValue start (c :: digits)
          < (10 * start + (c.toNat - 48) + 1) * 10 ^ digits.length := hrest
        _ <= (start + 1) * 10 * 10 ^ digits.length := Nat.mul_le_mul_right _ hstart
        _ = (start + 1) * 10 ^ (c :: digits).length := by
            rw [List.length_cons, Nat.pow_succ, Nat.mul_assoc, Nat.mul_comm 10]

end Number

namespace Calendar

/-!
# Pieces
-/

theorem ifAny_between (low high value : Nat) :
    IfAny (fun found => low <= found ∧ found <= high) (between low high value) := by
  unfold between
  apply IfAny.ite
  · intro h
    rw [Bool.and_eq_true, decide_eq_true_eq, decide_eq_true_eq] at h
    exact .some h
  · exact fun _ => .none

theorem ifAny_agree {alpha : Type} [DecidableEq alpha] (known : Option alpha) (value : alpha) :
    IfAny (fun found => found = some value) (agree known value) := by
  unfold agree
  split
  · exact .some rfl
  · exact .ite (fun _ => .some rfl) (fun _ => .none)

theorem isDigit_of_mem_takeWhile {cs : List Char} {c : Char} (h : c ∈ cs.takeWhile Char.isDigit) :
    c.isDigit = true :=
  List.all_eq_true.mp (List.all_takeWhile) c h

theorem ifAny_takeNumber (least most : Nat) (cs : List Char) :
    IfAny (fun found => found.1 < 10 ^ most) (takeNumber least most cs) := by
  unfold takeNumber
  apply IfAny.ite
  · exact fun _ => .none
  · intro _
    apply IfAny.some
    have hlength : ((cs.take most).takeWhile Char.isDigit).length <= most :=
      Nat.le_trans (List.takeWhile_sublist _).length_le (List.length_take_le most cs)
    have hvalue := @Number.digitsValue_lt 0 ((cs.take most).takeWhile Char.isDigit)
      (fun _ => isDigit_of_mem_takeWhile)
    rw [Nat.zero_add, Nat.one_mul] at hvalue
    exact Nat.lt_of_lt_of_le hvalue (Nat.pow_le_pow_right (by decide) hlength)

theorem scaled_lt {value digits : Nat} (hdigits : digits <= 9) (h : value < 10 ^ digits) :
    value * 10 ^ (9 - digits) < nanosPerSecond := by
  have hpow : 10 ^ digits * 10 ^ (9 - digits) = nanosPerSecond := by
    rw [<- Nat.pow_add, Nat.add_sub_cancel' hdigits]
    rfl
  rw [<- hpow]
  exact Nat.mul_lt_mul_of_pos_right h (Nat.pow_pos (by decide))

theorem ifAny_takeFraction (cs : List Char) :
    IfAny (fun found => found.1 < nanosPerSecond) (takeFraction cs) := by
  unfold takeFraction
  apply IfAny.ite
  · exact fun _ => .none
  · intro _
    apply IfAny.some
    have hlength : ((cs.takeWhile Char.isDigit).take 9).length <= 9 := List.length_take_le 9 _
    have hvalue := @Number.digitsValue_lt 0 ((cs.takeWhile Char.isDigit).take 9)
      (fun c hc => isDigit_of_mem_takeWhile (List.mem_of_mem_take hc))
    rw [Nat.zero_add, Nat.one_mul] at hvalue
    exact scaled_lt hlength hvalue

/-!
# Fields
-/

namespace Seen

/-- The fields of the time of day are within their bounds. -/
structure InBounds (seen : Seen) : Prop where
  half : IfAny (fun half => half <= 1) seen.half
  halfHour : IfAny (fun hour => hour <= 11) seen.halfHour
  minute : IfAny (fun minute => minute <= 59) seen.minute
  second : IfAny (fun second => second <= 60) seen.second
  nanos : IfAny (fun nanos => nanos < nanosPerSecond) seen.nanos

theorem inBounds_empty : ({} : Seen).InBounds :=
  ⟨.none, .none, .none, .none, .none⟩

variable {seen : Seen}

theorem InBounds.withHour (h : seen.InBounds) (hour : Nat) :
    IfAny InBounds (seen.withHour hour) := by
  refine .bind (ifAny_between 0 23 hour) (fun hour hhour => ?_)
  refine .bind (ifAny_agree _ _) (fun half hhalf => ?_)
  refine .bind (ifAny_agree _ _) (fun halfHour hhalfHour => ?_)
  subst hhalf
  subst hhalfHour
  exact .some ⟨.some (by omega), .some (by omega), h.minute, h.second, h.nanos⟩

theorem InBounds.readField (h : seen.InBounds) (kind : Field) (cs : List Char) :
    IfAny (fun found => found.1.InBounds) (seen.readField kind cs) := by
  cases kind with
  | year =>
      refine .bind (.unconditional _) (fun _ _ => .ite (fun _ => .none) (fun _ => ?_))
      refine .bind (.unconditional _) (fun _ _ => .some ?_)
      exact ⟨h.half, h.halfHour, h.minute, h.second, h.nanos⟩
  | shortYear | monthName _ | weekday _ | offset _ =>
      refine .bind (.unconditional _) (fun _ _ => .bind (.unconditional _) (fun _ _ => ?_))
      exact .some ⟨h.half, h.halfHour, h.minute, h.second, h.nanos⟩
  | month _ | day _ | dayOfYear =>
      refine .bind (.unconditional _) (fun _ _ => .bind (.unconditional _) (fun _ _ => ?_))
      refine .bind (.unconditional _) (fun _ _ => .some ?_)
      exact ⟨h.half, h.halfHour, h.minute, h.second, h.nanos⟩
  | hour _ =>
      refine .bind (.unconditional _) (fun _ _ => .bind (h.withHour _) (fun _ hfound => ?_))
      exact .some hfound
  | halfDayHour _ =>
      refine .bind (.unconditional _) (fun _ _ => .bind (ifAny_between _ _ _) (fun value _ => ?_))
      refine .bind (ifAny_agree _ _) (fun halfHour hhalfHour => ?_)
      subst hhalfHour
      exact .some ⟨h.half, .some (by omega), h.minute, h.second, h.nanos⟩
  | minute _ =>
      refine .bind (.unconditional _) (fun _ _ => ?_)
      refine .bind (ifAny_between _ _ _) (fun value hvalue => ?_)
      refine .bind (ifAny_agree _ _) (fun minute hminute => ?_)
      subst hminute
      exact .some ⟨h.half, h.halfHour, .some hvalue.right, h.second, h.nanos⟩
  | second _ =>
      refine .bind (.unconditional _) (fun _ _ => ?_)
      refine .bind (ifAny_between _ _ _) (fun value hvalue => ?_)
      refine .bind (ifAny_agree _ _) (fun second hsecond => ?_)
      subst hsecond
      exact .some ⟨h.half, h.halfHour, h.minute, .some hvalue.right, h.nanos⟩
  | fraction size =>
      refine .bind (ifAny_takeNumber _ _ _) (fun found hfound => ?_)
      refine .bind (ifAny_agree _ _) (fun nanos hnanos => ?_)
      subst hnanos
      have hdigits : size.digits <= 9 := by cases size <;> decide
      exact .some ⟨h.half, h.halfHour, h.minute, h.second, .some (scaled_lt hdigits hfound)⟩
  | halfDay =>
      unfold Seen.readField
      dsimp only
      split
      · refine .map (ifAny_agree _ _) (fun half hhalf => ?_)
        subst hhalf
        exact ⟨.some (by decide), h.halfHour, h.minute, h.second, h.nanos⟩
      · refine .map (ifAny_agree _ _) (fun half hhalf => ?_)
        subst hhalf
        exact ⟨.some (by decide), h.halfHour, h.minute, h.second, h.nanos⟩
      · exact .none
  | zoneName => exact .some h

theorem InBounds.readFraction (h : seen.InBounds) (cs : List Char) :
    IfAny (fun found => found.1.InBounds) (seen.readFraction cs) := by
  refine .bind (ifAny_takeFraction cs) (fun found hfound => ?_)
  refine .bind (ifAny_agree _ _) (fun nanos hnanos => ?_)
  subst hnanos
  exact .some ⟨h.half, h.halfHour, h.minute, h.second, .some hfound⟩

theorem InBounds.readPart (h : seen.InBounds) (part : PatternPart) (cs : List Char) :
    IfAny (fun found => found.1.InBounds) (seen.readPart part cs) := by
  cases part with
  | literal c =>
      unfold Seen.readPart
      dsimp only
      split
      · exact .ite (fun _ => .some h) (fun _ => .none)
      · exact .none
  | blank c => exact .some h
  | field kind => exact h.readField kind cs
  | optionalFraction =>
      unfold Seen.readPart
      dsimp only
      split
      · exact h.readFraction _
      · exact .some h
  | pointMillis =>
      unfold Seen.readPart
      dsimp only
      split
      · exact h.readField _ _
      · exact .some h

theorem InBounds.readParts (h : seen.InBounds) (parts : List PatternPart) (cs : List Char) :
    IfAny InBounds (seen.readParts parts cs) := by
  induction parts generalizing seen cs with
  | nil => exact .ite (fun _ => .some h) (fun _ => .none)
  | cons part parts ih =>
      unfold Seen.readParts
      split
      · rename_i found rest hfound
        exact ih (h.readPart part cs _ hfound) rest
      · exact .none

end Seen

/-!
# Dates
-/

theorem dayNumber_bounds {date : Date} (h : date.isValid = true) :
    exists index : Nat, index < 12
      ∧ monthStart (date.year * 12 + index) <= date.dayNumber
      ∧ date.dayNumber < monthStart (date.year * 12 + index + 1) := by
  unfold Date.isValid at h
  simp only [Bool.and_eq_true, decide_eq_true_eq] at h
  rcases h with ⟨⟨⟨hfirst, hlast⟩, hday⟩, hlength⟩
  rcases Nat.exists_eq_add_of_le' hfirst with ⟨index, hindex⟩
  have hplace : index < 12 := by omega
  refine ⟨index, hplace, ?_⟩
  rw [hindex] at hlength
  rw [monthStart_succ _ hplace, monthStart_eq _ hplace, daysBeforeMonth_succ _ hplace]
  unfold Date.dayNumber Date.ordinal
  rw [hindex]
  omega

theorem minDay_eq : minDay = monthStart (minYear * 12) := by decide

theorem maxDay_eq : maxDay = monthStart ((maxYear + 1) * 12) - 1 := by decide

theorem dayNumber_supported {date : Date} (h : date.isValid = true) (hmin : minYear <= date.year)
    (hmax : date.year <= maxYear) : minDay <= date.dayNumber ∧ date.dayNumber <= maxDay := by
  rcases dayNumber_bounds h with ⟨index, hindex, hfrom, hto⟩
  have hfirst : monthStart (minYear * 12) <= monthStart (date.year * 12 + index) :=
    strictMono_monthStart.monotone (by omega)
  have hlast : monthStart (date.year * 12 + index + 1) <= monthStart ((maxYear + 1) * 12) :=
    strictMono_monthStart.monotone (by omega)
  rw [minDay_eq, maxDay_eq]
  omega

/-- The instant is in a supported year and not after the leap second. -/
structure Instant.IsProper (instant : Instant) : Prop where
  supported : instant.inRange = true
  nanos : instant.nanos < 2 * nanosPerSecond

theorem ifAny_ofMillis? (millis : Int) : IfAny Instant.IsProper (Instant.ofMillis? millis) := by
  intro instant h
  rcases Instant.ofMillis?_eq_some_iff.mp h with ⟨hsupported, rfl⟩
  constructor
  · exact Instant.inRange_ofMillis.mpr hsupported
  · unfold Instant.ofMillis nanosPerSecond
    dsimp only
    omega

theorem ifAny_checked {instant : Instant} (h : instant.nanos < 2 * nanosPerSecond) :
    IfAny Instant.IsProper instant.checked := by
  intro found hfound
  rcases Instant.checked_eq_some_iff.mp hfound with ⟨hrange, rfl⟩
  exact ⟨hrange, h⟩

namespace Seen

variable {seen : Seen}

theorem ifAny_checkedDate (date : Date) :
    IfAny (fun found => minDay <= found.dayNumber ∧ found.dayNumber <= maxDay)
      (seen.checkedDate date) := by
  apply IfAny.ite
  · intro h
    simp only [Bool.and_eq_true, decide_eq_true_eq] at h
    exact .some (dayNumber_supported h.left.left.left h.left.left.right h.left.right)
  · exact fun _ => .none

theorem ifAny_date? :
    IfAny (fun date => minDay <= date.dayNumber ∧ date.dayNumber <= maxDay) seen.date? := by
  refine .bind (.unconditional _) (fun year _ => ?_)
  split
  · exact ifAny_checkedDate _
  · refine .ite (fun _ => .none) (fun _ => ?_)
    exact .ite (fun _ => ifAny_checkedDate _) (fun _ => .none)
  · exact .none

theorem InBounds.time? (h : seen.InBounds) :
    IfAny (fun time => time.1 < 86400 ∧ time.2 < 2 * nanosPerSecond) seen.time? := by
  refine .bind h.half (fun half hhalf => ?_)
  refine .bind h.halfHour (fun halfHour hhalfHour => ?_)
  refine .bind h.minute (fun minute hminute => ?_)
  refine .ite (fun _ => .none) (fun _ => .some ?_)
  have hnanos : seen.nanos.getD 0 < nanosPerSecond := by
    cases hnanos : seen.nanos with
    | none => decide
    | some nanos => exact h.nanos nanos hnanos
  have hsecond : seen.second.getD 0 <= 60 := by
    cases hsecond : seen.second with
    | none => decide
    | some second => exact h.second second hsecond
  split
  · constructor
    · dsimp only
      omega
    · dsimp only
      omega
  · constructor
    · dsimp only
      omega
    · dsimp only
      omega

theorem InBounds.local? (h : seen.InBounds) : IfAny Instant.IsProper seen.local? := by
  refine .bind ifAny_date? (fun date hdate => ?_)
  refine .bind h.time? (fun time htime => .some ?_)
  constructor
  · rw [Instant.inRange_iff]
    dsimp only
    omega
  · exact htime.right

theorem InBounds.zoned? (h : seen.InBounds) : IfAny Instant.IsProper seen.zoned? := by
  refine .bind (.unconditional _) (fun offset _ => ?_)
  refine .bind h.local? (fun instant hinstant => ?_)
  exact .ite (fun _ => ifAny_checked hinstant.nanos) (fun _ => .none)

end Seen

/-!
# Whole dates
-/

theorem ifAny_readBy (parts : List PatternPart) (cs : List Char) :
    IfAny Instant.IsProper (readBy parts cs) := by
  unfold readBy
  split
  · exact .none
  · rename_i seen hseen
    have h : seen.InBounds := Seen.inBounds_empty.readParts parts cs seen hseen
    refine .orElse h.zoned? (.orElse h.local? (.map Seen.ifAny_date? (fun date hdate => ?_)))
    constructor
    · rw [Instant.inRange_iff]
      unfold Instant.ofDate
      dsimp only
      omega
    · show 0 < 2 * nanosPerSecond
      decide

theorem ifAny_readTimestamp (cs : List Char) : IfAny Instant.IsProper (readTimestamp cs) := by
  unfold readTimestamp
  -- The parts up to the second say nothing of the bounds, which are checked after them.
  iterate 11 refine .bind (.unconditional _) (fun _ _ => ?_)
  refine .bind (ifAny_between 1 12 _) (fun month _ => ?_)
  refine .bind (ifAny_between 1 31 _) (fun day _ => ?_)
  refine .bind (ifAny_between 0 59 _) (fun minute hminute => ?_)
  refine .bind (ifAny_between 0 60 _) (fun second hsecond => ?_)
  refine .bind (Seen.InBounds.withHour ?_ _) (fun seen hseen => ?_)
  · exact ⟨.none, .none, .some hminute.right, .some hsecond.right, .none⟩
  refine .bind (hseen.readPart _ _) (fun found hfound => ?_)
  have hend : forall offset : Int × List Char, IfAny Instant.IsProper
      (if offset.2 = [] then ({ found.1 with offset := some offset.1 } : Seen).zoned?
        else none) := by
    intro offset
    refine .ite (fun _ => Seen.InBounds.zoned? ?_) (fun _ => .none)
    exact ⟨hfound.half, hfound.halfHour, hfound.minute, hfound.second, hfound.nanos⟩
  dsimp only
  split
  · exact .bind (.unconditional _) (fun offset _ => hend offset)
  · exact .bind (.unconditional _) (fun offset _ => hend offset)
  · exact .bind (.unconditional _) (fun offset _ => hend offset)

theorem ifAny_readDate (raw : String) (pattern : Option String) :
    IfAny Instant.IsProper (readDate raw pattern) := by
  have hfallback : IfAny Instant.IsProper (fallbackPatterns.findSome? (fun parts =>
      (({} : Seen).readParts parts (Text.trim raw).toList).bind Seen.local?)) := by
    intro instant hinstant
    rcases List.exists_of_findSome?_eq_some hinstant with ⟨parts, _, hparts⟩
    have hbound := Seen.inBounds_empty.readParts parts (Text.trim raw).toList
    exact IfAny.bind hbound (fun seen hseen => hseen.local?) instant hparts
  unfold readDate
  refine .orElse ?_ (.orElse (ifAny_readTimestamp _) (.orElse hfallback ?_))
  · split
    · exact ifAny_readBy _ _
    · exact .none
  refine .orElse (ifAny_readBy _ _) ?_
  exact .bind (.unconditional _) (fun millis _ => ifAny_ofMillis? millis)

end Calendar
end Rollup
