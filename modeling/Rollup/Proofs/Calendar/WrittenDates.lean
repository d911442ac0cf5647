import Mathlib.Data.List.TakeWhile
import Mathlib.Data.String.Basic
import Rollup.Calendar.Writing
import Rollup.Proofs.Calendar.IntervalText
import Rollup.Proofs.Calendar.ReadDates

/-!
# Dates written and read

A date in the default form is a timestamp in UTC. Each piece of its text is read back for what
was written, so that the whole is the instant again if it has whole milliseconds and a year of
four digits.
-/

namespace Rollup
namespace Calendar

open Number (digitsValue digitsValue_toDigits isDigits_toDigits maxInt64 span_append)

/-!
# Padded numbers
-/

def paddedDigits (width n : Nat) : List Char :=
  List.replicate (width - (Nat.toDigits 10 n).length) '0' ++ Nat.toDigits 10 n

theorem toList_padLeft (width n : Nat) : (padLeft width n).toList = paddedDigits width n := by
  have hdigits : (toString n).toList = Nat.toDigits 10 n := Nat.toList_repr
  unfold padLeft paddedDigits
  dsimp only
  rw [String.toList_append, String.toList_ofList, hdigits, <- String.length_toList, hdigits]

section

variable {width n : Nat}

theorem isDigit_of_mem_paddedDigits {c : Char} (h : c ∈ paddedDigits width n) :
    c.isDigit = true := by
  rcases List.mem_append.mp h with hzero | hdigit
  · rw [List.eq_of_mem_replicate hzero]
    rfl
  · exact (isDigits_toDigits n).right c hdigit

theorem length_paddedDigits (hwidth : 0 < width) (h : n < 10 ^ width) :
    (paddedDigits width n).length = width := by
  have hlength := (Nat.length_toDigits_le_iff (by decide) hwidth).mpr h
  rw [paddedDigits, List.length_append, List.length_replicate]
  omega

theorem digitsValue_paddedDigits : digitsValue 0 (paddedDigits width n) = n := by
  have hzeros : forall count, digitsValue 0 (List.replicate count '0') = 0 := by
    intro count
    induction count with
    | zero => rfl
    | succ count ih => exact ih
  calc digitsValue 0 (paddedDigits width n)
      = digitsValue (digitsValue 0 (List.replicate (width - (Nat.toDigits 10 n).length) '0'))
          (Nat.toDigits 10 n) := List.foldl_append
    _ = n := by rw [hzeros, digitsValue_toDigits]

theorem takeNumber_paddedDigits (hwidth : 0 < width) (h : n < 10 ^ width) (hfits : n <= maxInt64)
    (rest : List Char) :
    takeNumber width width (paddedDigits width n ++ rest) = some (n, rest) := by
  have hlength := length_paddedDigits hwidth h
  have htake : (paddedDigits width n ++ rest).take width = paddedDigits width n :=
    List.take_left' hlength
  have hdigits : (paddedDigits width n).takeWhile Char.isDigit = paddedDigits width n :=
    List.takeWhile_eq_self_iff.mpr (fun _ => isDigit_of_mem_paddedDigits)
  unfold takeNumber
  dsimp only
  rw [htake, hdigits, digitsValue_paddedDigits, hlength, List.drop_left' hlength, if_neg]
  simpa using hfits

theorem takeTwo_paddedDigits (h : n < 100) (rest : List Char) :
    takeTwo (paddedDigits 2 n ++ rest) = some (n, rest) := by
  refine takeNumber_paddedDigits (by decide) h ?_ rest
  unfold maxInt64
  omega

theorem takeFraction_paddedDigits (h : n < 1000) {rest : List Char}
    (hrest : forall c, rest.head? = some c -> c.isDigit = false) :
    takeFraction (paddedDigits 3 n ++ rest) = some (n * 1000000, rest) := by
  have hlength : (paddedDigits 3 n).length = 3 := length_paddedDigits (by decide) h
  have hne : paddedDigits 3 n ≠ [] := by
    intro hnil
    rw [hnil] at hlength
    cases hlength
  have htake : (paddedDigits 3 n).take 9 = paddedDigits 3 n := List.take_of_length_le (by omega)
  unfold takeFraction
  dsimp only
  rw [(span_append (fun _ => isDigit_of_mem_paddedDigits) hrest).left, htake, if_neg hne,
    digitsValue_paddedDigits, hlength, List.drop_left' hlength]

end

/-!
# Days
-/

theorem daysInMonth_le (year : Int) (month : Nat) : daysInMonth year month <= 31 := by
  have hlengths : forall length, length ∈ monthLengths year -> length <= 31 := by
    unfold monthLengths
    cases isLeapYear year <;> decide
  unfold daysInMonth
  rw [List.getD_eq_getElem?_getD]
  cases hlength : (monthLengths year)[month - 1]? with
  | none => exact Nat.zero_le 31
  | some length => exact hlengths length (List.mem_of_getElem? hlength)

theorem isValid_ofDayNumber (day : Int) : (Date.ofDayNumber day).isValid = true := by
  rcases ofDayNumber_spec day with ⟨year, index, rest, hindex, hdate, hday, hnext⟩
  rw [monthStart_succ year hindex, daysBeforeMonth_succ year hindex] at hnext
  rw [monthStart_eq year hindex] at hday
  rw [hdate]
  unfold Date.isValid
  simp only [Bool.and_eq_true, decide_eq_true_eq]
  omega

theorem dayNumber_ofDayNumber (day : Int) : (Date.ofDayNumber day).dayNumber = day := by
  rcases ofDayNumber_spec day with ⟨year, index, rest, hindex, hdate, hday, _⟩
  rw [monthStart_eq year hindex] at hday
  rw [hdate]
  unfold Date.dayNumber Date.ordinal
  dsimp only
  omega

/-!
# Texts of instants
-/

def timestampText (year month day hour minute second millis : Nat) : List Char :=
  paddedDigits 4 year ++ '-' :: paddedDigits 2 month ++ '-' :: paddedDigits 2 day
    ++ 'T' :: paddedDigits 2 hour ++ ':' :: paddedDigits 2 minute ++ ':' :: paddedDigits 2 second
    ++ '.' :: paddedDigits 3 millis ++ ['Z']

namespace Instant

/-- The clock can show the instant: a leap second comes at the end of a minute. -/
def IsOnClock (instant : Instant) : Prop :=
  instant.nanos < nanosPerSecond
    ∨ (instant.nanos < 2 * nanosPerSecond ∧ instant.seconds % 60 = 59)

variable {instant : Instant}

def millisOfSecond (instant : Instant) : Nat :=
  instant.nanos % nanosPerSecond / 1000000

theorem toList_write_default (hfrom : 0 <= instant.date.year) (hto : instant.date.year <= 9999) :
    (instant.write defaultPattern).toList
      = timestampText instant.date.year.natAbs instant.date.month instant.date.day
          (instant.secondOfDay / 3600) (instant.secondOfDay / 60 % 60) instant.secondOfMinute
          instant.millisOfSecond := by
  have hyear : writeYear instant.date.year = padLeft 4 instant.date.year.natAbs := by
    unfold writeYear
    rw [if_neg (Int.not_lt.mpr hfrom), if_neg (Int.not_lt.mpr hto)]
  unfold Instant.write defaultPattern dayPattern clockPattern secondPattern timestampText
  rw [String.join_eq, String.toList_ofList]
  simp only [List.map_cons, List.map_nil, List.cons_append, List.nil_append, List.append_assoc,
    writePart, writeField, padIf, if_true, hyear, toList_padLeft, String.toList_append,
    String.toList_singleton, List.flatten_cons, List.flatten_nil, List.append_nil, millisOfSecond]
  rfl

end Instant

/-!
# Reading the text
-/

theorem expectChar_self (c : Char) (rest : List Char) : expectChar c (c :: rest) = some rest :=
  if_pos rfl

theorem between_of_le {low high value : Nat} (hlow : low <= value) (hhigh : value <= high) :
    between low high value = some value := by
  rw [between, decide_eq_true hlow, decide_eq_true hhigh]
  rfl

def timestampSeen (year month day hour minute second millis : Nat) : Seen :=
  { year := some (year : Int)
    month := some month
    day := some day
    half := some (hour / 12)
    halfHour := some (hour % 12)
    minute := some minute
    second := some second
    nanos := some (millis * 1000000)
    offset := some 0 }

theorem bind_of_some {alpha beta : Type} {x : Option alpha} {a : alpha} (h : x = some a)
    (f : alpha -> Option beta) : (x >>= f) = f a := by
  rw [h]
  rfl

theorem Seen.withHour_of_open {seen : Seen} {hour : Nat} (hhalf : seen.half = none)
    (hhalfHour : seen.halfHour = none) (h : hour <= 23) :
    seen.withHour hour
      = some { seen with half := some (hour / 12), halfHour := some (hour % 12) } := by
  unfold Seen.withHour
  refine (bind_of_some (between_of_le (Nat.zero_le hour) h) _).trans ?_
  rw [hhalf, hhalfHour]
  rfl

theorem Seen.readPart_fraction {seen : Seen} {millis : Nat} (hnanos : seen.nanos = none)
    (h : millis < 1000) {rest : List Char}
    (hrest : forall c, rest.head? = some c -> c.isDigit = false) :
    seen.readPart .optionalFraction ('.' :: (paddedDigits 3 millis ++ rest))
      = some ({ seen with nanos := some (millis * 1000000) }, rest) := by
  refine (bind_of_some (takeFraction_paddedDigits h hrest) _).trans ?_
  rw [hnanos]
  rfl

theorem readTimestamp_timestampText {year month day hour minute second millis : Nat}
    (hyear : year < 10000) (hmonth : 1 <= month ∧ month <= 12) (hday : 1 <= day ∧ day <= 31)
    (hhour : hour <= 23) (hminute : minute <= 59) (hsecond : second <= 60)
    (hmillis : millis < 1000) :
    readTimestamp (timestampText year month day hour minute second millis)
      = (timestampSeen year month day hour minute second millis).zoned? := by
  have hfits : (year : Int) <= maxInt64 := by
    unfold maxInt64
    omega
  have hstop : forall c, ['Z'].head? = some c -> c.isDigit = false := by
    rintro c ⟨⟩
    rfl
  unfold readTimestamp timestampText
  simp only [List.append_assoc, List.cons_append]
  refine (bind_of_some (takeNumber_paddedDigits (by decide) hyear hfits _) _).trans ?_
  refine (bind_of_some (expectChar_self _ _) _).trans ?_
  refine (bind_of_some (takeTwo_paddedDigits (by omega) _) _).trans ?_
  refine (bind_of_some (expectChar_self _ _) _).trans ?_
  refine (bind_of_some (takeTwo_paddedDigits (by omega) _) _).trans ?_
  refine (bind_of_some (congrArg (fun x => x <|> _) (expectChar_self _ _)) _).trans ?_
  refine (bind_of_some (takeTwo_paddedDigits (by omega) _) _).trans ?_
  refine (bind_of_some (expectChar_self _ _) _).trans ?_
  refine (bind_of_some (takeTwo_paddedDigits (by omega) _) _).trans ?_
  refine (bind_of_some (expectChar_self _ _) _).trans ?_
  refine (bind_of_some (takeTwo_paddedDigits (by omega) _) _).trans ?_
  refine (bind_of_some (between_of_le hmonth.left hmonth.right) _).trans ?_
  refine (bind_of_some (between_of_le hday.left hday.right) _).trans ?_
  refine (bind_of_some (between_of_le (Nat.zero_le minute) hminute) _).trans ?_
  refine (bind_of_some (between_of_le (Nat.zero_le second) hsecond) _).trans ?_
  refine (bind_of_some (Seen.withHour_of_open rfl rfl hhour) _).trans ?_
  refine (bind_of_some (Seen.readPart_fraction rfl hmillis hstop) _).trans ?_
  rfl

/-!
# The instant of the text
-/

section

variable {instant : Instant}

theorem date?_timestampSeen {date : Date} (hvalid : date.isValid = true) (hfrom : 0 <= date.year)
    (hto : date.year <= 9999) (hour minute second millis : Nat) :
    (timestampSeen date.year.natAbs date.month date.day hour minute second millis).date?
      = some date := by
  have hyear : (date.year.natAbs : Int) = date.year := Int.natAbs_of_nonneg hfrom
  have hsupported : (date.isValid && decide (minYear <= date.year) && decide (date.year <= maxYear)
      && (timestampSeen date.year.natAbs date.month date.day hour minute second millis).agreesWith
          date) = true := by
    unfold Seen.agreesWith minYear maxYear
    simp only [hvalid, timestampSeen, Option.getD_none, beq_self_eq_true, Bool.and_true,
      Bool.true_and, Bool.and_eq_true, decide_eq_true_eq]
    omega
  have hdate : (timestampSeen date.year.natAbs date.month date.day hour minute second millis).date?
      = (timestampSeen date.year.natAbs date.month date.day hour minute second millis).checkedDate
          { year := date.year.natAbs, month := date.month, day := date.day } :=
    rfl
  rw [hdate, hyear]
  exact if_pos hsupported

theorem time?_timestampSeen (hclock : instant.IsOnClock) (year month day : Nat) :
    (timestampSeen year month day (instant.secondOfDay / 3600) (instant.secondOfDay / 60 % 60)
        instant.secondOfMinute instant.millisOfSecond).time?
      = some (instant.secondOfDay, instant.nanos / 1000000 * 1000000) := by
  have hday : instant.secondOfDay < 86400 := by
    unfold Instant.secondOfDay
    omega
  have htime : (timestampSeen year month day (instant.secondOfDay / 3600)
      (instant.secondOfDay / 60 % 60) instant.secondOfMinute instant.millisOfSecond).time?
        = some (if instant.secondOfMinute = 60 then
            ((instant.secondOfDay / 3600 / 12 * 12 + instant.secondOfDay / 3600 % 12) * 3600
                + instant.secondOfDay / 60 % 60 * 60 + 59,
              nanosPerSecond + instant.millisOfSecond * 1000000)
          else
            ((instant.secondOfDay / 3600 / 12 * 12 + instant.secondOfDay / 3600 % 12) * 3600
                + instant.secondOfDay / 60 % 60 * 60 + instant.secondOfMinute,
              instant.millisOfSecond * 1000000)) :=
    rfl
  rw [htime]
  congr 1
  unfold Instant.IsOnClock nanosPerSecond at hclock
  unfold Instant.secondOfMinute Instant.millisOfSecond nanosPerSecond
  by_cases hleap : instant.nanos < 1000000000
  · rw [if_neg (by omega)]
    refine Prod.ext ?_ ?_
    · dsimp only
      omega
    · dsimp only
      omega
  -- A leap second is written as second 60, which is read as second 59 with a second of nanoseconds.
  · have hlast : instant.secondOfDay % 60 = 59 := by
      unfold Instant.secondOfDay
      omega
    rw [if_pos (by omega)]
    refine Prod.ext ?_ ?_
    · dsimp only
      omega
    · dsimp only
      omega

theorem zoned?_timestampSeen (hclock : instant.IsOnClock) (hfrom : 0 <= instant.date.year)
    (hto : instant.date.year <= 9999) :
    (timestampSeen instant.date.year.natAbs instant.date.month instant.date.day
        (instant.secondOfDay / 3600) (instant.secondOfDay / 60 % 60) instant.secondOfMinute
        instant.millisOfSecond).zoned?
      = some { instant with nanos := instant.nanos / 1000000 * 1000000 } := by
  have hvalid : instant.date.isValid = true := isValid_ofDayNumber _
  have hday : instant.date.dayNumber = instant.dayNumber := dayNumber_ofDayNumber _
  have hseconds : instant.date.dayNumber * 86400 + instant.secondOfDay = instant.seconds := by
    rw [hday]
    unfold Instant.dayNumber Instant.secondOfDay
    omega
  have hrange : instant.inRange = true := by
    have hsupported :=
      dayNumber_supported hvalid (by unfold minYear; omega) (by unfold maxYear; omega)
    rw [hday] at hsupported
    exact Instant.inRange_iff.mpr hsupported
  have hlocal : (timestampSeen instant.date.year.natAbs instant.date.month instant.date.day
      (instant.secondOfDay / 3600) (instant.secondOfDay / 60 % 60) instant.secondOfMinute
      instant.millisOfSecond).local?
        = some { instant with nanos := instant.nanos / 1000000 * 1000000 } := by
    refine (bind_of_some (date?_timestampSeen hvalid hfrom hto _ _ _ _) _).trans ?_
    refine (bind_of_some (time?_timestampSeen hclock _ _ _) _).trans ?_
    dsimp only
    rw [hseconds]
    rfl
  refine (bind_of_some rfl _).trans ((bind_of_some hlocal _).trans ?_)
  rw [if_pos (by decide)]
  exact Instant.checked_eq_some_iff.mpr ⟨by rw [Int.sub_zero]; exact hrange, by rw [Int.sub_zero]⟩

theorem readTimestamp_write (hclock : instant.IsOnClock) (hfrom : 0 <= instant.date.year)
    (hto : instant.date.year <= 9999) :
    readTimestamp (instant.write defaultPattern).toList
      = some { instant with nanos := instant.nanos / 1000000 * 1000000 } := by
  have hvalid : instant.date.isValid = true := isValid_ofDayNumber _
  unfold Date.isValid at hvalid
  simp only [Bool.and_eq_true, decide_eq_true_eq] at hvalid
  have hlength := daysInMonth_le instant.date.year instant.date.month
  rw [Instant.toList_write_default hfrom hto, readTimestamp_timestampText,
    zoned?_timestampSeen hclock hfrom hto]
  · omega
  · omega
  · omega
  · unfold Instant.secondOfDay
    omega
  · omega
  · unfold Instant.secondOfMinute
    unfold Instant.IsOnClock at hclock
    unfold nanosPerSecond at *
    omega
  · unfold Instant.millisOfSecond nanosPerSecond
    omega

theorem mem_timestampText {year month day hour minute second millis : Nat} {c : Char}
    (h : c ∈ timestampText year month day hour minute second millis) :
    c.isDigit = true ∨ c ∈ ['-', 'T', ':', '.', 'Z'] := by
  have hdigits : forall width n, c ∈ paddedDigits width n -> c.isDigit = true :=
    fun _ _ => isDigit_of_mem_paddedDigits
  simp only [timestampText, List.mem_append, List.mem_cons, List.not_mem_nil, or_false] at h ⊢
  grind

theorem isBlank_of_mem_write (hfrom : 0 <= instant.date.year) (hto : instant.date.year <= 9999)
    {c : Char} (h : c ∈ (instant.write defaultPattern).toList) : Text.isBlank c = false := by
  have hmarks : ['-', 'T', ':', '.', 'Z'].all (fun mark => !Text.isBlank mark) = true := by decide
  rw [Instant.toList_write_default hfrom hto] at h
  rcases mem_timestampText h with hdigit | hmark
  · exact Interval.isBlank_of_isDigit hdigit
  · simpa using List.all_eq_true.mp hmarks c hmark

/-- A date of the years 0 to 9999 with whole milliseconds is read back from its default form. -/
theorem readDate_format_default (hclock : instant.IsOnClock) (hmillis : instant.nanos % 1000000 = 0)
    (hfrom : 0 <= instant.date.year) (hto : instant.date.year <= 9999) :
    exists text, instant.format none = .ok text ∧ readDate text none = some instant := by
  have hnanos : instant.nanos / 1000000 * 1000000 = instant.nanos := by omega
  have htrim : Text.trim (instant.write defaultPattern) = instant.write defaultPattern :=
    Interval.trim_eq_self (fun c => isBlank_of_mem_write hfrom hto)
  refine ⟨instant.write defaultPattern, rfl, ?_⟩
  unfold readDate
  dsimp only
  rw [htrim, readTimestamp_write hclock hfrom hto, hnanos]
  rfl

theorem readDate_format_leapDay :
    ({ seconds := -62162035201, nanos := 1999000000 } : Instant).date.year = 0
      ∧ ({ seconds := -62162035201, nanos := 1999000000 } : Instant).format none
        = .ok "0000-02-29T23:59:60.999Z"
      ∧ readDate "0000-02-29T23:59:60.999Z" none
        = some { seconds := -62162035201, nanos := 1999000000 } := by
  have hclock : ({ seconds := -62162035201, nanos := 1999000000 } : Instant).IsOnClock :=
    Or.inr ⟨by decide, by decide⟩
  rcases readDate_format_default hclock (by decide) (by decide) (by decide) with
    ⟨text, htext, hread⟩
  have hwritten : ({ seconds := -62162035201, nanos := 1999000000 } : Instant).format none
      = .ok "0000-02-29T23:59:60.999Z" := by decide +kernel
  cases hwritten.symm.trans htext
  exact ⟨by decide, hwritten, hread⟩

end

end Calendar
end Rollup
