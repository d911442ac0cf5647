import Mathlib.Algebra.Order.Monoid.NatCast
import Rollup.Proofs.Calendar.ReadDates

/-!
# Periods tile the time line

Flooring an instant gives the start of a period, and advancing the start gives the start of
the next one. The periods between hold the instants that are floored to their starts, with
one exception: minutes, hours, days and weeks count milliseconds, in which a leap second is
the second after it. A leap second at the end of such a period is floored to the next one.
-/

namespace Rollup
namespace Calendar

/-!
# The calendar from day to day
-/

def Date.following (date : Date) : Date :=
  if date.day < daysInMonth date.year date.month then
    { date with day := date.day + 1 }
  else if date.month < 12 then
    { year := date.year, month := date.month + 1, day := 1 }
  else
    { year := date.year + 1, month := 1, day := 1 }

theorem ofDayNumber_of_month {year : Int} {index rest : Nat} (hindex : index < 12)
    (hrest : monthStart (year * 12 + index) + rest < monthStart (year * 12 + index + 1)) :
    Date.ofDayNumber (monthStart (year * 12 + index) + rest)
      = { year := year, month := index + 1, day := rest + 1 } := by
  rcases ofDayNumber_spec (monthStart (year * 12 + index) + rest) with
    ⟨otherYear, otherIndex, otherRest, hotherIndex, hdate, hday, hnext⟩
  have hfrom : year * 12 + index < otherYear * 12 + otherIndex + 1 := by
    apply strictMono_monthStart.lt_iff_lt.mp
    omega
  have hto : otherYear * 12 + otherIndex < year * 12 + index + 1 := by
    apply strictMono_monthStart.lt_iff_lt.mp
    omega
  have hyear : otherYear = year := by omega
  have hplace : otherIndex = index := by omega
  subst hyear
  subst hplace
  have hsame : otherRest = rest := by omega
  rw [hdate, hsame]

theorem monthStart_add_length (year : Int) {index : Nat} (h : index < 12) :
    monthStart (year * 12 + index + 1)
      = monthStart (year * 12 + index) + daysInMonth year (index + 1) := by
  rw [monthStart_succ year h, monthStart_eq year h, daysBeforeMonth_succ year h]
  omega

theorem ofDayNumber_succ (day : Int) :
    Date.ofDayNumber (day + 1) = (Date.ofDayNumber day).following := by
  rcases ofDayNumber_spec day with ⟨year, index, rest, hindex, hdate, hday, hnext⟩
  have hlength := monthStart_add_length year hindex
  rw [hdate]
  unfold Date.following
  dsimp only
  by_cases hinside : rest + 1 < daysInMonth year (index + 1)
  · have hsucc : day + 1 = monthStart (year * 12 + index) + (rest + 1 : Nat) := by omega
    rw [if_pos hinside, hsucc, ofDayNumber_of_month hindex (by omega)]
  · -- The day is the last of its month, so the next one is the first of the next month.
    have hsucc : day + 1 = monthStart (year * 12 + index + 1) := by omega
    rw [if_neg hinside, hsucc, ofDayNumber_monthStart]
    by_cases hyear : index + 1 < 12
    · have hmonth : year * 12 + index + 1 = year * 12 + (index + 1 : Nat) := by omega
      rw [if_pos hyear, hmonth, firstOfMonth_eq year hyear]
    · have hmonth : year * 12 + index + 1 = (year + 1) * 12 + (0 : Nat) := by omega
      rw [if_neg hyear, hmonth, firstOfMonth_eq (year + 1) (Nat.succ_pos 11)]

/-!
# Starts of periods
-/

theorem Unit.start_mod (unit : Unit) (period : Int) : unit.start period % 60000 = 0 := by
  cases unit <;> simp only [Unit.start] <;> omega

namespace Instant

theorem ofMillis_start (unit : Unit) (period : Int) :
    ofMillis (unit.start period) = { seconds := unit.start period / 1000, nanos := 0 } := by
  have hwhole := unit.start_mod period
  have hrest : (unit.start period % 1000).toNat = 0 := by omega
  unfold ofMillis
  rw [hrest]

/-- What begins with the periods of a unit: weeks on Monday, months on their first day, quarters
in January, April, July and October. -/
def Begins (instant : Instant) : Unit -> Prop
  | .minute => instant.nanos = 0 ∧ instant.seconds % 60 = 0
  | .hour => instant.nanos = 0 ∧ instant.seconds % 3600 = 0
  | .day => instant.nanos = 0 ∧ instant.secondOfDay = 0
  | .week => instant.nanos = 0 ∧ instant.secondOfDay = 0 ∧ weekdayIndex instant.dayNumber = 0
  | .month => instant.nanos = 0 ∧ instant.secondOfDay = 0 ∧ instant.date.day = 1
  | .quarter => instant.nanos = 0 ∧ instant.secondOfDay = 0 ∧ instant.date.day = 1
      ∧ (instant.date.month = 1 ∨ instant.date.month = 4 ∨ instant.date.month = 7
        ∨ instant.date.month = 10)
  | .year => instant.nanos = 0 ∧ instant.secondOfDay = 0 ∧ instant.date.day = 1
      ∧ instant.date.month = 1

theorem date_monthStart (month : Int) :
    date { seconds := monthStart month * 86400000 / 1000, nanos := 0 } = firstOfMonth month := by
  have hday : monthStart month * 86400000 / 1000 / 86400 = monthStart month := by omega
  unfold date dayNumber
  rw [hday, ofDayNumber_monthStart]

theorem begins_start (unit : Unit) (period : Int) : (ofMillis (unit.start period)).Begins unit := by
  rw [ofMillis_start]
  cases unit with
  | minute | hour =>
      simp only [Begins, Unit.start, true_and]
      omega
  | day | week =>
      simp only [Begins, Unit.start, secondOfDay, dayNumber, weekdayIndex, true_and]
      omega
  | month | quarter | year =>
      simp only [Begins, Unit.start, secondOfDay, date_monthStart, firstOfMonth, true_and, and_true]
      omega

/-!
# Order of instants
-/

theorem isFrom_iff {instant : Instant} {seconds : Int} :
    instant.isFrom { seconds := seconds, nanos := 0 } = true <-> seconds <= instant.seconds := by
  unfold isFrom Instant.compare
  dsimp only
  rw [bne_iff_ne, Ne, Ordering.then_eq_lt, Int.compare_eq_lt, Nat.compare_eq_lt]
  omega

theorem isBefore_iff {instant : Instant} {seconds : Int} :
    instant.isBefore { seconds := seconds, nanos := 0 } = true <-> instant.seconds < seconds := by
  unfold isBefore Instant.compare
  dsimp only
  rw [beq_iff_eq, Ordering.then_eq_lt, Int.compare_eq_lt, Nat.compare_eq_lt]
  omega

theorem isFrom_start {instant : Instant} {unit : Unit} {period : Int} :
    instant.isFrom (ofMillis (unit.start period)) = true
      <-> unit.start period <= instant.seconds * 1000 := by
  have hwhole := unit.start_mod period
  rw [ofMillis_start, isFrom_iff]
  omega

theorem isBefore_start {instant : Instant} {unit : Unit} {period : Int} :
    instant.isBefore (ofMillis (unit.start period)) = true
      <-> instant.seconds * 1000 < unit.start period := by
  have hwhole := unit.start_mod period
  rw [ofMillis_start, isBefore_iff]
  omega

end Instant

/-!
# Places of instants
-/

def Unit.countsMillis : Unit -> Bool
  | .minute | .hour | .day | .week => true
  | .month | .quarter | .year => false

namespace Instant

def place (instant : Instant) (unit : Unit) : Int :=
  if unit.countsMillis then instant.millis else instant.seconds * 1000

theorem date_ofMillis_seconds (instant : Instant) :
    (ofMillis (instant.seconds * 1000)).date = instant.date := by
  have hday : instant.seconds * 1000 / 86400000 = instant.seconds / 86400 := by omega
  unfold date
  rw [dayNumber_ofMillis, hday]
  rfl

theorem floor?_eq_place (instant : Instant) (unit : Unit) :
    instant.floor? unit = (ofMillis (instant.place unit)).floor? unit := by
  cases unit with
  | minute | hour | day | week =>
      simp only [floor?, place, Unit.countsMillis, if_true, floorMillis?, millis_ofMillis]
  | month | quarter | year =>
      simp only [floor?, place, Unit.countsMillis, Bool.false_eq_true, if_false,
        date_ofMillis_seconds]

theorem isSupported_place {instant start : Instant} {unit : Unit} (hinstant : instant.IsProper)
    (h : instant.floor? unit = some start) : IsSupported (instant.place unit) := by
  have hrange := inRange_iff.mp hinstant.supported
  rw [floor?_eq_place] at h
  cases unit with
  | minute | hour | day =>
      simp only [floor?, floorMillis?_ofMillis] at h
      have hsupported := (ofMillis?_eq_some_iff.mp h).left
      unfold IsSupported at hsupported ⊢
      omega
  | week =>
      simp only [floor?, floorMillis?_ofMillis] at h
      split at h
      · cases h
      · rename_i day hday
        have hsupported := (ofMillis?_eq_some_iff.mp hday).left
        unfold IsSupported at hsupported ⊢
        omega
  | month | quarter | year =>
      simp only [place, Unit.countsMillis, Bool.false_eq_true, if_false]
      unfold IsSupported
      omega

theorem exists_period_of_floor? {instant start : Instant} {unit : Unit}
    (hinstant : instant.IsProper) (h : instant.floor? unit = some start) :
    exists period, IsSupported (unit.start period) ∧ ofMillis (unit.start period) = start
      ∧ unit.start period <= instant.place unit
      ∧ instant.place unit < unit.start (period + 1) := by
  rcases floor?_start (isSupported_place hinstant h) unit with ⟨period, hfrom, hto, hfloor⟩
  rw [<- floor?_eq_place, h] at hfloor
  rcases ofMillis?_eq_some_iff.mp hfloor.symm with ⟨hsupported, hstart⟩
  exact ⟨period, hsupported, hstart, hfrom, hto⟩

theorem floor?_of_place {instant : Instant} {unit : Unit} {period : Int}
    (hstart : IsSupported (unit.start period)) (hplace : IsSupported (instant.place unit))
    (hfrom : unit.start period <= instant.place unit)
    (hto : instant.place unit < unit.start (period + 1)) :
    instant.floor? unit = some (ofMillis (unit.start period)) := by
  rcases floor?_start hplace unit with ⟨other, hfromOther, htoOther, hfloor⟩
  have hmono := unit.strictMono_start
  have hle : period < other + 1 := hmono.lt_iff_lt.mp (lt_of_le_of_lt hfrom htoOther)
  have hge : other < period + 1 := hmono.lt_iff_lt.mp (lt_of_le_of_lt hfromOther hto)
  have hsame : other = period := by omega
  rw [floor?_eq_place, hfloor, hsame, ofMillis?_of_isSupported hstart]

theorem place_start (unit : Unit) (period : Int) :
    (ofMillis (unit.start period)).place unit = unit.start period := by
  have hwhole := unit.start_mod period
  unfold place
  split
  · exact millis_ofMillis _
  · rw [ofMillis_start]
    dsimp only
    omega

theorem floor?_ofMillis_start {unit : Unit} {period : Int}
    (h : IsSupported (unit.start period)) :
    (ofMillis (unit.start period)).floor? unit = some (ofMillis (unit.start period)) := by
  have hplace := place_start unit period
  apply floor?_of_place h
  · rw [hplace]
    exact h
  · rw [hplace]
  · rw [hplace]
    exact unit.strictMono_start (lt_add_one period)

/-!
# Leap seconds
-/

/-- The instant lies in a leap second that the unit takes for the first second of the period
after it. -/
def SlipsOut (instant : Instant) (unit : Unit) : Prop :=
  unit.countsMillis = true ∧ nanosPerSecond <= instant.nanos
    ∧ exists period, unit.start period = (instant.seconds + 1) * 1000

theorem place_bounds {instant : Instant} (h : instant.IsProper) (unit : Unit) :
    instant.seconds * 1000 <= instant.place unit
      ∧ instant.place unit < (instant.seconds + 2) * 1000
      ∧ ((instant.seconds + 1) * 1000 <= instant.place unit
        <-> unit.countsMillis = true ∧ nanosPerSecond <= instant.nanos) := by
  have hnanos := h.nanos
  unfold nanosPerSecond at hnanos ⊢
  unfold place
  split
  · rename_i hcounts
    simp only [hcounts, true_and]
    unfold millis
    omega
  · rename_i hcounts
    rw [Bool.not_eq_true] at hcounts
    rw [hcounts]
    simp only [Bool.false_eq_true, false_and, iff_false]
    omega

section Periods

variable {instant : Instant} (hinstant : instant.IsProper) {unit : Unit} {period : Int}
include hinstant

theorem start_le_seconds_iff (hfrom : unit.start period <= instant.place unit)
    (hto : instant.place unit < unit.start (period + 1)) :
    unit.start period <= instant.seconds * 1000 <-> ¬instant.SlipsOut unit := by
  rcases place_bounds hinstant unit with ⟨_, hbelow, hleap⟩
  have hwhole := unit.start_mod period
  constructor
  · intro hstart hslips
    rcases hslips with ⟨hcounts, hnanos, other, hother⟩
    have hpast := hleap.mpr ⟨hcounts, hnanos⟩
    have hmono := unit.strictMono_start
    have hge : period < other := hmono.lt_iff_lt.mp (by omega)
    have hle : other < period + 1 := hmono.lt_iff_lt.mp (by omega)
    omega
  · intro hslips
    by_contra hnot
    have hpast := hleap.mp (by omega)
    exact hslips ⟨hpast.left, hpast.right, period, by omega⟩

theorem place_lt_start_iff (hfrom : unit.start period <= instant.seconds * 1000)
    (hto : instant.seconds * 1000 < unit.start (period + 1)) :
    instant.place unit < unit.start (period + 1) <-> ¬instant.SlipsOut unit := by
  rcases place_bounds hinstant unit with ⟨habove, hbelow, hleap⟩
  have hwhole := unit.start_mod (period + 1)
  constructor
  · intro hplace
    exact (start_le_seconds_iff hinstant (le_trans hfrom habove) hplace).mp hfrom
  · intro hslips
    by_contra hnot
    have hpast := hleap.mp (by omega)
    exact hslips ⟨hpast.left, hpast.right, period + 1, by omega⟩

end Periods

/-- The period from a start to the next, to which a date was floored. -/
structure IsTile (unit : Unit) (date start stop : Instant) : Prop where
  holds : date.isFrom start = true ∧ date.isBefore stop = true <-> ¬date.SlipsOut unit
  floor_start : start.floor? unit = some start
  floor_stop : stop.floor? unit = some stop
  floor_within : forall other : Instant, other.IsProper -> other.isFrom start = true ->
    other.isBefore stop = true -> (other.floor? unit = some start <-> ¬other.SlipsOut unit)
  begins : start.Begins unit ∧ stop.Begins unit

/-- Flooring and advancing tile the time line, and dates go by the Gregorian calendar from
1 January 1970 on. -/
theorem isTile_of_floor {unit : Unit} {date start stop : Instant} (hdate : date.IsProper)
    (hstart : date.floor? unit = some start) (hstop : start.advance? unit = some stop) :
    IsTile unit date start stop
      ∧ Date.ofDayNumber 0 = { year := 1970, month := 1, day := 1 }
      ∧ forall day, Date.ofDayNumber (day + 1) = (Date.ofDayNumber day).following := by
  refine ⟨?_, by decide +kernel, ofDayNumber_succ⟩
  rcases exists_period_of_floor? hdate hstart with ⟨period, hsupported, heq, hfrom, hto⟩
  subst heq
  rw [advance?_start] at hstop
  rcases ofMillis?_eq_some_iff.mp hstop with ⟨hnext, heq⟩
  subst heq
  constructor
  case holds =>
    have hbelow := (place_bounds hdate unit).left
    rw [isFrom_start, isBefore_start, <- start_le_seconds_iff hdate hfrom hto]
    constructor
    · intro h
      exact h.left
    · intro h
      exact ⟨h, lt_of_le_of_lt hbelow hto⟩
  case floor_start => exact floor?_ofMillis_start hsupported
  case floor_stop => exact floor?_ofMillis_start hnext
  case begins => exact ⟨begins_start unit period, begins_start unit (period + 1)⟩
  case floor_within =>
    intro other hother hafter hbefore
    rw [isFrom_start] at hafter
    rw [isBefore_start] at hbefore
    have habove : unit.start period <= other.place unit :=
      le_trans hafter (place_bounds hother unit).left
    rw [<- place_lt_start_iff hother hafter hbefore]
    constructor
    · intro h
      rcases exists_period_of_floor? hother h with ⟨found, _, hfound, _, hplace⟩
      have hsame : unit.start found = unit.start period := by
        rw [<- millis_ofMillis (unit.start found), hfound, millis_ofMillis]
      rw [unit.strictMono_start.injective hsame] at hplace
      exact hplace
    · intro h
      exact floor?_of_place hsupported
        (hsupported.between hnext habove (le_of_lt h)) habove h

theorem isTile_leapDay :
    Instant.IsProper { seconds := 951825600, nanos := 789000000 }
      ∧ IsTile .month { seconds := 951825600, nanos := 789000000 }
        { seconds := 949363200, nanos := 0 } { seconds := 951868800, nanos := 0 } := by
  have hdate : Instant.IsProper { seconds := 951825600, nanos := 789000000 } :=
    ⟨by decide +kernel, by decide⟩
  exact ⟨hdate, (isTile_of_floor hdate (by decide +kernel) (by decide +kernel)).left⟩

/-- The last second of 2016 is a leap second. Its day starts after it. -/
theorem isFrom_floor_leapSecond :
    readDate "2016-12-31T23:59:60Z" none = some { seconds := 1483228799, nanos := 1000000000 }
      ∧ floor? { seconds := 1483228799, nanos := 1000000000 } .day
        = some { seconds := 1483228800, nanos := 0 }
      ∧ isFrom { seconds := 1483228799, nanos := 1000000000 }
        { seconds := 1483228800, nanos := 0 } = false := by
  exact ⟨by decide +kernel, by decide +kernel, by decide⟩

end Instant
end Calendar
end Rollup
