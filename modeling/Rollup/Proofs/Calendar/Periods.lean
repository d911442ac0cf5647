import Rollup.Calendar.Instant
import Rollup.Proofs.Calendar.Civil

/-!
# Periods

The minutes, hours, days, weeks, months, quarters and years each divide the time line into
periods that follow one another. Flooring an instant gives the start of the period that
holds it, and advancing the start of a period gives the start of the next one.
-/

namespace Rollup
namespace Calendar
namespace Instant

/-!
# Instants of milliseconds
-/

def ofMillis (millis : Int) : Instant :=
  { seconds := millis / 1000, nanos := (millis % 1000).toNat * 1000000 }

def IsSupported (millis : Int) : Prop :=
  minDay <= millis / 86400000 ∧ millis / 86400000 <= maxDay

instance (millis : Int) : Decidable (IsSupported millis) :=
  inferInstanceAs (Decidable (_ ∧ _))

theorem IsSupported.bounds {millis : Int} (h : IsSupported millis) :
    -8400000000000000 <= millis ∧ millis <= 8400000000000000 := by
  have hmin : -97000000 <= minDay := by decide
  have hmax : maxDay <= 97000000 := by decide
  unfold IsSupported at h
  omega

theorem IsSupported.between {low millis high : Int} (hlow : IsSupported low)
    (hhigh : IsSupported high) (hfrom : low <= millis) (hto : millis <= high) :
    IsSupported millis := by
  unfold IsSupported at hlow hhigh ⊢
  omega

theorem inRange_iff {instant : Instant} :
    instant.inRange = true
      <-> minDay <= instant.seconds / 86400 ∧ instant.seconds / 86400 <= maxDay := by
  unfold inRange
  rw [Bool.and_eq_true, decide_eq_true_eq, decide_eq_true_eq]

theorem checked_eq_some_iff {instant found : Instant} :
    instant.checked = some found <-> instant.inRange = true ∧ instant = found := by
  unfold checked
  split
  · rename_i hrange
    rw [Option.some.injEq]
    exact ⟨fun h => ⟨hrange, h⟩, fun h => h.right⟩
  · rename_i hrange
    constructor
    · intro h
      cases h
    · intro h
      exact absurd h.left hrange

theorem dayNumber_ofMillis (millis : Int) : (ofMillis millis).dayNumber = millis / 86400000 := by
  unfold ofMillis dayNumber
  dsimp only
  omega

theorem millis_ofMillis (millis : Int) : (ofMillis millis).millis = millis := by
  unfold ofMillis Instant.millis
  dsimp only
  omega

theorem inRange_ofMillis {millis : Int} :
    (ofMillis millis).inRange = true <-> IsSupported millis := by
  rw [inRange_iff, show (ofMillis millis).seconds / 86400 = millis / 86400000 from
    dayNumber_ofMillis millis]
  exact Iff.rfl

theorem ofMillis?_eq_some_iff {millis : Int} {instant : Instant} :
    ofMillis? millis = some instant <-> IsSupported millis ∧ ofMillis millis = instant := by
  unfold ofMillis?
  rw [checked_eq_some_iff, <- inRange_ofMillis]
  exact Iff.rfl

theorem ofMillis?_of_isSupported {millis : Int} (h : IsSupported millis) :
    ofMillis? millis = some (ofMillis millis) :=
  ofMillis?_eq_some_iff.mpr ⟨h, rfl⟩

theorem isSome_ofMillis? {millis : Int} :
    (ofMillis? millis).isSome = true <-> IsSupported millis := by
  rw [Option.isSome_iff_exists]
  constructor
  · rintro ⟨instant, h⟩
    exact (ofMillis?_eq_some_iff.mp h).left
  · intro h
    exact ⟨_, ofMillis?_of_isSupported h⟩

theorem millis_of_ofMillis? {millis : Int} {instant : Instant}
    (h : ofMillis? millis = some instant) : instant.millis = millis := by
  rw [<- (ofMillis?_eq_some_iff.mp h).right, millis_ofMillis]

theorem ofMillis_day (day : Int) :
    ofMillis (day * 86400000) = { seconds := day * 86400, nanos := 0 } := by
  unfold ofMillis
  congr 1 <;> omega

theorem ofDate_eq (date : Date) : ofDate date = ofMillis (date.dayNumber * 86400000) :=
  (ofMillis_day date.dayNumber).symm

theorem addSeconds?_ofMillis (millis delta : Int) :
    (ofMillis millis).addSeconds? delta = ofMillis? (millis + delta * 1000) := by
  have hnanos : (millis % 1000).toNat * 1000000 < nanosPerSecond := by
    unfold nanosPerSecond
    omega
  have hseconds : (millis + delta * 1000) / 1000 = millis / 1000 + delta := by omega
  have hrest : (millis + delta * 1000) % 1000 = millis % 1000 := by omega
  unfold ofMillis addSeconds? ofMillis?
  dsimp only
  rw [if_pos hnanos, hseconds, hrest]

end Instant

/-!
# Periods of units
-/

/-- Millisecond at which a period of the unit starts, the periods being numbered in a row. -/
def Unit.start : Unit -> Int -> Int
  | .minute, period => period * 60000
  | .hour, period => period * 3600000
  | .day, period => period * 86400000
  | .week, period => (period * 7 - 3) * 86400000
  | .month, period => monthStart period * 86400000
  | .quarter, period => monthStart (period * 3) * 86400000
  | .year, period => monthStart (period * 12) * 86400000

theorem Unit.strictMono_start (unit : Unit) : StrictMono unit.start := by
  intro earlier later h
  cases unit with
  | minute | hour | day | week =>
      simp only [Unit.start]
      omega
  | month | quarter | year =>
      simp only [Unit.start]
      apply Int.mul_lt_mul_of_pos_right _ (by decide)
      apply strictMono_monthStart
      omega

theorem addMonths_firstOfMonth (month count : Int) :
    (firstOfMonth month).addMonths count = firstOfMonth (month + count) := by
  have htotal : month / 12 * 12 + ((month % 12).toNat + 1 - 1 : Nat) + count = month + count := by
    omega
  unfold firstOfMonth Date.addMonths Date.clampDay
  dsimp only
  rw [htotal]
  have hpos := daysInMonth_pos ((month + count) / 12) (by omega : ((month + count) % 12).toNat < 12)
  rw [Nat.min_eq_left hpos]

theorem firstOfMonth_eq (year : Int) {index : Nat} (h : index < 12) :
    firstOfMonth (year * 12 + index) = { year := year, month := index + 1, day := 1 } := by
  have hyear : (year * 12 + index) / 12 = year := by omega
  have hplace : ((year * 12 + index) % 12).toNat = index := by omega
  unfold firstOfMonth
  rw [hyear, hplace]

theorem ofDayNumber_monthStart (month : Int) :
    Date.ofDayNumber (monthStart month) = firstOfMonth month := by
  rcases ofDayNumber_spec (monthStart month) with ⟨year, index, rest, hindex, hdate, hday, hnext⟩
  have hfrom : year * 12 + index <= month := by
    apply strictMono_monthStart.le_iff_le.mp
    omega
  have hto : month < year * 12 + index + 1 := strictMono_monthStart.lt_iff_lt.mp hnext
  have hmonth : month = year * 12 + index := by omega
  have hrest : rest = 0 := by
    rw [hmonth] at hday
    omega
  rw [hdate, hrest, hmonth, firstOfMonth_eq year hindex]

namespace Instant

theorem addMonths?_monthStart (month count : Int) :
    (ofMillis (monthStart month * 86400000)).addMonths? count
      = ofMillis? (monthStart (month + count) * 86400000) := by
  have hday : monthStart month * 86400 / 86400 = monthStart month := by omega
  have hsecond : (monthStart month * 86400 % 86400).toNat = 0 := by omega
  have hmoved : (firstOfMonth (month + count)).dayNumber = monthStart (month + count) := rfl
  have htarget : ofMillis? (monthStart (month + count) * 86400000)
      = (ofMillis (monthStart (month + count) * 86400000)).checked := rfl
  rw [htarget, ofMillis_day, ofMillis_day]
  unfold addMonths? date dayNumber secondOfDay
  dsimp only
  rw [hday, hsecond, ofDayNumber_monthStart, addMonths_firstOfMonth, hmoved, Int.natCast_zero,
    Int.add_zero]

theorem advance?_start (unit : Unit) (period : Int) :
    (ofMillis (unit.start period)).advance? unit = ofMillis? (unit.start (period + 1)) := by
  cases unit with
  | minute | hour | day | week =>
      simp only [advance?, Unit.start]
      rw [addSeconds?_ofMillis]
      congr 1
      omega
  | month => exact addMonths?_monthStart period 1
  | quarter | year =>
      simp only [advance?, Unit.start]
      rw [addMonths?_monthStart]
      congr 3
      omega

theorem floorMillis?_ofMillis (millis step : Int) :
    (ofMillis millis).floorMillis? step = ofMillis? (millis / step * step) := by
  unfold floorMillis?
  rw [millis_ofMillis]

theorem exists_multiple (millis : Int) {step : Int} (hstep : 0 < step) :
    exists period, period * step <= millis ∧ millis < (period + 1) * step
      ∧ (ofMillis millis).floorMillis? step = ofMillis? (period * step) :=
  ⟨millis / step, Int.ediv_mul_le millis (Int.ne_of_gt hstep),
    Int.lt_ediv_add_one_mul_self millis hstep, floorMillis?_ofMillis millis step⟩

theorem isSupported_day {millis : Int} (h : IsSupported millis) :
    IsSupported (millis / 86400000 * 86400000) := by
  unfold IsSupported at h ⊢
  omega

theorem floor?_week {millis : Int} (h : IsSupported millis) :
    (ofMillis millis).floor? .week
      = ofMillis? (((millis / 86400000 + 3) / 7 * 7 - 3) * 86400000) := by
  simp only [floor?]
  rw [floorMillis?_ofMillis, ofMillis?_of_isSupported (isSupported_day h)]
  dsimp only
  rw [addSeconds?_ofMillis, dayNumber_ofMillis]
  unfold weekdayIndex
  congr 1
  omega

theorem checked_ofDate (month : Int) :
    (ofDate (firstOfMonth month)).checked = ofMillis? (monthStart month * 86400000) := by
  rw [ofDate_eq]
  rfl

theorem exists_date_ofMillis (millis : Int) :
    exists (year : Int) (index : Nat), index < 12
      ∧ ((ofMillis millis).date.year = year ∧ (ofMillis millis).date.month = index + 1)
      ∧ monthStart (year * 12 + index) <= millis / 86400000
      ∧ millis / 86400000 < monthStart (year * 12 + index + 1) := by
  unfold date
  rw [dayNumber_ofMillis]
  rcases ofDayNumber_spec (millis / 86400000) with ⟨year, index, rest, hindex, hdate, hday, hnext⟩
  rw [hdate]
  exact ⟨year, index, hindex, ⟨rfl, rfl⟩, by omega, hnext⟩

theorem monthStart_bounds {millis month count : Int} (hcount : 0 < count)
    (hfrom : monthStart month <= millis / 86400000)
    (hto : millis / 86400000 < monthStart (month + 1)) :
    monthStart (month / count * count) * 86400000 <= millis
      ∧ millis < monthStart ((month / count + 1) * count) * 86400000 := by
  have hfirst : monthStart (month / count * count) <= monthStart month :=
    strictMono_monthStart.monotone (Int.ediv_mul_le month (Int.ne_of_gt hcount))
  have hlast : monthStart (month + 1) <= monthStart ((month / count + 1) * count) :=
    strictMono_monthStart.monotone (Int.lt_ediv_add_one_mul_self month hcount)
  constructor
  · omega
  · omega

theorem floor?_start {millis : Int} (h : IsSupported millis) (unit : Unit) :
    exists period, unit.start period <= millis ∧ millis < unit.start (period + 1)
      ∧ (ofMillis millis).floor? unit = ofMillis? (unit.start period) := by
  cases unit with
  | minute => exact exists_multiple millis (by decide)
  | hour => exact exists_multiple millis (by decide)
  | day => exact exists_multiple millis (by decide)
  | week =>
      refine ⟨(millis / 86400000 + 3) / 7, ?_, ?_, floor?_week h⟩
      · simp only [Unit.start]
        omega
      · simp only [Unit.start]
        omega
  | month =>
      rcases exists_date_ofMillis millis with ⟨year, index, hindex, hdate, hfrom, hto⟩
      have hspan := monthStart_bounds Int.one_pos hfrom hto
      rw [Int.ediv_one, Int.mul_one, Int.mul_one] at hspan
      refine ⟨year * 12 + index, hspan.left, hspan.right, ?_⟩
      simp only [floor?, Unit.start]
      rw [<- checked_ofDate, firstOfMonth_eq year hindex, hdate.left, hdate.right]
  | quarter =>
      rcases exists_date_ofMillis millis with ⟨year, index, hindex, hdate, hfrom, hto⟩
      have hspan := monthStart_bounds (by decide : (0 : Int) < 3) hfrom hto
      refine ⟨(year * 12 + index) / 3, hspan.left, hspan.right, ?_⟩
      have hmonth : (year * 12 + index) / 3 * 3 = year * 12 + (index / 3 * 3 : Nat) := by omega
      simp only [floor?, Unit.start]
      rw [<- checked_ofDate, hmonth, firstOfMonth_eq year (by omega), hdate.left, hdate.right,
        Nat.add_sub_cancel]
  | year =>
      rcases exists_date_ofMillis millis with ⟨year, index, hindex, hdate, hfrom, hto⟩
      have hspan := monthStart_bounds (by decide : (0 : Int) < 12) hfrom hto
      refine ⟨(year * 12 + index) / 12, hspan.left, hspan.right, ?_⟩
      have hmonth : (year * 12 + index) / 12 * 12 = year * 12 + (0 : Nat) := by omega
      simp only [floor?, Unit.start]
      rw [<- checked_ofDate, hmonth, firstOfMonth_eq year (by omega), hdate.left]

end Instant
end Calendar
end Rollup
