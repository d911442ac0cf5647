import Rollup.Proofs.Grouping.DateHistogram
import Rollup.Proofs.Plan.Acceptance

/-!
# Steps of date histograms

A date histogram is planned with the text of the interval that was read, and a store reads this
text again. The store steps by the same periods as the interval that was checked, also where it
takes one fixed minute, hour or day for one of the calendar.
-/

namespace Rollup
namespace Store

open Calendar (FixedUnit Instant Interval IsShift IsZoneOffset)

/-!
# Intervals with the same periods
-/

theorem start_of_symbol {unit : Calendar.Unit} {fixedUnit : FixedUnit}
    (h : unit.symbol = fixedUnit.symbol) :
    (unit = .minute ∨ unit = .hour ∨ unit = .day)
      ∧ forall period, unit.start period = period * fixedUnit.millis := by
  constructor
  · revert h
    cases unit <;> cases fixedUnit <;> decide
  · intro period
    cases unit <;> cases fixedUnit <;> simp [Calendar.Unit.symbol, FixedUnit.symbol] at h <;> rfl

/-- The histograms of the two intervals have the same keys. -/
structure IsSameStep (used interval : Interval) : Prop where
  starts : used.start = interval.start
  keys : forall {offset : Int} {date : Instant}, IsZoneOffset offset -> date.IsProper ->
    dateKey used offset date = dateKey interval offset date
  steps : forall {offset key later : Int}, IsZoneOffset offset -> IsPlaced interval offset key ->
    IsPlaced interval offset later -> key < later ->
      nextDateKey used offset key = nextDateKey interval offset key

theorem isSameStep_refl (interval : Interval) : IsSameStep interval interval :=
  ⟨rfl, fun _ _ => rfl, fun _ _ _ _ => rfl⟩

theorem dateKey_of_isSupported {interval : Interval} (hinterval : interval.IsMeasured)
    {offset : Int} (hoffset : IsShift offset) {date : Instant} (hdate : date.IsProper)
    (hlocal : Instant.IsSupported (date.millis + offset)) {period : Int}
    (hperiod : inPeriod interval offset period date = true)
    (hstart : Instant.IsSupported (interval.start period)) :
    dateKey interval offset date = .ok (some (interval.start period - offset)) := by
  have hkey := (dateKey?_eq_some_iff hinterval (fun _ _ => hstart)).mpr ⟨hlocal, hperiod⟩
  rw [dateKey_of_keyFits, hkey]
  refine ⟨hoffset.fits_shifted hdate, ?_⟩
  rw [hkey]
  rintro _ ⟨⟩
  exact hoffset.fits_unshifted hstart

theorem dateKey_of_not_isSupported (interval : Interval) {offset : Int} (hoffset : IsShift offset)
    {date : Instant} (hdate : date.IsProper)
    (hbeyond : ¬Instant.IsSupported (date.millis + offset)) :
    dateKey interval offset date = .ok none := by
  have hkey : dateKey? interval offset date = none := by
    cases hkey : dateKey? interval offset date with
    | none => rfl
    | some key => exact absurd (isSupported_of_dateKey? hkey) hbeyond
  rw [dateKey_of_keyFits, hkey]
  refine ⟨hoffset.fits_shifted hdate, ?_⟩
  rw [hkey]
  rintro _ ⟨⟩

/-- Intervals with the same periods have the same keys, if no period that holds a supported
millisecond begins before the supported years. -/
theorem isSameStep_of_starts {used interval : Interval} (hused : used.IsMeasured)
    (hinterval : interval.IsMeasured) (hstarts : used.start = interval.start)
    (hsupported : forall millis period, Instant.IsSupported millis ->
      interval.start period <= millis -> millis < interval.start (period + 1) ->
        Instant.IsSupported (interval.start period)) :
    IsSameStep used interval := by
  constructor
  case starts => exact hstarts
  case keys =>
    intro offset date hoffset hdate
    by_cases hlocal : Instant.IsSupported (date.millis + offset)
    · rcases exists_period hlocal hinterval with ⟨period, hperiod, _⟩
      rcases inPeriod_iff.mp hperiod with ⟨hfrom, hto⟩
      have hstart := hsupported _ period hlocal hfrom hto
      have hkey := dateKey_of_isSupported hinterval hoffset.isShift hdate hlocal hperiod hstart
      unfold inPeriod at hperiod
      rw [<- hstarts] at hperiod hstart
      have hother := dateKey_of_isSupported hused hoffset.isShift hdate hlocal hperiod hstart
      rw [hkey, hother, hstarts]
    · rw [dateKey_of_not_isSupported used hoffset.isShift hdate hlocal,
        dateKey_of_not_isSupported interval hoffset.isShift hdate hlocal]
  case steps =>
    intro offset key later hoffset hkey hlater hlt
    rcases hkey with ⟨period, hstart, rfl⟩
    rcases hlater with ⟨last, hlast, rfl⟩
    have hmono := Interval.strictMono_start hinterval
    have hbefore : period < last := hmono.lt_iff_lt.mp (by omega)
    have hfollowing : Instant.IsSupported (interval.start (period + 1)) :=
      hstart.between hlast (hmono.monotone (by omega)) (hmono.monotone hbefore)
    have hsame := nextDateKey_of_isSupported hoffset.isShift hstart hfollowing
    rw [<- hstarts] at hstart hfollowing
    have hother := nextDateKey_of_isSupported hoffset.isShift hstart hfollowing
    rw [hstarts] at hother
    rw [hsame, hother]

end Store

namespace Plan

open Calendar (FixedUnit Interval)
open Store (IsSameStep)

/-!
# Intervals of planned histograms
-/

/-- A fixed interval as it is written, measured and read again. -/
structure IsFixedStep (count : Nat) (unit : FixedUnit) : Prop where
  positive : 1 <= count
  symbol : (unit.symbol, unit.millis)
    ∈ [("d", 86400000), ("h", 3600000), ("m", 60000), ("s", 1000), ("ms", 1)]
  text : (Interval.fixed count unit).text = toString count ++ unit.symbol
  length : (Interval.fixed count unit).millis? = some (count * unit.millis)
  bounds : 0 < count * unit.millis ∧ count * unit.millis < 2 ^ 63
  /-- The text stands for the interval. Only one unit may be taken for a minute, hour or day of
  the calendar, which is as long. -/
  again : Interval.parse (Interval.fixed count unit).text = .ok (.fixed count unit)
    ∨ count = 1 ∧ exists calendarUnit : Calendar.Unit,
        (calendarUnit = .minute ∨ calendarUnit = .hour ∨ calendarUnit = .day)
          ∧ (forall period, calendarUnit.start (period + 1)
              = calendarUnit.start period + unit.millis)
          ∧ Interval.parse (Interval.fixed count unit).text = .ok (.calendar calendarUnit)

theorem isFixedStep_of_parse {raw : String} {count : Nat} {unit : FixedUnit}
    (h : Interval.parse raw = .ok (.fixed count unit)) : IsFixedStep count unit := by
  have hmeasured := Interval.isMeasured_of_parse h
  constructor
  case positive => exact Nat.pos_of_mul_pos_right hmeasured.left
  case symbol => cases unit <;> decide
  case text => rfl
  case length => rfl
  case bounds => exact hmeasured
  case again =>
    rcases Interval.parse_text h with hsame | ⟨fixedUnit, calendarUnit, heq, hsymbol, hread⟩
    · exact Or.inl hsame
    · cases heq
      rcases Store.start_of_symbol hsymbol with ⟨hunit, hstart⟩
      refine Or.inr ⟨rfl, calendarUnit, hunit, ?_, hread⟩
      intro period
      rw [hstart, hstart, Int.add_mul, Int.one_mul]

theorem exists_isSameStep {raw : String} {interval : Interval}
    (h : Interval.parse raw = .ok interval) :
    exists used, Interval.parse interval.text = .ok used ∧ used.IsMeasured
      ∧ IsSameStep used interval := by
  have hmeasured := Interval.isMeasured_of_parse h
  rcases Interval.parse_text h with hsame | ⟨fixedUnit, calendarUnit, rfl, hsymbol, hread⟩
  · exact ⟨interval, hsame, hmeasured, Store.isSameStep_refl interval⟩
  · rcases Store.start_of_symbol hsymbol with ⟨hunit, hstart⟩
    have hstarts : (Interval.calendar calendarUnit).start = (Interval.fixed 1 fixedUnit).start := by
      funext period
      rw [Interval.start_calendar, Interval.start_fixed, hstart, Nat.one_mul]
    have hcalendar : (Interval.calendar calendarUnit).IsMeasured := trivial
    refine ⟨.calendar calendarUnit, hread, hcalendar, ?_⟩
    apply Store.isSameStep_of_starts hcalendar hmeasured hstarts
    rw [<- hstarts]
    intro millis period
    refine Store.isSupported_start ?_
    rcases hunit with rfl | rfl | rfl <;> decide

/-- An interval that was read survives as its text. A date histogram that asks for it is planned,
and a store steps by it. -/
theorem dateSteps_survive {raw : String} {interval : Interval}
    (h : Interval.parse raw = .ok interval) :
    (forall unit, interval = .calendar unit ->
        Interval.parse interval.text = .ok (.calendar unit))
      ∧ (forall count unit, interval = .fixed count unit -> IsFixedStep count unit)
      ∧ forall (call : Sql.BucketCall) (field : String) (steps : DateSteps)
          (order : Option (List Request.SortEntry)),
          call.boundaries = [] -> dateSteps {} call.parameters = .ok steps ->
            steps.interval = raw ->
          dateHistogramBuckets call field
              = .ok (.dateHistogram (dateHistogramOf field steps interval))
            ∧ exists used,
                Store.dateInterval { dateHistogramOf field steps interval with order := order }
                    = .ok used
                  ∧ used.IsMeasured ∧ IsSameStep used interval := by
  refine ⟨?_, ?_, ?_⟩
  · rintro unit rfl
    rcases Interval.parse_text h with hsame | ⟨_, _, heq, _, _⟩
    · exact hsame
    · cases heq
  · rintro count unit rfl
    exact isFixedStep_of_parse h
  · rintro call field steps order hboundaries hsteps rfl
    rcases exists_isSameStep h with ⟨used, hread, hmeasured, hsame⟩
    refine ⟨?_, used, dateInterval_dateHistogramOf hread field steps order, hmeasured, hsame⟩
    unfold dateHistogramBuckets
    rw [hboundaries, hsteps, if_neg (by simp), ok_bind, h]
    rfl

def nearlyDaily : Sql.BucketCall :=
  { function := "date_histogram"
    field := some "at"
    parameters := [("interval", .text "0.9999999999d")]
    boundaries := [] }

theorem dateSteps_survive_nearlyDaily :
    Interval.parse "0.9999999999d" = .ok (.fixed 1 .day) ∧ IsFixedStep 1 .day
      ∧ Interval.parse (Interval.fixed 1 .day).text = .ok (.calendar .day)
      ∧ dateHistogramBuckets nearlyDaily "at"
          = .ok (.dateHistogram
              (dateHistogramOf "at" { interval := "0.9999999999d" } (.fixed 1 .day)))
      ∧ exists used, Store.dateInterval
            (dateHistogramOf "at" { interval := "0.9999999999d" } (.fixed 1 .day)) = .ok used
          ∧ used = .calendar .day ∧ IsSameStep used (.fixed 1 .day) := by
  have hparse : Interval.parse "0.9999999999d" = .ok (.fixed 1 .day) := by decide +kernel
  have hread : Interval.parse (Interval.fixed 1 .day).text = .ok (.calendar .day) := by
    decide +kernel
  have hsteps : dateSteps {} nearlyDaily.parameters = .ok { interval := "0.9999999999d" } := by
    rfl
  rcases dateSteps_survive hparse with ⟨_, hfixed, hplanned⟩
  rcases hplanned nearlyDaily "at" _ none rfl hsteps rfl with ⟨hbuckets, used, hused, _, hsame⟩
  refine ⟨hparse, hfixed 1 .day rfl, hread, hbuckets, used, hused, ?_, hsame⟩
  have hagain := dateInterval_dateHistogramOf hread "at" { interval := "0.9999999999d" } none
  rw [hused] at hagain
  cases hagain
  rfl

end Plan
end Rollup
