import Rollup.Proofs.Calendar.IntervalText
import Rollup.Proofs.Calendar.ReadDates

/-!
# Periods of intervals

The periods of an interval that was read, of constant length or of the calendar, divide the
time line. Supported milliseconds fit 64 bits, also when they are moved into a zone.
-/

namespace Rollup
namespace Number

theorem fitsInt64_iff {n : Int} :
    fitsInt64 n = true <-> -0x8000000000000000 <= n ∧ n <= 0x7FFFFFFFFFFFFFFF := by
  unfold fitsInt64 minInt64 maxInt64
  rw [Bool.and_eq_true, decide_eq_true_eq, decide_eq_true_eq]

end Number

namespace Calendar

open Number (fitsInt64 fitsInt64_iff)

/-!
# Supported milliseconds
-/

/-- Offsets of zones, in milliseconds: at most 18 hours and 59 minutes. -/
def IsZoneOffset (offset : Int) : Prop :=
  -68340000 <= offset ∧ offset <= 68340000

instance (offset : Int) : Decidable (IsZoneOffset offset) :=
  inferInstanceAs (Decidable (_ ∧ _))

theorem Instant.IsProper.millis_bounds {instant : Instant} (h : instant.IsProper) :
    -8400000000000000 <= instant.millis ∧ instant.millis <= 8400000000002000 := by
  have hrange := Instant.inRange_iff.mp h.supported
  have hnanos := h.nanos
  have hday : Instant.IsSupported (instant.seconds * 1000) := by
    unfold Instant.IsSupported
    omega
  have hbounds := hday.bounds
  unfold Instant.millis
  unfold nanosPerSecond at hnanos
  omega

/-- Offsets between supported milliseconds. -/
def IsShift (offset : Int) : Prop :=
  -17000000000000000 <= offset ∧ offset <= 17000000000000000

theorem IsZoneOffset.isShift {offset : Int} (h : IsZoneOffset offset) : IsShift offset := by
  unfold IsZoneOffset at h
  unfold IsShift
  omega

theorem IsShift.fits_shifted {offset : Int} (h : IsShift offset) {instant : Instant}
    (hproper : instant.IsProper) : fitsInt64 (instant.millis + offset) = true := by
  have hbounds := hproper.millis_bounds
  unfold IsShift at h
  rw [fitsInt64_iff]
  omega

theorem IsShift.fits_unshifted {offset : Int} (h : IsShift offset) {start : Int}
    (hstart : Instant.IsSupported start) : fitsInt64 (start - offset) = true := by
  have hbounds := hstart.bounds
  unfold IsShift at h
  rw [fitsInt64_iff]
  omega

theorem Instant.IsSupported.fits {millis : Int} (h : Instant.IsSupported millis) :
    fitsInt64 millis = true := by
  have hbounds := h.bounds
  rw [fitsInt64_iff]
  omega

/-!
# Periods of intervals
-/

namespace Interval

def start : Interval -> Int -> Int
  | .calendar unit => unit.start
  | .fixed count unit => fun period => period * (count * unit.millis : Nat)

@[simp] theorem start_calendar (unit : Unit) : (calendar unit).start = unit.start :=
  rfl

@[simp] theorem start_fixed (count : Nat) (unit : FixedUnit) (period : Int) :
    (fixed count unit).start period = period * (count * unit.millis : Nat) :=
  rfl

/-- The length of a fixed interval is positive and fits 64 bits. -/
def IsMeasured : Interval -> Prop
  | .calendar _ => True
  | .fixed count unit => 0 < count * unit.millis ∧ count * unit.millis < 2 ^ 63

theorem isMeasured_of_parse {raw : String} {interval : Interval} (h : parse raw = .ok interval) :
    interval.IsMeasured := by
  rcases parse_cases h with ⟨unit, rfl⟩ | ⟨count, unit, rfl, hstep⟩
  · exact trivial
  · exact ⟨Nat.mul_pos hstep.positive (millis_pos unit), hstep.fits⟩

theorem strictMono_start {interval : Interval} (h : interval.IsMeasured) :
    StrictMono interval.start := by
  cases interval with
  | calendar unit => exact unit.strictMono_start
  | fixed count unit =>
      intro earlier later hlt
      exact Int.mul_lt_mul_of_pos_right hlt (Int.natCast_pos.mpr h.left)

theorem period_unique {interval : Interval} (h : interval.IsMeasured) {millis period other : Int}
    (hfrom : interval.start period <= millis) (hto : millis < interval.start (period + 1))
    (hfromOther : interval.start other <= millis) (htoOther : millis < interval.start (other + 1)) :
    period = other := by
  have hmono := strictMono_start h
  have hle : period < other + 1 := hmono.lt_iff_lt.mp (lt_of_le_of_lt hfrom htoOther)
  have hge : other < period + 1 := hmono.lt_iff_lt.mp (lt_of_le_of_lt hfromOther hto)
  omega

end Interval

theorem fitsInt64_floored {millis step : Int} (hmillis : Instant.IsSupported millis)
    (hpos : 0 < step) (hfits : step < 2 ^ 63) : fitsInt64 (millis / step * step) = true := by
  have hbounds := hmillis.bounds
  have hle : millis / step * step <= millis := Int.ediv_mul_le millis (Int.ne_of_gt hpos)
  have hlt : millis < (millis / step + 1) * step := Int.lt_ediv_add_one_mul_self millis hpos
  rw [Int.add_mul, Int.one_mul] at hlt
  rw [fitsInt64_iff]
  by_cases hlong : -millis <= step
  · -- Long steps: the multiple is not below minus one step.
    have hminus : -1 <= millis / step := by
      apply Int.le_ediv_of_mul_le hpos
      omega
    have hstep : -1 * step <= millis / step * step :=
      Int.mul_le_mul_of_nonneg_right hminus (Int.le_of_lt hpos)
    omega
  · omega

end Calendar

end Rollup
