import Rollup.Proofs.Calendar.IntervalPeriods
import Rollup.Proofs.Grouping.Histogram

/-!
# Date histograms divide time

The keys of a date histogram are the starts of the periods of its interval, in the time of
its zone. Each bucket holds the documents with a date from its key up to the next key, and
every date that has a time in the zone lies in the period of a bucket.
-/

namespace Rollup
namespace Store

open Calendar (Instant Interval IsShift IsZoneOffset)
open Number (fitsInt64)
open Request (DateHistogram)

variable {interval : Interval} {offset : Int}

/-!
# Keys of dates

Keys are computed with 64-bit integers, or not at all. Where they are computed, they are
those of integers without bound.
-/

theorem measured_of_fits {millis : Int} (h : fitsInt64 millis = true) :
    measured millis = .ok millis :=
  if_pos h

theorem measured_of_not_fits {millis : Int} (h : ¬fitsInt64 millis = true) :
    measured millis = .error .aborted :=
  if_neg h

theorem measured_eq_ok_iff {millis found : Int} :
    measured millis = .ok found <-> fitsInt64 millis = true ∧ millis = found := by
  unfold measured
  split
  · rename_i hfits
    simp [hfits]
  · rename_i hfits
    simp [hfits]

def dateKey? (interval : Interval) (offset : Int) (date : Instant) : Option Int :=
  ((Instant.ofMillis? (date.millis + offset)).bind (dateStart? interval)).map
    (fun start => start - offset)

/-- The integers that are computed for the key of a date fit 64 bits. -/
def KeyFits (interval : Interval) (offset : Int) (date : Instant) : Prop :=
  fitsInt64 (date.millis + offset) = true
    ∧ forall key, dateKey? interval offset date = some key -> fitsInt64 key = true

theorem dateKey_of_keyFits {date : Instant} (h : KeyFits interval offset date) :
    dateKey interval offset date = .ok (dateKey? interval offset date) := by
  rcases h with ⟨hshifted, hkey⟩
  unfold dateKey dateKey? at *
  rw [measured_of_fits hshifted, ok_bind]
  cases hstart : (Instant.ofMillis? (date.millis + offset)).bind (dateStart? interval) with
  | none => rfl
  | some start =>
      rw [hstart] at hkey
      dsimp only
      rw [measured_of_fits (hkey _ rfl)]
      rfl

theorem dateKey_of_not_keyFits {date : Instant} (h : ¬KeyFits interval offset date) :
    dateKey interval offset date = .error .aborted := by
  unfold KeyFits dateKey? at h
  unfold dateKey
  by_cases hshifted : fitsInt64 (date.millis + offset) = true
  · rw [measured_of_fits hshifted, ok_bind]
    cases hstart : (Instant.ofMillis? (date.millis + offset)).bind (dateStart? interval) with
    | none =>
        rw [hstart] at h
        exact absurd ⟨hshifted, fun _ hkey => by cases hkey⟩ h
    | some start =>
        dsimp only
        rw [measured_of_not_fits, error_bind]
        intro hkey
        apply h
        refine ⟨hshifted, ?_⟩
        rw [hstart]
        rintro _ ⟨⟩
        exact hkey
  · rw [measured_of_not_fits hshifted, error_bind]

section Keys

variable {date : Instant}

theorem isSupported_of_dateKey? {key : Int} (h : dateKey? interval offset date = some key) :
    Instant.IsSupported (date.millis + offset) := by
  rcases Option.map_eq_some_iff.mp h with ⟨start, hstart, _⟩
  rcases Option.bind_eq_some_iff.mp hstart with ⟨shifted, hshifted, _⟩
  exact (Instant.ofMillis?_eq_some_iff.mp hshifted).left

/-- The period begins in the supported years, if it is one of the calendar. -/
def HasStart (interval : Interval) (period : Int) : Prop :=
  forall unit, interval = .calendar unit -> Instant.IsSupported (interval.start period)

def inPeriod (interval : Interval) (offset period : Int) (date : Instant) : Bool :=
  interval.start period <= date.millis + offset
    && date.millis + offset < interval.start (period + 1)

theorem inPeriod_iff {period : Int} :
    inPeriod interval offset period date = true
      <-> interval.start period <= date.millis + offset
        ∧ date.millis + offset < interval.start (period + 1) := by
  unfold inPeriod
  rw [Bool.and_eq_true, decide_eq_true_eq, decide_eq_true_eq]

variable (hlocal : Instant.IsSupported (date.millis + offset))
include hlocal

theorem dateKey?_of_isSupported :
    dateKey? interval offset date
      = (dateStart? interval (Instant.ofMillis (date.millis + offset))).map
          (fun start => start - offset) := by
  unfold dateKey?
  rw [Instant.ofMillis?_of_isSupported hlocal, Option.bind_some]

theorem exists_period (hinterval : interval.IsMeasured) :
    exists period, inPeriod interval offset period date = true
      ∧ (forall key, dateKey? interval offset date = some key ->
          key = interval.start period - offset)
      ∧ (HasStart interval period ->
          dateKey? interval offset date = some (interval.start period - offset)) := by
  rw [dateKey?_of_isSupported hlocal]
  cases interval with
  | calendar unit =>
      rcases Instant.floor?_start hlocal unit with ⟨period, hfrom, hto, hfloor⟩
      refine ⟨period, inPeriod_iff.mpr ⟨hfrom, hto⟩, ?_, ?_⟩
      · intro key hkey
        rw [dateStart?, hfloor, Option.map_map] at hkey
        rcases Option.map_eq_some_iff.mp hkey with ⟨start, hstart, rfl⟩
        rw [Function.comp_apply, Instant.millis_of_ofMillis? hstart]
        rfl
      · intro hstart
        have hsupported : Instant.IsSupported (unit.start period) := hstart unit rfl
        rw [dateStart?, hfloor, Instant.ofMillis?_of_isSupported hsupported, Option.map_some,
          Option.map_some, Instant.millis_ofMillis]
        rfl
  | fixed count unit =>
      have hpos : (0 : Int) < (count * unit.millis : Nat) := Int.natCast_pos.mpr hinterval.left
      have hkey : (dateStart? (.fixed count unit) (Instant.ofMillis (date.millis + offset))).map
          (fun start => start - offset)
          = some (Interval.start (.fixed count unit)
              ((date.millis + offset) / (count * unit.millis : Nat)) - offset) := by
        rw [dateStart?, Instant.millis_ofMillis, Interval.start_fixed, Int.natCast_mul]
        rfl
      rw [hkey]
      refine ⟨(date.millis + offset) / (count * unit.millis : Nat), ?_, ?_, fun _ => rfl⟩
      · rw [inPeriod_iff]
        exact ⟨Int.ediv_mul_le _ (Int.ne_of_gt hpos), Int.lt_ediv_add_one_mul_self _ hpos⟩
      · rintro _ ⟨⟩
        rfl

end Keys

theorem isSupported_monthStart {count month millis : Int} (hcount : count ∣ 12)
    (hmonth : count ∣ month) (hmillis : Instant.IsSupported millis)
    (hfrom : Calendar.monthStart month * 86400000 <= millis)
    (hto : millis < Calendar.monthStart (month + count) * 86400000) :
    Instant.IsSupported (Calendar.monthStart month * 86400000) := by
  have hfirst : Calendar.monthStart (-262143 * 12) = Calendar.minDay := by decide +kernel
  unfold Instant.IsSupported at hmillis ⊢
  have hlater : Calendar.monthStart (-262143 * 12) < Calendar.monthStart (month + count) := by
    rw [hfirst]
    omega
  have hlt := Calendar.strictMono_monthStart.lt_iff_lt.mp hlater
  have hle : -262143 * 12 <= month := by
    by_contra hnot
    have hdvd := Int.dvd_sub (Dvd.dvd.mul_left hcount (-262143)) hmonth
    have hstep := Int.le_of_dvd (by omega) hdvd
    omega
  have hstart := Calendar.strictMono_monthStart.monotone hle
  rw [hfirst] at hstart
  omega

theorem isSupported_start {unit : Calendar.Unit} (hunit : unit ≠ .week) {millis period : Int}
    (hmillis : Instant.IsSupported millis) (hfrom : unit.start period <= millis)
    (hto : millis < unit.start (period + 1)) : Instant.IsSupported (unit.start period) := by
  cases unit with
  | week => exact absurd rfl hunit
  | minute | hour | day =>
      unfold Instant.IsSupported at hmillis ⊢
      simp only [Calendar.Unit.start] at hfrom hto ⊢
      omega
  | month => exact isSupported_monthStart (Int.one_dvd 12) (Int.one_dvd period) hmillis hfrom hto
  | quarter =>
      simp only [Calendar.Unit.start, Int.add_mul] at hfrom hto ⊢
      exact isSupported_monthStart (by decide) (Int.dvd_mul_left _ _) hmillis hfrom hto
  | year =>
      simp only [Calendar.Unit.start, Int.add_mul] at hfrom hto ⊢
      exact isSupported_monthStart (by decide) (Int.dvd_mul_left _ _) hmillis hfrom hto

/-!
# Steps between keys
-/

section Steps

variable {period : Int}

theorem nextDateKey_calendar {unit : Calendar.Unit}
    (hstart : Instant.IsSupported (unit.start period)) :
    nextDateKey (.calendar unit) offset (unit.start period - offset)
      = (Instant.ofMillis? (unit.start (period + 1))).elim (.error (.rejected .keyOverflow))
          (fun following => measured (following.millis - offset)) := by
  unfold nextDateKey
  dsimp only
  rw [Int.sub_add_cancel, measured_of_fits hstart.fits, ok_bind,
    Instant.ofMillis?_of_isSupported hstart, Option.bind_some, Instant.advance?_start]
  cases Instant.ofMillis? (unit.start (period + 1)) <;> rfl

theorem nextDateKey_fixed (count : Nat) (unit : Calendar.FixedUnit) :
    nextDateKey (.fixed count unit) offset (Interval.start (.fixed count unit) period - offset)
      = if fitsInt64 (Interval.start (.fixed count unit) (period + 1) - offset) then
          .ok (Interval.start (.fixed count unit) (period + 1) - offset)
        else
          .error (.rejected .keyOverflow) := by
  have hfollowing : Interval.start (.fixed count unit) period - offset + count * unit.millis
      = Interval.start (.fixed count unit) (period + 1) - offset := by
    rw [Interval.start_fixed, Interval.start_fixed, Int.add_mul, Int.one_mul, Int.natCast_mul]
    omega
  unfold nextDateKey
  dsimp only
  rw [hfollowing]

theorem nextDateKey_eq_ok
    (hstart : HasStart interval period) {following : Int}
    (h : nextDateKey interval offset (interval.start period - offset) = .ok following) :
    following = interval.start (period + 1) - offset := by
  cases interval with
  | calendar unit =>
      rw [Interval.start_calendar, nextDateKey_calendar (hstart unit rfl)] at h
      cases hadvanced : Instant.ofMillis? (unit.start (period + 1)) with
      | none =>
          rw [hadvanced] at h
          cases h
      | some advanced =>
          rw [hadvanced] at h
          rw [<- (measured_eq_ok_iff.mp h).right, Instant.millis_of_ofMillis? hadvanced]
          rfl
  | fixed count unit =>
      rw [nextDateKey_fixed] at h
      split at h
      · exact (Except.ok.inj h).symm
      · cases h

variable (hoffset : IsShift offset)
  (hstart : Instant.IsSupported (interval.start period))
include hoffset hstart

theorem nextDateKey_of_isSupported
    (hfollowing : Instant.IsSupported (interval.start (period + 1))) :
    nextDateKey interval offset (interval.start period - offset)
      = .ok (interval.start (period + 1) - offset) := by
  have hfits := hoffset.fits_unshifted hfollowing
  cases interval with
  | calendar unit =>
      rw [Interval.start_calendar] at hstart hfollowing hfits ⊢
      rw [nextDateKey_calendar hstart, Instant.ofMillis?_of_isSupported hfollowing,
        Option.elim_some, Instant.millis_ofMillis, measured_of_fits hfits]
  | fixed count unit => rw [nextDateKey_fixed, if_pos hfits]

theorem lt_start_of_nextDateKey_error (hinterval : interval.IsMeasured) {e : BackendError}
    (h : nextDateKey interval offset (interval.start period - offset) = .error e) {millis : Int}
    (hmillis : Instant.IsSupported millis) : millis < interval.start (period + 1) := by
  have hlater : interval.start period < interval.start (period + 1) :=
    Interval.strictMono_start hinterval (lt_add_one period)
  have hbeyond : ¬Instant.IsSupported (interval.start (period + 1)) := by
    intro hfollowing
    rw [nextDateKey_of_isSupported hoffset hstart hfollowing] at h
    cases h
  by_contra hnot
  exact hbeyond (hstart.between hmillis (le_of_lt hlater) (not_lt.mp hnot))

end Steps

/-!
# Spans of keys
-/

def inSpan (next : Int -> Except BackendError Int) (key millis : Int) : Bool :=
  key <= millis && (next key).toOption.all (fun following => millis < following)

/-- The key is the start of a supported period, moved out of the zone. -/
def IsPlaced (interval : Interval) (offset key : Int) : Prop :=
  exists period, Instant.IsSupported (interval.start period) ∧ interval.start period - offset = key

section Spans

variable (hinterval : interval.IsMeasured)
include hinterval

theorem dateKey?_eq_some_iff {period : Int} (hstart : HasStart interval period) {date : Instant} :
    dateKey? interval offset date = some (interval.start period - offset)
      <-> Instant.IsSupported (date.millis + offset)
        ∧ inPeriod interval offset period date = true := by
  have hmono := Interval.strictMono_start hinterval
  constructor
  · intro h
    have hlocal := isSupported_of_dateKey? h
    rcases exists_period hlocal hinterval with ⟨other, hother, hvalue, _⟩
    have hperiod : period = other := hmono.injective (by have := hvalue _ h; omega)
    rw [hperiod]
    exact ⟨hlocal, hother⟩
  · rintro ⟨hlocal, hperiod⟩
    rcases exists_period hlocal hinterval with ⟨other, hother, _, hkey⟩
    rw [inPeriod_iff] at hperiod hother
    have hsame := Interval.period_unique hinterval hperiod.left hperiod.right hother.left
      hother.right
    rw [hsame] at hstart ⊢
    exact hkey hstart

theorem inSpan_start (hoffset : IsShift offset) {period : Int}
    (hstart : Instant.IsSupported (interval.start period)) {date : Instant}
    (hlocal : Instant.IsSupported (date.millis + offset)) :
    inSpan (nextDateKey interval offset) (interval.start period - offset) date.millis
      = inPeriod interval offset period date := by
  rw [Bool.eq_iff_iff, inPeriod_iff]
  unfold inSpan
  rw [Bool.and_eq_true, decide_eq_true_eq]
  cases hnext : nextDateKey interval offset (interval.start period - offset) with
  | error e =>
      have hbefore := lt_start_of_nextDateKey_error hoffset hstart hinterval hnext hlocal
      simp only [Except.toOption, Option.all_none, and_true]
      omega
  | ok following =>
      rw [nextDateKey_eq_ok (fun _ _ => hstart) hnext]
      simp only [Except.toOption, Option.all_some, decide_eq_true_eq]
      omega

theorem isPlaced_of_dateKey? {date : Instant} {key : Int}
    (h : dateKey? interval offset date = some key)
    (hshown : Instant.IsSupported (key + offset)) : IsPlaced interval offset key := by
  rcases exists_period (isSupported_of_dateKey? h) hinterval with ⟨period, _, hvalue, _⟩
  rw [hvalue key h, Int.sub_add_cancel] at hshown
  exact ⟨period, hshown, (hvalue key h).symm⟩

theorem strictMono_key (offset : Int) :
    StrictMono (fun period => interval.start period - offset) := by
  intro period later hlt
  have hstart := Interval.strictMono_start hinterval hlt
  dsimp only
  omega

theorem exists_step_of_isPlaced (hoffset : IsShift offset) {key later : Int}
    (hkey : IsPlaced interval offset key) (hlater : IsPlaced interval offset later)
    (hlt : key < later) :
    exists following, nextDateKey interval offset key = .ok following ∧ key < following
      ∧ following <= later := by
  rcases hkey with ⟨period, hstart, rfl⟩
  rcases hlater with ⟨other, hother, rfl⟩
  have hmono := Interval.strictMono_start hinterval
  have hbefore : period < other := hmono.lt_iff_lt.mp (by omega)
  have hnext : interval.start period < interval.start (period + 1) := hmono (lt_add_one period)
  have hle : interval.start (period + 1) <= interval.start other := hmono.monotone hbefore
  have hfollowing := hstart.between hother (le_of_lt hnext) hle
  refine ⟨_, nextDateKey_of_isSupported hoffset hstart hfollowing, ?_, ?_⟩
  · omega
  · omega

end Spans

/-!
# Documents of a date histogram
-/

variable {spec : DateHistogram} {docs : List Document}

def datesOf (spec : DateHistogram) (doc : Document) : List Instant :=
  (doc.values spec.field).filterMap (asInstant? spec.format)

def dateKeys (spec : DateHistogram) (interval : Interval) (offset : Int) (doc : Document) :
    List Int :=
  (datesOf spec doc).filterMap (dateKey? interval offset)

def localDates (spec : DateHistogram) (offset : Int) (doc : Document) : List Instant :=
  (datesOf spec doc).filter (fun date => (Instant.ofMillis? (date.millis + offset)).isSome)

theorem isProper_of_mem_datesOf {doc : Document} {date : Instant} (h : date ∈ datesOf spec doc) :
    date.IsProper := by
  rcases List.mem_filterMap.mp h with ⟨value, _, hdate⟩
  cases value with
  | int n => exact Calendar.ifAny_ofMillis? _ date hdate
  | float x => exact Calendar.ifAny_ofMillis? _ date hdate
  | str text => exact Calendar.ifAny_readDate text spec.format date hdate
  | null | bool _ | arr _ | obj _ => cases hdate

theorem mem_localDates {doc : Document} {date : Instant} :
    date ∈ localDates spec offset doc
      <-> date ∈ datesOf spec doc ∧ Instant.IsSupported (date.millis + offset) := by
  unfold localDates
  rw [List.mem_filter, Instant.isSome_ofMillis?]

def membersOf (spec : DateHistogram) (interval : Interval) (offset : Int) (docs : List Document)
    (period : Int) : List Document :=
  docs.filter (fun doc => (localDates spec offset doc).any (inPeriod interval offset period))

theorem holders_dateKeys (hinterval : interval.IsMeasured) {period : Int}
    (hstart : HasStart interval period) :
    holders (dateKeys spec interval offset) docs (interval.start period - offset)
      = membersOf spec interval offset docs period := by
  apply List.filter_congr
  intro doc _
  rw [Bool.eq_iff_iff, List.contains_iff_mem, List.any_eq_true]
  unfold dateKeys
  rw [List.mem_filterMap]
  constructor
  · rintro ⟨date, hdate, hkey⟩
    rcases (dateKey?_eq_some_iff hinterval hstart).mp hkey with ⟨hlocal, hperiod⟩
    exact ⟨date, mem_localDates.mpr ⟨hdate, hlocal⟩, hperiod⟩
  · rintro ⟨date, hdate, hperiod⟩
    rcases mem_localDates.mp hdate with ⟨hdate, hlocal⟩
    exact ⟨date, hdate, (dateKey?_eq_some_iff hinterval hstart).mpr ⟨hlocal, hperiod⟩⟩

theorem isPlaced_of_occupied (hinterval : interval.IsMeasured) {key : Int}
    (h : key ∈ docs.flatMap (dateKeys spec interval offset))
    (hshown : Instant.IsSupported (key + offset)) : IsPlaced interval offset key := by
  rcases List.mem_flatMap.mp h with ⟨doc, _, hkey⟩
  rcases List.mem_filterMap.mp hkey with ⟨date, _, hvalue⟩
  exact isPlaced_of_dateKey? hinterval hvalue hshown

/-!
# Keys within 64 bits
-/

/-- The keys of all dates are computed within 64 bits. -/
def KeysFit (spec : DateHistogram) (interval : Interval) (offset : Int) (docs : List Document) :
    Prop :=
  forall doc date, doc ∈ docs -> date ∈ datesOf spec doc -> KeyFits interval offset date

theorem keysFit_calendar (spec : DateHistogram) (hoffset : IsShift offset) (docs : List Document)
    (unit : Calendar.Unit) : KeysFit spec (.calendar unit) offset docs := by
  intro doc date _ hdate
  refine ⟨hoffset.fits_shifted (isProper_of_mem_datesOf hdate), ?_⟩
  intro key hkey
  have hlocal := isSupported_of_dateKey? hkey
  rw [dateKey?_of_isSupported hlocal, dateStart?, Option.map_map] at hkey
  rcases Option.map_eq_some_iff.mp hkey with ⟨start, hfloor, rfl⟩
  rcases Instant.floor?_start hlocal unit with ⟨period, _, _, hstart⟩
  rw [hstart] at hfloor
  rw [Function.comp_apply, Instant.millis_of_ofMillis? hfloor]
  exact hoffset.fits_unshifted (Instant.ofMillis?_eq_some_iff.mp hfloor).left

theorem filterMap_id_map {f : Instant -> Option Int} (dates : List Instant) :
    (dates.map f).filterMap id = dates.filterMap f := by
  rw [List.filterMap_map]
  rfl

theorem keyedByDate_of_fits {doc : Document}
    (h : forall date, date ∈ datesOf spec doc -> KeyFits interval offset date) :
    keyedByDate spec interval offset doc = .ok (dateKeys spec interval offset doc, doc) := by
  have hkeys : (datesOf spec doc).mapM (dateKey interval offset)
      = .ok ((datesOf spec doc).map (dateKey? interval offset)) := by
    have hmap := @mapM_map_eq_ok _ _ _ _ (dateKey interval offset) id
      (dateKey? interval offset) (datesOf spec doc)
      (fun date hdate => dateKey_of_keyFits (h date hdate))
    rwa [List.map_id] at hmap
  unfold keyedByDate
  unfold datesOf at hkeys
  rw [hkeys, ok_bind, filterMap_id_map]
  rfl

theorem mapM_keyedByDate (h : KeysFit spec interval offset docs) :
    docs.mapM (keyedByDate spec interval offset)
      = .ok (docs.map (fun doc => (dateKeys spec interval offset doc, doc))) := by
  have hmap := @mapM_map_eq_ok _ _ _ _ (keyedByDate spec interval offset) id
    (fun doc => (dateKeys spec interval offset doc, doc)) docs
    (fun doc hdoc => keyedByDate_of_fits (fun date hdate => h doc date hdoc hdate))
  rwa [List.map_id] at hmap

theorem mapM_keyedByDate_of_not_fits (h : ¬KeysFit spec interval offset docs) :
    docs.mapM (keyedByDate spec interval offset) = .error .aborted := by
  have hkey : forall date e, dateKey interval offset date = .error e -> e = .aborted := by
    intro date e hfails
    by_cases hfits : KeyFits interval offset date
    · rw [dateKey_of_keyFits hfits] at hfails
      cases hfails
    · rw [dateKey_of_not_keyFits hfits] at hfails
      exact (Except.error.inj hfails).symm
  unfold KeysFit at h
  push Not at h
  rcases h with ⟨doc, date, hdoc, hdate, hbeyond⟩
  apply mapM_eq_error
  · intro other _ e hfails
    rcases bind_eq_error_iff.mp hfails with hfails | ⟨_, _, heq⟩
    · rcases exists_of_mapM_error hfails with ⟨date, _, hfails⟩
      exact hkey date e hfails
    · cases heq
  · refine ⟨doc, hdoc, bind_eq_error_iff.mpr (Or.inl ?_)⟩
    exact mapM_eq_error (fun date _ => hkey date) ⟨date, hdate, dateKey_of_not_keyFits hbeyond⟩

theorem keysFit_of_mapM {keyed : List (List Int × Document)}
    (h : docs.mapM (keyedByDate spec interval offset) = .ok keyed) :
    KeysFit spec interval offset docs := by
  by_contra hnot
  rw [mapM_keyedByDate_of_not_fits hnot] at h
  cases h

theorem dateHistogramBuckets_of_keysFit (hinterval : dateInterval spec = .ok interval)
    (hzone : dateOffset spec.timeZone = .ok offset) (h : KeysFit spec interval offset docs) :
    dateHistogramBuckets spec docs = (do
      let groups <- histogramGroups (nextDateKey interval offset) spec.minDocCount
        (groupByKey (dateKeys spec interval offset) docs)
      groups.mapM (dateBucket spec offset)) := by
  unfold dateHistogramBuckets
  rw [hinterval, hzone, ok_bind, ok_bind, mapM_keyedByDate h, ok_bind]
  rfl

theorem keysFit_of_dateHistogramBuckets {buckets : List Bucket}
    (hinterval : dateInterval spec = .ok interval) (hzone : dateOffset spec.timeZone = .ok offset)
    (h : dateHistogramBuckets spec docs = .ok buckets) : KeysFit spec interval offset docs := by
  unfold dateHistogramBuckets at h
  rw [hinterval, hzone, ok_bind, ok_bind] at h
  rcases bind_eq_ok_iff.mp h with ⟨keyed, hkeyed, _⟩
  exact keysFit_of_mapM hkeyed

/-!
# Buckets of a date histogram
-/

structure Shows (group : Int × List Document) (bucket : Bucket) : Prop where
  key : bucket.key = .int group.1
  docs : bucket.docs = group.2

theorem shows_of_dateBucket {group : Int × List Document} {bucket : Bucket}
    (h : dateBucket spec offset group = .ok bucket) :
    Shows group bucket ∧ Instant.IsSupported (group.1 + offset) := by
  rcases bind_eq_ok_iff.mp h with ⟨shifted, hmeasured, h⟩
  have hshifted := (measured_eq_ok_iff.mp hmeasured).right
  split at h
  · cases h
  · rename_i start hstart
    rcases bind_eq_ok_iff.mp h with ⟨label, _, heq⟩
    cases heq
    rw [<- hshifted] at hstart
    exact ⟨⟨rfl, rfl⟩, (Instant.ofMillis?_eq_some_iff.mp hstart).left⟩

/-- Groups that divide the documents by the periods of an interval. -/
structure PartitionsTime (spec : DateHistogram) (interval : Interval) (offset : Int)
    (docs : List Document) (groups : List (Int × List Document)) : Prop where
  periods : forall group, group ∈ groups -> exists period,
    Instant.IsSupported (interval.start period)
      ∧ group = (interval.start period - offset, membersOf spec interval offset docs period)
  spans : forall group, group ∈ groups ->
    group.2 = docs.filter (fun doc => (localDates spec offset doc).any
      (fun date => inSpan (nextDateKey interval offset) group.1 date.millis))
  apart : (groups.map Prod.fst).Pairwise (fun key later => exists following,
    nextDateKey interval offset key = .ok following ∧ key < following ∧ following <= later)
  /-- Each date of a document that is supported in the zone lies in a period, and the period has a
  group if it has the least number of documents. Only a week that begins before the supported years
  has none. -/
  covered : forall doc date, doc ∈ docs -> date ∈ localDates spec offset doc -> exists period,
    inPeriod interval offset period date = true
      ∧ doc ∈ membersOf spec interval offset docs period
      ∧ ((interval = .calendar .week -> Instant.IsSupported (interval.start period)) ->
          spec.minDocCount.getD 0 <= (membersOf spec interval offset docs period).length ->
            (interval.start period - offset, membersOf spec interval offset docs period) ∈ groups)
  filled : spec.minDocCount.getD 0 = 0 ->
    (groups.map Prod.fst).IsChain (Follows (nextDateKey interval offset))
      ∧ (forall group, groups.head? = some group -> group.2 ≠ [])
      ∧ (forall group, groups.getLast? = some group -> group.2 ≠ [])
  frequent : 0 < spec.minDocCount.getD 0 ->
    (forall group, group ∈ groups -> spec.minDocCount.getD 0 <= group.2.length)
      ∧ forall filled, fillGaps (nextDateKey interval offset)
          (groupByKey (dateKeys spec interval offset) docs) = .ok filled ->
        groups = filled.filter (fun group => spec.minDocCount.getD 0 <= group.2.length)

section Groups

variable (hinterval : interval.IsMeasured)
include hinterval

theorem isFilling_dateKeys {groups : List (Int × List Document)}
    (h : fillGaps (nextDateKey interval offset) (groupByKey (dateKeys spec interval offset) docs)
      = .ok groups)
    (hshown : forall key, key ∈ groups.map Prod.fst -> Instant.IsSupported (key + offset)) :
    IsFilling (nextDateKey interval offset) (docs.flatMap (dateKeys spec interval offset))
        (groups.map Prod.fst)
      ∧ forall key, key ∈ groups.map Prod.fst -> IsPlaced interval offset key := by
  have hoccupied : forall key, key ∈ docs.flatMap (dateKeys spec interval offset) ->
      IsPlaced interval offset key := by
    intro key hkey
    rcases exists_keys_of_fillGaps h with ⟨keys, hgroups, _, hcovers⟩
    rw [hgroups, keys_groupsOf] at hshown
    exact isPlaced_of_occupied hinterval hkey (hshown key (hcovers key hkey))
  -- Periods between two occupied ones are supported.
  have hbetween : forall low high, low ∈ docs.flatMap (dateKeys spec interval offset) ->
      high ∈ docs.flatMap (dateKeys spec interval offset) -> forall period,
        low <= interval.start period - offset -> interval.start period - offset <= high ->
          Instant.IsSupported (interval.start period) := by
    intro low high hlow hhigh period hfrom hto
    rcases hoccupied low hlow with ⟨first, hfirst, rfl⟩
    rcases hoccupied high hhigh with ⟨last, hlast, rfl⟩
    exact hfirst.between hlast (by omega) (by omega)
  have hfilling := isFilling_of_fillGaps (strictMono_key hinterval offset)
    (fun key hkey => (hoccupied key hkey).imp (fun _ hperiod => hperiod.right))
    (fun low high hlow hhigh period _ hfrom hto =>
      nextDateKey_eq_ok (fun _ _ => hbetween low high hlow hhigh period hfrom (le_of_lt hto)))
    h
  refine ⟨hfilling.left, ?_⟩
  intro key hkey
  rcases hfilling.right key hkey with ⟨period, low, high, rfl, hlow, hhigh, hfrom, hto⟩
  exact ⟨period, hbetween low high hlow hhigh period hfrom hto, rfl⟩

theorem isPlaced_of_histogramGroups {groups : List (Int × List Document)}
    (h : histogramGroups (nextDateKey interval offset) spec.minDocCount
      (groupByKey (dateKeys spec interval offset) docs) = .ok groups)
    (hshown : forall key, key ∈ groups.map Prod.fst -> Instant.IsSupported (key + offset))
    {key : Int} (hkey : key ∈ groups.map Prod.fst) : IsPlaced interval offset key := by
  rcases histogramGroups_cases h with ⟨_, hfilled⟩ | ⟨hpos, _⟩
  · exact (isFilling_dateKeys hinterval hfilled hshown).right key hkey
  · rcases exists_keys_of_histogramGroups h with ⟨keys, rfl, _, hoccupied⟩
    rw [keys_groupsOf] at hshown hkey
    exact isPlaced_of_occupied hinterval (hoccupied hpos key hkey) (hshown key hkey)

/-- A date that is supported in the zone lies in a period whose start is a key of its document.
Only weeks can begin before the supported years, and then there is no key. -/
theorem exists_period_of_mem_localDates {doc : Document} (hdoc : doc ∈ docs) {date : Instant}
    (hdate : date ∈ localDates spec offset doc) :
    exists period, inPeriod interval offset period date = true
      ∧ doc ∈ membersOf spec interval offset docs period
      ∧ ((interval = .calendar .week -> Instant.IsSupported (interval.start period)) ->
          HasStart interval period
            ∧ interval.start period - offset ∈ docs.flatMap (dateKeys spec interval offset)) := by
  rcases mem_localDates.mp hdate with ⟨hmem, hlocal⟩
  rcases exists_period hlocal hinterval with ⟨period, hperiod, _, hkey⟩
  refine ⟨period, hperiod, ?_, ?_⟩
  · exact List.mem_filter.mpr ⟨hdoc, List.any_eq_true.mpr ⟨date, hdate, hperiod⟩⟩
  · intro hweek
    have hstart : HasStart interval period := by
      rintro unit rfl
      by_cases hunit : unit = .week
      · exact hweek (by rw [hunit])
      · rcases inPeriod_iff.mp hperiod with ⟨hfrom, hto⟩
        exact isSupported_start hunit hlocal hfrom hto
    exact ⟨hstart, List.mem_flatMap.mpr
      ⟨doc, hdoc, List.mem_filterMap.mpr ⟨date, hmem, hkey hstart⟩⟩⟩

theorem mem_of_histogramGroups {groups : List (Int × List Document)}
    (h : histogramGroups (nextDateKey interval offset) spec.minDocCount
      (groupByKey (dateKeys spec interval offset) docs) = .ok groups)
    {period : Int} (hstart : HasStart interval period)
    (hkey : interval.start period - offset ∈ docs.flatMap (dateKeys spec interval offset))
    (hleast : spec.minDocCount.getD 0 <= (membersOf spec interval offset docs period).length) :
    (interval.start period - offset, membersOf spec interval offset docs period) ∈ groups := by
  rw [<- holders_dateKeys hinterval hstart] at hleast ⊢
  rcases histogramGroups_cases h with ⟨_, hfilled⟩ | ⟨_, rfl⟩
  · rcases exists_keys_of_fillGaps hfilled with ⟨keys, rfl, _, hcovers⟩
    exact List.mem_map_of_mem (hcovers _ hkey)
  · rw [groupByKey_eq, List.mem_filter]
    exact ⟨List.mem_map_of_mem (mem_sortedDistinct.mpr hkey), decide_eq_true hleast⟩

end Groups

theorem ends_of_fillGaps {next : Int -> Except BackendError Int}
    {keysOf : Document -> List Int} {groups : List (Int × List Document)}
    (h : fillGaps next (groupByKey keysOf docs) = .ok groups)
    (hfilling : IsFilling next (docs.flatMap keysOf) (groups.map Prod.fst)) :
    (forall group, groups.head? = some group -> group.2 ≠ [])
      ∧ (forall group, groups.getLast? = some group -> group.2 ≠ []) := by
  rcases exists_keys_of_fillGaps h with ⟨keys, rfl, _, _⟩
  have hfirst := hfilling.first
  have hlast := hfilling.last
  rw [keys_groupsOf] at hfirst hlast
  constructor
  · intro group hgroup
    rcases Option.map_eq_some_iff.mp (List.head?_map.symm.trans hgroup) with ⟨key, hkey, rfl⟩
    rw [hkey] at hfirst
    exact holders_ne_nil.mpr (List.min?_eq_some_iff.mp hfirst.symm).left
  · intro group hgroup
    rcases Option.map_eq_some_iff.mp (List.getLast?_map.symm.trans hgroup) with ⟨key, hkey, rfl⟩
    rw [hkey] at hlast
    exact holders_ne_nil.mpr (List.max?_eq_some_iff.mp hlast.symm).left

theorem membersOf_eq (hinterval : interval.IsMeasured) (hoffset : IsShift offset) {period : Int}
    (hstart : Instant.IsSupported (interval.start period)) :
    membersOf spec interval offset docs period
      = docs.filter (fun doc => (localDates spec offset doc).any (fun date =>
          inSpan (nextDateKey interval offset) (interval.start period - offset) date.millis)) := by
  apply List.filter_congr
  intro doc _
  rw [Bool.eq_iff_iff, List.any_eq_true, List.any_eq_true]
  apply exists_congr
  intro date
  apply and_congr_right
  intro hdate
  rw [inSpan_start hinterval hoffset hstart (mem_localDates.mp hdate).right]

theorem partitionsTime_of_histogramGroups (hinterval : interval.IsMeasured)
    (hoffset : IsZoneOffset offset) {groups : List (Int × List Document)}
    (h : histogramGroups (nextDateKey interval offset) spec.minDocCount
      (groupByKey (dateKeys spec interval offset) docs) = .ok groups)
    (hshown : forall key, key ∈ groups.map Prod.fst -> Instant.IsSupported (key + offset)) :
    PartitionsTime spec interval offset docs groups := by
  have hshift := hoffset.isShift
  have hplaced := @isPlaced_of_histogramGroups _ _ spec docs hinterval groups h hshown
  rcases exists_keys_of_histogramGroups h with ⟨keys, hgroups, hascending, _⟩
  have hperiods : forall group, group ∈ groups -> exists period,
      Instant.IsSupported (interval.start period)
        ∧ group = (interval.start period - offset, membersOf spec interval offset docs period) := by
    intro group hgroup
    rcases hplaced (List.mem_map_of_mem hgroup) with ⟨period, hstart, hkey⟩
    rw [hgroups] at hgroup
    rcases List.mem_map.mp hgroup with ⟨key, _, rfl⟩
    refine ⟨period, hstart, ?_⟩
    rw [<- holders_dateKeys hinterval (fun _ _ => hstart), hkey]
  constructor
  case periods => exact hperiods
  case spans =>
    intro group hgroup
    rcases hperiods group hgroup with ⟨period, hstart, rfl⟩
    exact membersOf_eq hinterval hshift hstart
  case apart =>
    rw [hgroups, keys_groupsOf] at hplaced ⊢
    apply hascending.imp_of_mem
    intro key later hkey hlater hlt
    exact exists_step_of_isPlaced hinterval hshift (hplaced hkey) (hplaced hlater) hlt
  case covered =>
    intro doc date hdoc hdate
    rcases exists_period_of_mem_localDates hinterval hdoc hdate with
      ⟨period, hperiod, hmember, hkey⟩
    refine ⟨period, hperiod, hmember, fun hweek hleast => ?_⟩
    exact mem_of_histogramGroups hinterval h (hkey hweek).left (hkey hweek).right hleast
  case filled =>
    intro hzero
    rcases histogramGroups_cases h with ⟨_, hfilled⟩ | ⟨hpos, _⟩
    · have hfilling := (isFilling_dateKeys hinterval hfilled hshown).left
      exact ⟨hfilling.consecutive, ends_of_fillGaps hfilled hfilling⟩
    · exact absurd hzero (Nat.ne_of_gt hpos)
  case frequent =>
    intro hpos
    rcases histogramGroups_cases h with ⟨hzero, _⟩ | ⟨_, hrare⟩
    · exact absurd hzero (Nat.ne_of_gt hpos)
    constructor
    · intro group hgroup
      rw [hrare] at hgroup
      exact of_decide_eq_true (List.mem_filter.mp hgroup).right
    · intro filled hfilled
      rw [filter_fillGaps hfilled hpos, hrare]

theorem isMeasured_of_dateInterval (h : dateInterval spec = .ok interval) :
    interval.IsMeasured := by
  unfold dateInterval at h
  split at h
  · cases h
  · split at h
    · rename_i hparse
      cases h
      exact Interval.isMeasured_of_parse hparse
    · cases h

theorem groups_of_dateHistogramBuckets {buckets : List Bucket}
    (hinterval : dateInterval spec = .ok interval) (hzone : dateOffset spec.timeZone = .ok offset)
    (h : dateHistogramBuckets spec docs = .ok buckets) :
    exists groups, histogramGroups (nextDateKey interval offset) spec.minDocCount
        (groupByKey (dateKeys spec interval offset) docs) = .ok groups
      ∧ List.Forall₂ Shows groups buckets
      ∧ forall key, key ∈ groups.map Prod.fst -> Instant.IsSupported (key + offset) := by
  have hfits := keysFit_of_dateHistogramBuckets hinterval hzone h
  rw [dateHistogramBuckets_of_keysFit hinterval hzone hfits] at h
  rcases bind_eq_ok_iff.mp h with ⟨groups, hgroups, hbuckets⟩
  refine ⟨groups, hgroups, ?_, ?_⟩
  · exact (mapM_eq_ok_iff.mp hbuckets).imp (fun _ _ h => (shows_of_dateBucket h).left)
  · intro key hkey
    rcases List.mem_map.mp hkey with ⟨group, hgroup, rfl⟩
    rcases exists_result_of_mem_mapM hbuckets hgroup with ⟨bucket, _, hbucket⟩
    exact (shows_of_dateBucket hbucket).right

/-- A date histogram divides the documents by the periods of its interval. -/
theorem partitionsTime_dateHistogramBuckets {buckets : List Bucket}
    (hinterval : dateInterval spec = .ok interval) (hzone : dateOffset spec.timeZone = .ok offset)
    (hoffset : IsZoneOffset offset) (h : dateHistogramBuckets spec docs = .ok buckets) :
    exists groups, List.Forall₂ Shows groups buckets
      ∧ PartitionsTime spec interval offset docs groups := by
  rcases groups_of_dateHistogramBuckets hinterval hzone h with ⟨groups, hgroups, hshows, hshown⟩
  exact ⟨groups, hshows, partitionsTime_of_histogramGroups
    (isMeasured_of_dateInterval hinterval) hoffset hgroups hshown⟩

theorem exists_dateBucket {group : Int × List Document}
    (h : (dateBucket spec offset (group.1, [])).isOk = true) :
    exists bucket, dateBucket spec offset group = .ok bucket := by
  unfold dateBucket at h ⊢
  dsimp only at h
  cases hmeasured : measured (group.1 + offset) with
  | error e =>
      rw [hmeasured] at h
      cases h
  | ok shifted =>
      rw [hmeasured, ok_bind] at h
      rw [ok_bind]
      cases hstart : Instant.ofMillis? shifted with
      | none =>
          rw [hstart] at h
          cases h
      | some start =>
          rw [hstart] at h
          dsimp only at h ⊢
          cases hlabel : renderInstant spec.format start with
          | error e =>
              rw [hlabel] at h
              cases h
          | ok label => exact ⟨_, rfl⟩

/-- A date histogram without a least number of documents is formed where the keys fit, the steps
between them have room and all of them can be shown. -/
theorem exists_dateHistogramBuckets (hinterval : dateInterval spec = .ok interval)
    (hzone : dateOffset spec.timeZone = .ok offset) (hzero : spec.minDocCount.getD 0 = 0)
    (hfits : KeysFit spec interval offset docs) {first last : Int} {walked : List Int}
    (hmin : (docs.flatMap (dateKeys spec interval offset)).min? = some first)
    (hmax : (docs.flatMap (dateKeys spec interval offset)).max? = some last)
    (hwalk : IsWalk (nextDateKey interval offset) last first walked)
    (hroom : walked.length <= maxBuckets)
    (hshown : forall key, key ∈ docs.flatMap (dateKeys spec interval offset) ++ walked ->
      (dateBucket spec offset (key, [])).isOk = true) :
    exists buckets, dateHistogramBuckets spec docs = .ok buckets
      ∧ List.Forall₂ Shows (groupsOf (dateKeys spec interval offset) docs
          (sortedDistinct (docs.flatMap (dateKeys spec interval offset) ++ walked))) buckets := by
  have hfilled := (fillGaps_groupByKey hmin hmax).mpr ⟨walked, hwalk, hroom, rfl⟩
  have hbuckets : forall group, group ∈ groupsOf (dateKeys spec interval offset) docs
      (sortedDistinct (docs.flatMap (dateKeys spec interval offset) ++ walked)) ->
      exists bucket, dateBucket spec offset group = .ok bucket := by
    intro group hgroup
    rcases List.mem_map.mp hgroup with ⟨key, hkey, rfl⟩
    exact exists_dateBucket (hshown key (mem_sortedDistinct.mp hkey))
  rcases exists_mapM_eq_ok hbuckets with ⟨buckets, hformed⟩
  refine ⟨buckets, ?_, ?_⟩
  · rw [dateHistogramBuckets_of_keysFit hinterval hzone hfits]
    exact bind_eq_ok_iff.mpr ⟨_, histogramGroups_of_fillGaps hzero hfilled, hformed⟩
  · exact (mapM_eq_ok_iff.mp hformed).imp (fun _ _ h => (shows_of_dateBucket h).left)

theorem groups_unique {groups others : List (Int × List Document)} {buckets : List Bucket}
    (h : List.Forall₂ Shows groups buckets) (hother : List.Forall₂ Shows others buckets) :
    groups = others := by
  induction h generalizing others with
  | nil =>
      cases hother
      rfl
  | cons hshows _ ih =>
      cases hother with
      | cons hshowsOther hrest =>
          have hkey := Json.int.inj (hshows.key.symm.trans hshowsOther.key)
          have hdocs := hshows.docs.symm.trans hshowsOther.docs
          rw [ih hrest, Prod.ext hkey hdocs]

def visitMonths : DateHistogram :=
  { field := "at", calendarInterval := some "month", timeZone := some "+01:00" }

def lateVisit : Document :=
  { index := "visits", docType := none, id := "1", source := .obj [("at", .int 3499200000)] }

def firstVisit : Document :=
  { index := "visits", docType := none, id := "2", source := .obj [("at", .int (-2680200000))] }

theorem isWalk_visits :
    IsWalk (nextDateKey (.calendar .month) 3600000) 2674800000 (-2682000000)
      [-2682000000, -3600000] := by
  have hfirst : nextDateKey (.calendar .month) 3600000 (-2682000000) = .ok (-3600000) := by
    decide +kernel
  have hsecond : nextDateKey (.calendar .month) 3600000 (-3600000) = .ok 2674800000 := by
    decide +kernel
  exact .step (by decide) hfirst (.step (by decide) hsecond (.done (by decide)))

theorem dateKeys_visits :
    dateKeys visitMonths (.calendar .month) 3600000 lateVisit = [2674800000]
      ∧ dateKeys visitMonths (.calendar .month) 3600000 firstVisit = [-2682000000] := by
  decide +kernel

theorem partitionsTime_visits :
    dateInterval visitMonths = .ok (.calendar .month)
      ∧ dateOffset visitMonths.timeZone = .ok 3600000 ∧ IsZoneOffset 3600000
      ∧ exists buckets, dateHistogramBuckets visitMonths [lateVisit, firstVisit] = .ok buckets
        ∧ List.Forall₂ Shows
            [(-2682000000, [firstVisit]), (-3600000, []), (2674800000, [lateVisit])] buckets
        ∧ PartitionsTime visitMonths (.calendar .month) 3600000 [lateVisit, firstVisit]
            [(-2682000000, [firstVisit]), (-3600000, []), (2674800000, [lateVisit])] := by
  have hinterval : dateInterval visitMonths = .ok (.calendar .month) := by decide +kernel
  have hzone : dateOffset visitMonths.timeZone = .ok 3600000 := by decide +kernel
  have hoffset : IsZoneOffset 3600000 := by decide
  rcases dateKeys_visits with ⟨hlate, hfirst⟩
  have hkeys : [lateVisit, firstVisit].flatMap (dateKeys visitMonths (.calendar .month) 3600000)
      = [2674800000, -2682000000] := by
    rw [List.flatMap_cons, List.flatMap_cons, hlate, hfirst]
    rfl
  have hformed := exists_dateHistogramBuckets hinterval hzone rfl
    (keysFit_calendar visitMonths hoffset.isShift [lateVisit, firstVisit] .month)
    (by rw [hkeys]; rfl) (by rw [hkeys]; rfl) isWalk_visits (by decide)
    (by rw [hkeys]; decide +kernel)
  have hsorted : sortedDistinct ([2674800000, -2682000000] ++ [-2682000000, -3600000])
      = [-2682000000, -3600000, 2674800000] := by
    apply sortedDistinct_eq (by decide)
    intro key
    simp only [List.cons_append, List.nil_append, List.mem_cons, List.not_mem_nil, or_false]
    omega
  rw [hkeys, hsorted] at hformed
  have hgroups : groupsOf (dateKeys visitMonths (.calendar .month) 3600000) [lateVisit, firstVisit]
      [-2682000000, -3600000, 2674800000]
      = [(-2682000000, [firstVisit]), (-3600000, []), (2674800000, [lateVisit])] := by
    simp [groupsOf, holders, hlate, hfirst]
  rw [hgroups] at hformed
  rcases hformed with ⟨buckets, hbuckets, hshown⟩
  rcases partitionsTime_dateHistogramBuckets hinterval hzone hoffset hbuckets with
    ⟨groups, hshows, hpartition⟩
  rw [groups_unique hshows hshown] at hpartition
  exact ⟨hinterval, hzone, hoffset, buckets, hbuckets, hshown, hpartition⟩

end Store
end Rollup
