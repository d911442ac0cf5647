import Rollup.Proofs.Grouping.DateHistogram

/-!
# Range of date keys

The integers that a date histogram computes fit 64 bits, with one exception. The period of a date
before 1970 may start almost 2 ^ 63 milliseconds earlier, and then its start cannot always be moved
out of a zone east of UTC. The evaluation breaks off there.
-/

namespace Rollup
namespace Store

open Calendar (Instant Interval IsShift IsZoneOffset)
open Number (fitsInt64 fitsInt64_iff)
open Request (DateHistogram)

/-!
# Integers of a date histogram
-/

theorem exists_dateStart? {interval : Interval} {step : Nat} (h : interval.millis? = some step)
    (shifted : Instant) : exists start, dateStart? interval shifted = some start := by
  cases interval with
  | calendar unit => cases h
  | fixed count unit => exact ⟨_, rfl⟩

/-- The steps from the least key towards the greatest come by the key. -/
inductive IsVisited (next : Int -> Except BackendError Int) (occupied : List Int) : Int -> Prop
  | first {first last : Int} (hfirst : occupied.min? = some first)
      (hlast : occupied.max? = some last) (h : first < last) : IsVisited next occupied first
  | next {key following last : Int} (hkey : IsVisited next occupied key)
      (hnext : next key = .ok following) (hlast : occupied.max? = some last)
      (h : following < last) : IsVisited next occupied following

/-- The integers that are computed for the keys of dates, the steps between keys and the labels
of groups, whether they fit 64 bits or not. -/
inductive IsComputed (spec : DateHistogram) (interval : Interval) (offset : Int)
    (docs : List Document) : Int -> Prop
  | shifted {doc : Document} {date : Instant} (hdoc : doc ∈ docs)
      (hdate : date ∈ datesOf spec doc) :
      IsComputed spec interval offset docs (date.millis + offset)
  | start {doc : Document} {date shifted : Instant} {start : Int} (hdoc : doc ∈ docs)
      (hdate : date ∈ datesOf spec doc)
      (hshifted : Instant.ofMillis? (date.millis + offset) = some shifted)
      (hstart : dateStart? interval shifted = some start) :
      IsComputed spec interval offset docs start
  | key {doc : Document} {date shifted : Instant} {start : Int} (hdoc : doc ∈ docs)
      (hdate : date ∈ datesOf spec doc)
      (hshifted : Instant.ofMillis? (date.millis + offset) = some shifted)
      (hstart : dateStart? interval shifted = some start) :
      IsComputed spec interval offset docs (start - offset)
  | stepped {key : Int}
      (hkey : IsVisited (nextDateKey interval offset)
        (docs.flatMap (dateKeys spec interval offset)) key) :
      IsComputed spec interval offset docs (key + offset)
  | advanced {key : Int} {unit : Calendar.Unit} {shifted following : Instant}
      (hkey : IsVisited (nextDateKey interval offset)
        (docs.flatMap (dateKeys spec interval offset)) key)
      (hunit : interval = .calendar unit)
      (hshifted : Instant.ofMillis? (key + offset) = some shifted)
      (hfollowing : shifted.advance? unit = some following) :
      IsComputed spec interval offset docs (following.millis - offset)
  | added {key : Int} {step : Nat}
      (hkey : IsVisited (nextDateKey interval offset)
        (docs.flatMap (dateKeys spec interval offset)) key)
      (hstep : interval.millis? = some step) :
      IsComputed spec interval offset docs (key + step)
  | labelled {groups : List (Int × List Document)} {group : Int × List Document}
      (hgroups : histogramGroups (nextDateKey interval offset) spec.minDocCount
        (groupByKey (dateKeys spec interval offset) docs) = .ok groups)
      (hgroup : group ∈ groups) :
      IsComputed spec interval offset docs (group.1 + offset)

/-- The date is before 1970 in the zone, and the step and the offset leave 64 bits. -/
def Underflows (interval : Interval) (offset : Int) (date : Instant) : Prop :=
  Instant.IsSupported (date.millis + offset) ∧ date.millis + offset < 0
    ∧ exists step, interval.millis? = some step ∧ 2 ^ 63 < step + offset

/-!
# Starts of periods
-/

section Starts

variable {interval : Interval} (hinterval : interval.IsMeasured) {millis : Int}
  (hmillis : Instant.IsSupported millis) {start : Int}
  (hstart : dateStart? interval (Instant.ofMillis millis) = some start)
include hmillis hstart

theorem exists_period_of_dateStart? :
    exists period, interval.start period = start
      ∧ forall unit, interval = .calendar unit -> Instant.IsSupported start := by
  cases interval with
  | calendar unit =>
      rcases Instant.floor?_start hmillis unit with ⟨period, _, _, hfloor⟩
      rw [dateStart?, hfloor] at hstart
      rcases Option.map_eq_some_iff.mp hstart with ⟨floored, hfloored, rfl⟩
      rw [Instant.millis_of_ofMillis? hfloored]
      exact ⟨period, rfl, fun _ _ => (Instant.ofMillis?_eq_some_iff.mp hfloored).left⟩
  | fixed count unit =>
      cases hstart
      rw [Instant.millis_ofMillis]
      refine ⟨millis / (count * unit.millis : Nat), ?_, ?_⟩
      · rw [Interval.start_fixed, Int.natCast_mul]
      · intro unit hunit
        cases hunit

include hinterval

theorem fitsInt64_start : fitsInt64 start = true := by
  cases interval with
  | calendar unit =>
      rcases exists_period_of_dateStart? hmillis hstart with ⟨_, _, hsupported⟩
      exact (hsupported unit rfl).fits
  | fixed count unit =>
      cases hstart
      have hfits : ((count * unit.millis : Nat) : Int) < 2 ^ 63 := by
        have := hinterval.right
        omega
      rw [Instant.millis_ofMillis, <- Int.natCast_mul]
      exact Calendar.fitsInt64_floored hmillis (Int.natCast_pos.mpr hinterval.left) hfits

end Starts

theorem fitsInt64_floored_iff {millis step offset : Int} (hmillis : Instant.IsSupported millis)
    (hoffset : IsShift offset) (hpos : 0 < step) (hfits : step < 2 ^ 63) :
    fitsInt64 (millis / step * step - offset) = true
      <-> ¬(millis < 0 ∧ 2 ^ 63 < step + offset) := by
  have hbounds := hmillis.bounds
  have hle : millis / step * step <= millis := Int.ediv_mul_le millis (Int.ne_of_gt hpos)
  have hlt : millis < (millis / step + 1) * step := Int.lt_ediv_add_one_mul_self millis hpos
  rw [Int.add_mul, Int.one_mul] at hlt
  unfold IsShift at hoffset
  rw [fitsInt64_iff]
  by_cases hsign : millis < 0
  · by_cases hlong : -millis <= step
    · -- The step reaches from before the millisecond to 1970.
      have hminus : millis / step = -1 := by
        rw [Int.ediv_eq_iff_of_pos hpos]
        omega
      rw [hminus]
      omega
    · omega
  · have hnonneg : 0 <= millis / step * step :=
      Int.mul_nonneg (Int.ediv_nonneg (Int.not_lt.mp hsign) (Int.le_of_lt hpos)) (Int.le_of_lt hpos)
    omega

section Dates

variable {interval : Interval} (hinterval : interval.IsMeasured) {offset : Int}
  (hoffset : IsShift offset) {date : Instant}
include hinterval hoffset

/-- The start of a date's period is moved out of the zone within 64 bits, unless it underflows. -/
theorem fitsInt64_key_iff {start : Int} (hlocal : Instant.IsSupported (date.millis + offset))
    (hstart : dateStart? interval (Instant.ofMillis (date.millis + offset)) = some start) :
    fitsInt64 (start - offset) = true <-> ¬Underflows interval offset date := by
  unfold Underflows
  cases interval with
  | calendar unit =>
      rcases exists_period_of_dateStart? hlocal hstart with ⟨_, _, hsupported⟩
      constructor
      · rintro _ ⟨_, _, step, hstep, _⟩
        cases hstep
      · intro _
        exact hoffset.fits_unshifted (hsupported unit rfl)
  | fixed count unit =>
      cases hstart
      have hfits : ((count * unit.millis : Nat) : Int) < 2 ^ 63 := by
        have := hinterval.right
        omega
      rw [Instant.millis_ofMillis, <- Int.natCast_mul, fitsInt64_floored_iff hlocal hoffset
        (Int.natCast_pos.mpr hinterval.left) hfits, not_iff_not]
      constructor
      · rintro ⟨hsign, hstep⟩
        exact ⟨hlocal, hsign, _, rfl, hstep⟩
      · rintro ⟨_, hsign, step, hstep, hlong⟩
        cases hstep
        exact ⟨hsign, hlong⟩

theorem keyFits_iff (hdate : date.IsProper) :
    KeyFits interval offset date <-> ¬Underflows interval offset date := by
  constructor
  · rintro ⟨_, hkey⟩ hunder
    have hlocal := hunder.left
    rcases hunder.right.right with ⟨step, hstep, _⟩
    rcases exists_dateStart? hstep (Instant.ofMillis (date.millis + offset)) with ⟨start, hstart⟩
    rw [dateKey?_of_isSupported hlocal, hstart, Option.map_some] at hkey
    exact (fitsInt64_key_iff hinterval hoffset hlocal hstart).mp (hkey _ rfl) hunder
  · intro hunder
    refine ⟨hoffset.fits_shifted hdate, ?_⟩
    intro key hkey
    have hlocal := isSupported_of_dateKey? hkey
    rw [dateKey?_of_isSupported hlocal] at hkey
    rcases Option.map_eq_some_iff.mp hkey with ⟨start, hstart, rfl⟩
    exact (fitsInt64_key_iff hinterval hoffset hlocal hstart).mpr hunder

end Dates

/-!
# Keys between occupied ones
-/

section Keys

variable {spec : DateHistogram} {interval : Interval} {offset : Int} {docs : List Document}

/-- The key is a start of a period, moved out of the zone. Both fit 64 bits. -/
structure IsExact (interval : Interval) (offset key : Int) : Prop where
  place : exists period, interval.start period - offset = key
  fits : fitsInt64 key = true
  local_fits : fitsInt64 (key + offset) = true
  supported : forall unit, interval = .calendar unit -> Instant.IsSupported (key + offset)

/-- The key is a start of a period, moved out of the zone, and lies between occupied keys. -/
def IsWithin (interval : Interval) (offset : Int) (occupied : List Int) (key : Int) : Prop :=
  exists period low high, interval.start period - offset = key ∧ low ∈ occupied ∧ high ∈ occupied
    ∧ low <= key ∧ key <= high

theorem isExact_of_dateKey? (hinterval : interval.IsMeasured) {date : Instant} {key : Int}
    (hfits : fitsInt64 key = true) (h : dateKey? interval offset date = some key) :
    IsExact interval offset key := by
  have hlocal := isSupported_of_dateKey? h
  rw [dateKey?_of_isSupported hlocal] at h
  rcases Option.map_eq_some_iff.mp h with ⟨start, hstart, rfl⟩
  rcases exists_period_of_dateStart? hlocal hstart with ⟨period, hperiod, hsupported⟩
  constructor
  case place => exact ⟨period, by rw [hperiod]⟩
  case fits => exact hfits
  case local_fits =>
    rw [Int.sub_add_cancel]
    exact fitsInt64_start hinterval hlocal hstart
  case supported =>
    rw [Int.sub_add_cancel]
    exact hsupported

section Exact

variable (hinterval : interval.IsMeasured) {occupied : List Int}
  (hexact : forall key, key ∈ occupied -> IsExact interval offset key)

include hexact

theorem isExact_of_isWithin {key : Int} (h : IsWithin interval offset occupied key) :
    IsExact interval offset key := by
  rcases h with ⟨period, low, high, hplace, hlow, hhigh, hfrom, hto⟩
  have hlowest := hexact low hlow
  have hhighest := hexact high hhigh
  have hlowFits := fitsInt64_iff.mp hlowest.fits
  have hhighFits := fitsInt64_iff.mp hhighest.fits
  have hlowLocal := fitsInt64_iff.mp hlowest.local_fits
  have hhighLocal := fitsInt64_iff.mp hhighest.local_fits
  constructor
  case place => exact ⟨period, hplace⟩
  case fits =>
    rw [fitsInt64_iff]
    omega
  case local_fits =>
    rw [fitsInt64_iff]
    omega
  case supported =>
    intro unit hunit
    exact (hlowest.supported unit hunit).between (hhighest.supported unit hunit) (by omega)
      (by omega)

theorem step_of_isWithin {period following : Int}
    (hkey : IsWithin interval offset occupied (interval.start period - offset))
    (h : nextDateKey interval offset (interval.start period - offset) = .ok following) :
    following = interval.start (period + 1) - offset := by
  apply nextDateKey_eq_ok _ h
  intro unit hunit
  have hstart := (isExact_of_isWithin hexact hkey).supported unit hunit
  rwa [Int.sub_add_cancel] at hstart

include hinterval

theorem isWithin_of_isVisited {key : Int}
    (h : IsVisited (nextDateKey interval offset) occupied key) :
    exists period last, interval.start period - offset = key
      ∧ interval.start last - offset ∈ occupied ∧ period < last
      ∧ IsWithin interval offset occupied key := by
  have hmono := strictMono_key hinterval offset
  induction h with
  | first hfirst hlast hlt =>
      have hmin := (List.min?_eq_some_iff.mp hfirst).left
      have hmax := (List.max?_eq_some_iff.mp hlast).left
      rcases (hexact _ hmin).place with ⟨period, rfl⟩
      rcases (hexact _ hmax).place with ⟨last, rfl⟩
      refine ⟨period, last, rfl, hmax, hmono.lt_iff_lt.mp hlt, ?_⟩
      exact ⟨period, _, _, rfl, hmin, hmax, le_refl _, le_of_lt hlt⟩
  | next hkey hnext hlast hlt ih =>
      rcases ih with ⟨period, _, rfl, _, _, hwithin⟩
      have hmax := (List.max?_eq_some_iff.mp hlast).left
      rcases (hexact _ hmax).place with ⟨last, rfl⟩
      have hfollowing := step_of_isWithin hexact hwithin hnext
      subst hfollowing
      rcases hwithin with ⟨_, low, _, _, hlow, _, hfrom, _⟩
      have hnext : interval.start period - offset < interval.start (period + 1) - offset :=
        hmono (lt_add_one period)
      refine ⟨period + 1, last, rfl, hmax, hmono.lt_iff_lt.mp hlt, ?_⟩
      exact ⟨period + 1, low, _, rfl, hlow, hmax, by omega, le_of_lt hlt⟩

theorem fitsInt64_of_step {key : Int} {step : Nat} (hstep : interval.millis? = some step)
    (h : IsVisited (nextDateKey interval offset) occupied key) :
    fitsInt64 (key + step) = true := by
  rcases isWithin_of_isVisited hinterval hexact h with
    ⟨period, last, rfl, hlast, hlt, hwithin⟩
  have hkey := fitsInt64_iff.mp (isExact_of_isWithin hexact hwithin).fits
  have hmax := fitsInt64_iff.mp (hexact _ hlast).fits
  have hle : interval.start (period + 1) - offset <= interval.start last - offset :=
    (strictMono_key hinterval offset).monotone hlt
  have hnext : interval.start (period + 1) = interval.start period + step := by
    cases interval with
    | calendar unit => cases hstep
    | fixed count unit =>
        cases hstep
        rw [Interval.start_fixed, Interval.start_fixed, Int.add_mul, Int.one_mul]
  rw [fitsInt64_iff]
  omega

end Exact

theorem isWithin_of_histogramGroups (hinterval : interval.IsMeasured)
    (hexact : forall key, key ∈ docs.flatMap (dateKeys spec interval offset) ->
      IsExact interval offset key)
    {groups : List (Int × List Document)}
    (h : histogramGroups (nextDateKey interval offset) spec.minDocCount
      (groupByKey (dateKeys spec interval offset) docs) = .ok groups)
    {group : Int × List Document} (hgroup : group ∈ groups) :
    IsWithin interval offset (docs.flatMap (dateKeys spec interval offset)) group.1 := by
  have hkey : group.1 ∈ groups.map Prod.fst := List.mem_map_of_mem hgroup
  rcases histogramGroups_cases h with ⟨_, hfilled⟩ | ⟨hpos, _⟩
  · have hfilling := isFilling_of_fillGaps (strictMono_key hinterval offset)
      (fun key hkey => (hexact key hkey).place)
      (fun low high hlow hhigh period following hfrom hto =>
        step_of_isWithin hexact
          ⟨period, low, high, rfl, hlow, hhigh, hfrom, le_of_lt hto⟩)
      hfilled
    exact hfilling.right _ hkey
  · rcases exists_keys_of_histogramGroups h with ⟨keys, rfl, _, hoccupied⟩
    rw [keys_groupsOf] at hkey
    have hmem := hoccupied hpos _ hkey
    rcases (hexact _ hmem).place with ⟨period, hplace⟩
    exact ⟨period, _, _, hplace, hmem, hmem, le_refl _, le_refl _⟩

theorem isExact_of_occupied (hinterval : interval.IsMeasured)
    (hfits : KeysFit spec interval offset docs) {key : Int}
    (h : key ∈ docs.flatMap (dateKeys spec interval offset)) : IsExact interval offset key := by
  rcases List.mem_flatMap.mp h with ⟨doc, hdoc, hkey⟩
  rcases List.mem_filterMap.mp hkey with ⟨date, hdate, hvalue⟩
  exact isExact_of_dateKey? hinterval ((hfits doc date hdoc hdate).right key hvalue) hvalue

theorem fitsInt64_of_isComputed (hinterval : interval.IsMeasured) (hoffset : IsShift offset)
    (hfits : KeysFit spec interval offset docs) {n : Int}
    (h : IsComputed spec interval offset docs n) : fitsInt64 n = true := by
  have hexact := fun key => @isExact_of_occupied spec interval offset docs hinterval hfits key
  cases h with
  | shifted hdoc hdate => exact hoffset.fits_shifted (isProper_of_mem_datesOf hdate)
  | start hdoc hdate hshifted hstart =>
      rcases Instant.ofMillis?_eq_some_iff.mp hshifted with ⟨hlocal, rfl⟩
      exact fitsInt64_start hinterval hlocal hstart
  | key hdoc hdate hshifted hstart =>
      apply (hfits _ _ hdoc hdate).right
      rw [dateKey?, hshifted, Option.bind_some, hstart, Option.map_some]
  | stepped hkey =>
      rcases isWithin_of_isVisited hinterval hexact hkey with ⟨_, _, _, _, _, hwithin⟩
      exact (isExact_of_isWithin hexact hwithin).local_fits
  | advanced hkey hunit hshifted hfollowing =>
      subst hunit
      rcases isWithin_of_isVisited hinterval hexact hkey with ⟨period, _, rfl, _, _, hwithin⟩
      rw [Int.sub_add_cancel] at hshifted
      rcases Instant.ofMillis?_eq_some_iff.mp hshifted with ⟨_, rfl⟩
      rw [Interval.start_calendar, Instant.advance?_start] at hfollowing
      rw [Instant.millis_of_ofMillis? hfollowing]
      exact hoffset.fits_unshifted (Instant.ofMillis?_eq_some_iff.mp hfollowing).left
  | added hkey hstep => exact fitsInt64_of_step hinterval hexact hstep hkey
  | labelled hgroups hgroup =>
      have hwithin := isWithin_of_histogramGroups hinterval hexact hgroups hgroup
      exact (isExact_of_isWithin hexact hwithin).local_fits

/-!
# Evaluation that breaks off
-/

theorem exists_visited_of_stepKeys {next : Int -> Except BackendError Int} {occupied : List Int}
    {last : Int} (hlast : occupied.max? = some last) {room : Nat} {key : Int} {passed : List Int}
    (hkey : key < last -> IsVisited next occupied key) {e : BackendError}
    (h : stepKeys next last room key passed = .error e) :
    e = .rejected .tooManyBuckets
      ∨ exists visited, IsVisited next occupied visited ∧ next visited = .error e := by
  induction room generalizing key passed with
  | zero =>
      unfold stepKeys at h
      split at h
      · cases h
        exact Or.inl rfl
      · cases h
  | succ room ih =>
      unfold stepKeys at h
      split at h
      · rename_i hlt
        dsimp only at h
        cases hnext : next key with
        | error other =>
            rw [hnext] at h
            cases h
            exact Or.inr ⟨key, hkey hlt, hnext⟩
        | ok following =>
            rw [hnext] at h
            exact ih (fun hfollowing => .next (hkey hlt) hnext hlast hfollowing) h
      · cases h

theorem exists_visited_of_histogramGroups {next : Int -> Except BackendError Int}
    {keysOf : Document -> List Int} {minDocCount : Option Nat} {e : BackendError}
    (h : histogramGroups next minDocCount (groupByKey keysOf docs) = .error e) :
    e = .rejected .tooManyBuckets
      ∨ exists visited, IsVisited next (docs.flatMap keysOf) visited ∧ next visited = .error e := by
  unfold histogramGroups at h
  dsimp only at h
  split at h
  · unfold fillGaps at h
    rw [head?_groupByKey, getLast?_groupByKey] at h
    cases hmin : (docs.flatMap keysOf).min? with
    | none =>
        rw [hmin] at h
        cases h
    | some first =>
        cases hmax : (docs.flatMap keysOf).max? with
        | none =>
            rw [hmin, hmax] at h
            cases h
        | some last =>
            rw [hmin, hmax] at h
            rcases bind_eq_error_iff.mp h with hsteps | ⟨_, _, heq⟩
            · exact exists_visited_of_stepKeys hmax (fun hlt => .first hmin hmax hlt) hsteps
            · cases heq
  · cases h

theorem measured_eq_error {millis : Int} {e : BackendError} (h : measured millis = .error e) :
    ¬fitsInt64 millis = true := by
  intro hfits
  rw [measured_of_fits hfits] at h
  cases h

theorem nextDateKey_ne_aborted {key : Int} (hlocal : fitsInt64 (key + offset) = true)
    (hadvanced : forall unit shifted following, interval = .calendar unit ->
      Instant.ofMillis? (key + offset) = some shifted -> shifted.advance? unit = some following ->
        fitsInt64 (following.millis - offset) = true) :
    nextDateKey interval offset key ≠ .error .aborted := by
  intro hnext
  unfold nextDateKey at hnext
  cases interval with
  | calendar unit =>
      dsimp only at hnext
      rw [measured_of_fits hlocal, ok_bind] at hnext
      cases hstep : (Instant.ofMillis? (key + offset)).bind (fun start => start.advance? unit) with
      | none =>
          rw [hstep] at hnext
          cases hnext
      | some following =>
          rw [hstep] at hnext
          rcases Option.bind_eq_some_iff.mp hstep with ⟨shifted, hshifted, hfollowing⟩
          exact measured_eq_error hnext (hadvanced unit shifted following rfl hshifted hfollowing)
  | fixed count unit =>
      dsimp only at hnext
      split at hnext <;> cases hnext

theorem dateBucket_ne_aborted {group : Int × List Document}
    (hlocal : fitsInt64 (group.1 + offset) = true) :
    dateBucket spec offset group ≠ .error .aborted := by
  intro hbucket
  unfold dateBucket at hbucket
  rw [measured_of_fits hlocal, ok_bind] at hbucket
  split at hbucket
  · cases hbucket
  · rcases bind_eq_error_iff.mp hbucket with hlabel | ⟨_, _, heq⟩
    · unfold renderInstant at hlabel
      split at hlabel <;> cases hlabel
    · cases heq

theorem dateHistogramBuckets_ne_aborted (hinterval : dateInterval spec = .ok interval)
    (hzone : dateOffset spec.timeZone = .ok offset) (hoffset : IsShift offset)
    (hfits : KeysFit spec interval offset docs) :
    dateHistogramBuckets spec docs ≠ .error .aborted := by
  have hcomputed := fun n => @fitsInt64_of_isComputed spec interval offset docs
    (isMeasured_of_dateInterval hinterval) hoffset hfits n
  rw [dateHistogramBuckets_of_keysFit hinterval hzone hfits]
  intro h
  rcases bind_eq_error_iff.mp h with hgroups | ⟨groups, hgroups, hbuckets⟩
  · rcases exists_visited_of_histogramGroups hgroups with hlimit | ⟨key, hkey, hnext⟩
    · cases hlimit
    · refine nextDateKey_ne_aborted (hcomputed _ (.stepped hkey)) ?_ hnext
      intro unit shifted following hunit hshifted hfollowing
      exact hcomputed _ (.advanced hkey hunit hshifted hfollowing)
  · rcases exists_of_mapM_error hbuckets with ⟨group, hgroup, hbucket⟩
    exact dateBucket_ne_aborted (hcomputed _ (.labelled hgroups hgroup)) hbucket

end Keys

/-!
# Integers within 64 bits
-/

/-- A date is moved into the zone and floored within 64 bits, and its key leaves them if and only
if it underflows. All integers of a date histogram fit 64 bits if and only if no date
underflows, and otherwise the evaluation breaks off. -/
theorem fitsInt64_computed {spec : DateHistogram} {interval : Interval} {offset : Int}
    (hinterval : dateInterval spec = .ok interval) (hzone : dateOffset spec.timeZone = .ok offset)
    (hoffset : IsZoneOffset offset) (docs : List Document) :
    (forall doc date, doc ∈ docs -> date ∈ datesOf spec doc ->
        fitsInt64 (date.millis + offset) = true
          ∧ (forall shifted start, Instant.ofMillis? (date.millis + offset) = some shifted ->
              dateStart? interval shifted = some start ->
                fitsInt64 start = true
                  ∧ (fitsInt64 (start - offset) = true <-> ¬Underflows interval offset date))
          ∧ (dateKey interval offset date = .error .aborted <-> Underflows interval offset date))
      ∧ ((forall n, IsComputed spec interval offset docs n -> fitsInt64 n = true)
        <-> forall doc date, doc ∈ docs -> date ∈ datesOf spec doc ->
              ¬Underflows interval offset date)
      ∧ (dateHistogramBuckets spec docs = .error .aborted
        <-> exists doc date, doc ∈ docs ∧ date ∈ datesOf spec doc
              ∧ Underflows interval offset date) := by
  have hmeasured := isMeasured_of_dateInterval hinterval
  have hshift := hoffset.isShift
  have hfits_iff : forall {doc date}, date ∈ datesOf spec doc ->
      (KeyFits interval offset date <-> ¬Underflows interval offset date) :=
    fun hdate => keyFits_iff hmeasured hshift (isProper_of_mem_datesOf hdate)
  refine ⟨?_, ⟨?_, ?_⟩, ?_, ?_⟩
  · intro doc date hdoc hdate
    refine ⟨hshift.fits_shifted (isProper_of_mem_datesOf hdate), ?_, ?_, ?_⟩
    · intro shifted start hshifted hstart
      rcases Instant.ofMillis?_eq_some_iff.mp hshifted with ⟨hlocal, rfl⟩
      exact ⟨fitsInt64_start hmeasured hlocal hstart,
        fitsInt64_key_iff hmeasured hshift hlocal hstart⟩
    · intro haborted
      by_contra hunder
      rw [dateKey_of_keyFits ((hfits_iff hdate).mpr hunder)] at haborted
      cases haborted
    · intro hunder
      exact dateKey_of_not_keyFits (fun hfits => (hfits_iff hdate).mp hfits hunder)
  · intro hall doc date hdoc hdate hunder
    have hlocal := hunder.left
    rcases hunder.right.right with ⟨step, hstep, _⟩
    rcases exists_dateStart? hstep (Instant.ofMillis (date.millis + offset)) with ⟨start, hstart⟩
    have hkey := hall _ (.key hdoc hdate (Instant.ofMillis?_of_isSupported hlocal) hstart)
    exact (fitsInt64_key_iff hmeasured hshift hlocal hstart).mp hkey hunder
  · intro hnone n
    exact fitsInt64_of_isComputed hmeasured hshift
      (fun doc date hdoc hdate => (hfits_iff hdate).mpr (hnone doc date hdoc hdate))
  · intro haborted
    by_contra hnone
    push Not at hnone
    exact dateHistogramBuckets_ne_aborted hinterval hzone hshift
      (fun doc date hdoc hdate => (hfits_iff hdate).mpr (hnone doc date hdoc hdate)) haborted
  · rintro ⟨doc, date, hdoc, hdate, hunder⟩
    have hbeyond : ¬KeysFit spec interval offset docs :=
      fun hfits => (hfits_iff hdate).mp (hfits doc date hdoc hdate) hunder
    unfold dateHistogramBuckets
    rw [hinterval, hzone, ok_bind, ok_bind, mapM_keyedByDate_of_not_fits hbeyond, error_bind]

def vastSteps (zone : String) : DateHistogram :=
  { field := "at", fixedInterval := some "9223372036854774784ms", timeZone := some zone }

theorem dateInterval_vastSteps (zone : String) :
    dateInterval (vastSteps zone) = .ok (.fixed 9223372036854774784 .millisecond) := by
  have hread : Interval.parse "9223372036854774784ms"
      = .ok (.fixed 9223372036854774784 .millisecond) := by
    decide +kernel
  have htext : ((vastSteps zone).calendarInterval <|> (vastSteps zone).fixedInterval)
      = some "9223372036854774784ms" := rfl
  rw [dateInterval, htext]
  dsimp only
  rw [hread]

/-- Two minutes before 1970. -/
def earlyVisit : Document :=
  { index := "visits", docType := none, id := "1", source := .obj [("at", .int (-120000))] }

theorem datesOf_earlyVisit (zone : String) :
    datesOf (vastSteps zone) earlyVisit = [{ seconds := -120, nanos := 0 }] := by
  rfl

theorem fitsInt64_computed_west :
    dateInterval (vastSteps "-00:01") = .ok (.fixed 9223372036854774784 .millisecond)
      ∧ dateOffset (some "-00:01") = .ok (-60000) ∧ IsZoneOffset (-60000)
      ∧ datesOf (vastSteps "-00:01") earlyVisit = [{ seconds := -120, nanos := 0 }]
      ∧ (forall n, IsComputed (vastSteps "-00:01") (.fixed 9223372036854774784 .millisecond)
          (-60000) [earlyVisit] n -> fitsInt64 n = true)
      ∧ dateHistogramBuckets (vastSteps "-00:01") [earlyVisit] ≠ .error .aborted := by
  have hinterval := dateInterval_vastSteps "-00:01"
  have hzone : dateOffset (some "-00:01") = .ok (-60000) := by decide +kernel
  have hoffset : IsZoneOffset (-60000) := by decide
  have hnone : forall date,
      ¬Underflows (.fixed 9223372036854774784 .millisecond) (-60000) date := by
    rintro date ⟨_, _, step, hstep, hlong⟩
    cases hstep
    revert hlong
    decide
  have hcomputed := fitsInt64_computed hinterval hzone hoffset [earlyVisit]
  refine ⟨hinterval, hzone, hoffset, datesOf_earlyVisit _, ?_, ?_⟩
  · exact hcomputed.right.left.mpr (fun _ date _ _ => hnone date)
  · intro haborted
    rcases hcomputed.right.right.mp haborted with ⟨_, date, _, _, hunder⟩
    exact hnone date hunder

/-- East of UTC the key is below the 64-bit integers, and the evaluation breaks off. -/
theorem dateHistogramBuckets_earlyVisit :
    dateInterval (vastSteps "+00:01") = .ok (.fixed 9223372036854774784 .millisecond)
      ∧ dateOffset (some "+00:01") = .ok 60000 ∧ IsZoneOffset 60000
      ∧ IsComputed (vastSteps "+00:01") (.fixed 9223372036854774784 .millisecond) 60000
          [earlyVisit] (-9223372036854834784)
      ∧ fitsInt64 (-9223372036854834784) = false
      ∧ dateHistogramBuckets (vastSteps "+00:01") [earlyVisit] = .error .aborted := by
  have hinterval := dateInterval_vastSteps "+00:01"
  have hzone : dateOffset (some "+00:01") = .ok 60000 := by decide +kernel
  have hdate : { seconds := -120, nanos := 0 } ∈ datesOf (vastSteps "+00:01") earlyVisit := by
    rw [datesOf_earlyVisit]
    exact List.mem_singleton_self _
  have hcomputed : IsComputed (vastSteps "+00:01") (.fixed 9223372036854774784 .millisecond) 60000
      [earlyVisit] (-9223372036854774784 - 60000) := by
    apply @IsComputed.key _ _ _ _ earlyVisit { seconds := -120, nanos := 0 }
      { seconds := -60, nanos := 0 } _ (List.mem_singleton_self _) hdate
    · decide +kernel
    · decide +kernel
  have hkey : dateKey (.fixed 9223372036854774784 .millisecond) 60000
      { seconds := -120, nanos := 0 } = .error .aborted := by
    decide +kernel
  have hbeyond : ¬KeysFit (vastSteps "+00:01") (.fixed 9223372036854774784 .millisecond) 60000
      [earlyVisit] := by
    intro hfits
    rw [dateKey_of_keyFits (hfits earlyVisit _ (List.mem_singleton_self _) hdate)] at hkey
    cases hkey
  refine ⟨hinterval, hzone, by decide, hcomputed, by decide, ?_⟩
  have hzoned : dateOffset (vastSteps "+00:01").timeZone = .ok 60000 := hzone
  unfold dateHistogramBuckets
  rw [hinterval, hzoned, ok_bind, ok_bind, mapM_keyedByDate_of_not_fits hbeyond, error_bind]

end Store
end Rollup
