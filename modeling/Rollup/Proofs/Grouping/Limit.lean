import Rollup.Proofs.Answer.Mirror
import Rollup.Proofs.Grouping.DateHistogram

/-!
# The limit on buckets

A histogram without gaps has a bucket for every key from the least occupied one to the
greatest. Only the keys before the greatest are counted against the limit. So a histogram
can have one bucket more than the limit, and is refused where more keys than the limit lie
before the greatest.
-/

namespace Rollup
namespace Store

open Calendar (Instant Interval)
open Request (Aggregation Bucketing DateHistogram Histogram Kinds)

/-!
# Counted keys
-/

section Counting

variable {next : Int -> Except BackendError Int} {keysOf : Document -> List Int}
  {docs : List Document}

/-- The keys from the least occupied one on, each one step after another, that lie before the
greatest. -/
def IsSpanned (next : Int -> Except BackendError Int) (occupied walked : List Int) : Prop :=
  exists first last, occupied.min? = some first ∧ occupied.max? = some last
    ∧ IsWalk next last first walked

theorem IsSpanned.unique {occupied walked other : List Int} (h : IsSpanned next occupied walked)
    (hother : IsSpanned next occupied other) : walked = other := by
  rcases h with ⟨first, last, hmin, hmax, hwalk⟩
  rcases hother with ⟨_, _, hminOther, hmaxOther, hwalkOther⟩
  cases hmin.symm.trans hminOther
  cases hmax.symm.trans hmaxOther
  exact hwalk.unique hwalkOther

theorem length_of_isFilling {filled : List (Int × List Document)}
    (h : fillGaps next (groupByKey keysOf docs) = .ok filled)
    (hfilling : IsFilling next (docs.flatMap keysOf) (filled.map Prod.fst)) :
    (docs.flatMap keysOf = [] ∧ filled.length = 0)
      ∨ exists walked, IsSpanned next (docs.flatMap keysOf) walked
        ∧ walked.length <= maxBuckets ∧ filled.length = walked.length + 1 := by
  rcases fillGaps_cases h with ⟨hfree, hnil⟩ | ⟨first, last, walked, hmin, hmax, hwalk, hroom, _⟩
  · left
    rw [hnil]
    exact ⟨hfree, rfl⟩
  · right
    have hkeys := hwalk.append_eq (hfilling.first.trans hmin) (hfilling.last.trans hmax)
      hfilling.consecutive
    have hlength := congrArg List.length hkeys
    rw [List.length_append, List.length_map, List.length_singleton] at hlength
    exact ⟨walked, ⟨first, last, hmin, hmax, hwalk⟩, hroom, hlength.symm⟩

/-- So many keys and one more, from the key on and each one step after another, lie before the
last. -/
def Overruns (next : Int -> Except BackendError Int) (last : Int) (room : Nat) (key : Int) : Prop :=
  exists trail : List Int, trail.length = room + 1 ∧ trail.head? = some key
    ∧ trail.IsChain (fun visited following => next visited = .ok following)
    ∧ forall visited, visited ∈ trail -> visited < last

theorem Overruns.lt {last key : Int} {room : Nat} (h : Overruns next last room key) :
    key < last := by
  rcases h with ⟨trail, _, hhead, _, hbefore⟩
  exact hbefore key (List.mem_of_head? hhead)

theorem overruns_zero {last key : Int} : Overruns next last 0 key <-> key < last := by
  constructor
  · exact Overruns.lt
  · intro h
    refine ⟨[key], rfl, rfl, List.isChain_singleton key, ?_⟩
    intro visited hvisited
    rw [List.mem_singleton.mp hvisited]
    exact h

theorem overruns_succ {last key : Int} {room : Nat} :
    Overruns next last (room + 1) key
      <-> key < last ∧ exists following, next key = .ok following
        ∧ Overruns next last room following := by
  constructor
  · intro h
    constructor
    · exact h.lt
    · rcases h with ⟨trail, hlength, hhead, hchain, hbefore⟩
      cases trail with
      | nil => cases hhead
      | cons first rest =>
          cases hhead
          rw [List.length_cons, Nat.add_right_cancel_iff] at hlength
          cases rest with
          | nil => cases hlength
          | cons second rest =>
              rcases List.isChain_cons_cons.mp hchain with ⟨hnext, hrest⟩
              refine ⟨second, hnext, second :: rest, hlength, rfl, hrest, ?_⟩
              intro visited hvisited
              exact hbefore visited (List.mem_cons_of_mem _ hvisited)
  · intro h
    rcases h with ⟨hkey, following, hnext, trail, hlength, hhead, hchain, hbefore⟩
    refine ⟨key :: trail, ?_, rfl, ?_, ?_⟩
    · rw [List.length_cons, hlength]
    · rw [List.isChain_cons]
      constructor
      · intro second hsecond
        rw [hhead] at hsecond
        cases hsecond
        exact hnext
      · exact hchain
    · intro visited hvisited
      rcases List.mem_cons.mp hvisited with heq | hmem
      · rw [heq]
        exact hkey
      · exact hbefore visited hmem

/-- More keys than the limit lie before the greatest occupied one. -/
def ExceedsLimit (next : Int -> Except BackendError Int) (occupied : List Int) : Prop :=
  exists first last, occupied.min? = some first ∧ occupied.max? = some last
    ∧ Overruns next last maxBuckets first

section Refused

variable (hnext : forall key, Avoids (fun e => e = .rejected .tooManyBuckets) (next key))
include hnext

theorem stepKeys_eq_tooMany_iff {last : Int} {room : Nat} {key : Int} {passed : List Int} :
    stepKeys next last room key passed = .error (.rejected .tooManyBuckets)
      <-> Overruns next last room key := by
  induction room generalizing key passed with
  | zero =>
      rw [overruns_zero]
      unfold stepKeys
      split
      · rename_i hkey
        simp [hkey]
      · rename_i hkey
        simp [hkey]
  | succ room ih =>
      rw [overruns_succ]
      unfold stepKeys
      split
      · rename_i hkey
        dsimp only
        cases hstep : next key with
        | error e =>
            have hother := hnext key e hstep
            simp [hother]
        | ok following =>
            dsimp only
            rw [ih]
            simp [hkey]
      · rename_i hkey
        simp [hkey]

theorem histogramGroups_eq_tooMany_iff {minDocCount : Option Nat}
    (hzero : minDocCount.getD 0 = 0) :
    histogramGroups next minDocCount (groupByKey keysOf docs) = .error (.rejected .tooManyBuckets)
      <-> ExceedsLimit next (docs.flatMap keysOf) := by
  unfold histogramGroups fillGaps ExceedsLimit
  dsimp only
  rw [if_pos hzero, head?_groupByKey, getLast?_groupByKey]
  cases hmin : (docs.flatMap keysOf).min? with
  | none => simp
  | some first =>
      cases hmax : (docs.flatMap keysOf).max? with
      | none => simp
      | some last =>
          simp only [Option.map_some, bind_eq_error_iff, stepKeys_eq_tooMany_iff hnext]
          constructor
          · intro h
            rcases h with h | ⟨_, _, h⟩
            · exact ⟨first, last, rfl, rfl, h⟩
            · cases h
          · intro h
            rcases h with ⟨_, _, hfirst, hlast, h⟩
            cases hfirst
            cases hlast
            exact Or.inl h

end Refused

end Counting

/-!
# Slots of numbers
-/

section Slots

variable {spec : Histogram} {docs : List Document}

def slotsOf (spec : Histogram) (doc : Document) : List Int :=
  ((doc.values spec.field).filterMap asNumber?).map (slotOf spec.interval)

theorem nextSlot_eq_ok {slot following : Int} (h : nextSlot slot = .ok following) :
    following = slot + 1 := by
  unfold nextSlot at h
  split at h
  · exact (Except.ok.inj h).symm
  · cases h

theorem isFilling_slots {keysOf : Document -> List Int} {filled : List (Int × List Document)}
    (h : fillGaps nextSlot (groupByKey keysOf docs) = .ok filled) :
    IsFilling nextSlot (docs.flatMap keysOf) (filled.map Prod.fst) := by
  have hfilling := isFilling_of_fillGaps strictMono_id (fun key _ => ⟨key, rfl⟩)
    (fun _ _ _ _ slot following _ _ hnext => nextSlot_eq_ok hnext) h
  exact hfilling.left

theorem histogramBuckets_of_positive (h : spec.interval > 0) (docs : List Document) :
    histogramBuckets spec docs = (do
      let groups <- histogramGroups nextSlot spec.minDocCount (groupByKey (slotsOf spec) docs)
      return groups.map (fun group =>
        { key := Json.ofFloat (Float.ofInt group.1 * spec.interval), docs := group.2 })) := by
  unfold histogramBuckets
  rw [decide_eq_true h, Bool.not_true, if_neg Bool.false_ne_true]
  rfl

theorem positive_of_histogramBuckets {buckets : List Bucket}
    (h : histogramBuckets spec docs = .ok buckets) : spec.interval > 0 := by
  by_contra hnot
  unfold histogramBuckets at h
  rw [decide_eq_false hnot, Bool.not_false, if_pos rfl] at h
  cases h

theorem exists_isWalk_slots (count : Nat) {first : Int} (hmin : Number.minInt64 <= first)
    (hmax : first + count <= Number.maxInt64) :
    exists walked, IsWalk nextSlot (first + count) first walked ∧ walked.length = count := by
  induction count generalizing first with
  | zero => exact ⟨[], .done (by omega), rfl⟩
  | succ count ih =>
      have hlast : first + 1 + (count : Int) = first + (count + 1 : Nat) := by omega
      have hnext : nextSlot first = .ok (first + 1) := by
        unfold nextSlot
        rw [if_pos]
        rw [Number.fitsInt64_iff]
        unfold Number.minInt64 at hmin
        unfold Number.maxInt64 at hmax
        omega
      rcases @ih (first + 1) (by omega) (by omega) with ⟨walked, hwalk, hlength⟩
      rw [hlast] at hwalk
      refine ⟨first :: walked, .step (by omega) hnext hwalk, ?_⟩
      rw [List.length_cons, hlength]

theorem exists_histogramBuckets {spec : Histogram} (hpositive : spec.interval > 0)
    (hzero : spec.minDocCount.getD 0 = 0) {docs : List Document} {walked : List Int}
    (hspanned : IsSpanned nextSlot (docs.flatMap (slotsOf spec)) walked)
    (hroom : walked.length <= maxBuckets) :
    exists buckets, histogramBuckets spec docs = .ok buckets
      ∧ buckets.length = walked.length + 1 := by
  rcases hspanned with ⟨first, last, hmin, hmax, hwalk⟩
  have hfilled := (fillGaps_groupByKey hmin hmax).mpr ⟨walked, hwalk, hroom, rfl⟩
  rw [histogramBuckets_of_positive hpositive, histogramGroups_of_fillGaps hzero hfilled, ok_bind]
  refine ⟨_, rfl, ?_⟩
  rw [List.length_map]
  rcases length_of_isFilling hfilled (isFilling_slots hfilled) with
    ⟨hfree, _⟩ | ⟨_, hother, _, hlength⟩
  · rw [hfree] at hmin
    cases hmin
  · rw [hlength, hother.unique ⟨first, last, hmin, hmax, hwalk⟩]

end Slots

/-!
# Histograms without gaps
-/

def fillsGaps : Bucketing -> Bool
  | .dateHistogram spec => spec.minDocCount.getD 0 = 0
  | .histogram spec => spec.minDocCount.getD 0 = 0
  | _ => false

/-- The step from key to key of a histogram, and the keys of its documents. Those of dates have to
fit 64 bits. -/
inductive IsStepped (docs : List Document) :
    Bucketing -> (Int -> Except BackendError Int) -> (Document -> List Int) -> Prop
  | histogram {spec : Histogram} (hpositive : spec.interval > 0) :
      IsStepped docs (.histogram spec) nextSlot (slotsOf spec)
  | dateHistogram {spec : DateHistogram} {interval : Interval} {offset : Int}
      (hinterval : dateInterval spec = .ok interval)
      (hzone : dateOffset spec.timeZone = .ok offset)
      (hfits : KeysFit spec interval offset docs) :
      IsStepped docs (.dateHistogram spec) (nextDateKey interval offset)
        (dateKeys spec interval offset)

section Limit

variable {now : Instant} {bucketing : Bucketing} {docs : List Document}
  {next : Int -> Except BackendError Int} {keysOf : Document -> List Int}

theorem IsStepped.unique {other : Int -> Except BackendError Int} {othersOf : Document -> List Int}
    (h : IsStepped docs bucketing next keysOf) (hother : IsStepped docs bucketing other othersOf) :
    next = other ∧ keysOf = othersOf := by
  cases h with
  | histogram _ =>
      cases hother with
      | histogram _ => exact ⟨rfl, rfl⟩
  | dateHistogram hinterval hzone _ =>
      cases hother with
      | dateHistogram hintervalOther hzoneOther _ =>
          cases hinterval.symm.trans hintervalOther
          cases hzone.symm.trans hzoneOther
          exact ⟨rfl, rfl⟩

theorem exists_filling_of_formBuckets (hfills : fillsGaps bucketing = true) {buckets : List Bucket}
    (h : formBuckets now bucketing docs = .ok buckets) :
    exists next keysOf filled, IsStepped docs bucketing next keysOf
      ∧ fillGaps next (groupByKey keysOf docs) = .ok filled
      ∧ IsFilling next (docs.flatMap keysOf) (filled.map Prod.fst)
      ∧ filled.length = buckets.length := by
  cases bucketing with
  | terms spec | range spec | dateRange spec => cases hfills
  | histogram spec =>
      have hpositive := positive_of_histogramBuckets h
      have hsteps : histogramBuckets spec docs = .ok buckets := h
      rw [histogramBuckets_of_positive hpositive] at hsteps
      rcases bind_eq_ok_iff.mp hsteps with ⟨groups, hgroups, hbuckets⟩
      cases hbuckets
      rcases histogramGroups_cases hgroups with ⟨_, hfilled⟩ | ⟨hpos, _⟩
      · refine ⟨_, _, groups, .histogram hpositive, hfilled, isFilling_slots hfilled, ?_⟩
        rw [List.length_map]
      · exact absurd (of_decide_eq_true hfills) (Nat.ne_of_gt hpos)
  | dateHistogram spec =>
      have hsteps : dateHistogramBuckets spec docs = .ok buckets := h
      rcases bind_eq_ok_iff.mp hsteps with ⟨interval, hinterval, hrest⟩
      rcases bind_eq_ok_iff.mp hrest with ⟨offset, hzone, _⟩
      have hfits := keysFit_of_dateHistogramBuckets hinterval hzone hsteps
      rcases groups_of_dateHistogramBuckets hinterval hzone hsteps with
        ⟨groups, hgroups, hshows, hshown⟩
      rcases histogramGroups_cases hgroups with ⟨_, hfilled⟩ | ⟨hpos, _⟩
      · have hfilling := isFilling_dateKeys (isMeasured_of_dateInterval hinterval) hfilled hshown
        exact ⟨_, _, groups, .dateHistogram hinterval hzone hfits, hfilled, hfilling.left,
          hshows.length_eq⟩
      · exact absurd (of_decide_eq_true hfills) (Nat.ne_of_gt hpos)

/-- A histogram without gaps is refused for its size where more keys than the limit lie before
its greatest key. -/
theorem formBuckets_eq_tooMany_iff (hfills : fillsGaps bucketing = true)
    (hstepped : IsStepped docs bucketing next keysOf) :
    formBuckets now bucketing docs = .error (.rejected .tooManyBuckets)
      <-> ExceedsLimit next (docs.flatMap keysOf) := by
  cases hstepped with
  | @histogram spec hpositive =>
      have hform : formBuckets now (.histogram spec) docs = histogramBuckets spec docs := rfl
      rw [hform, histogramBuckets_of_positive hpositive, bind_eq_error_iff,
        histogramGroups_eq_tooMany_iff (avoids_nextSlot nofun) (of_decide_eq_true hfills)]
      constructor
      · intro h
        rcases h with h | ⟨_, _, h⟩
        · exact h
        · cases h
      · exact Or.inl
  | @dateHistogram spec interval offset hinterval hzone hfits =>
      have hform : formBuckets now (.dateHistogram spec) docs = dateHistogramBuckets spec docs :=
        rfl
      have hgroups := @histogramGroups_eq_tooMany_iff (nextDateKey interval offset)
        (dateKeys spec interval offset) docs (avoids_nextDateKey nofun nofun interval offset)
        spec.minDocCount (of_decide_eq_true hfills)
      rw [hform, <- hgroups, dateHistogramBuckets_of_keysFit hinterval hzone hfits,
        bind_eq_error_iff]
      constructor
      · intro h
        rcases h with h | ⟨groups, _, h⟩
        · exact h
        · -- The labels of the buckets fail for other reasons.
          have havoids : Avoids (fun e => e = .rejected .tooManyBuckets)
              (groups.mapM (dateBucket spec offset)) :=
            .mapM (fun group _ =>
              avoids_dateBucket nofun (fun _ => nofun) (fun _ => nofun) spec offset group)
          exact absurd rfl (havoids _ h)
      · exact Or.inl

/-- The keys before the greatest one are exactly as many as the limit. -/
def FillsLimit (bucketing : Bucketing) (docs : List Document) : Prop :=
  exists next keysOf walked, IsStepped docs bucketing next keysOf
    ∧ IsSpanned next (docs.flatMap keysOf) walked ∧ walked.length = maxBuckets

theorem length_of_formBuckets (hfills : fillsGaps bucketing = true) {buckets : List Bucket}
    (h : formBuckets now bucketing docs = .ok buckets) :
    buckets.length <= maxBuckets + 1
      ∧ (buckets.length <= maxBuckets <-> ¬FillsLimit bucketing docs) := by
  rcases exists_filling_of_formBuckets hfills h with
    ⟨next, keysOf, filled, hstepped, hfilled, hfilling, hlength⟩
  rw [<- hlength]
  rcases length_of_isFilling hfilled hfilling with
    ⟨hfree, hzero⟩ | ⟨walked, hspanned, hroom, hcount⟩
  · rw [hzero]
    refine ⟨Nat.zero_le _, fun _ hlimit => ?_, fun _ => Nat.zero_le _⟩
    rcases hlimit with ⟨_, _, _, hother, ⟨_, _, hmin, _, _⟩, _⟩
    cases (hstepped.unique hother).right
    rw [hfree] at hmin
    cases hmin
  · rw [hcount]
    refine ⟨Nat.succ_le_succ hroom, fun hle hlimit => ?_, fun hlimit => ?_⟩
    · rcases hlimit with ⟨_, _, other, hother, hspannedOther, hfull⟩
      rcases hstepped.unique hother with ⟨hnext, hkeys⟩
      subst hnext
      subst hkeys
      rw [hspanned.unique hspannedOther, hfull] at hle
      exact absurd hle (Nat.not_succ_le_self _)
    · exact lt_of_le_of_ne hroom
        (fun hfull => hlimit ⟨next, keysOf, walked, hstepped, hspanned, hfull⟩)

theorem evaluate_bare (hfills : fillsGaps bucketing = true) (horder : bucketing.order? = none)
    (now : Instant) (name : String) {buckets : List Bucket}
    (h : formBuckets now bucketing docs = .ok buckets) :
    evaluate now name docs (.node (Kinds.ofBucketing bucketing) none)
      = .ok (.buckets (buckets.map (fun bucket => (bucket, [])))) := by
  rw [evaluate, bucketing?_ofBucketing]
  dsimp only
  rw [h, ok_bind]
  unfold orderGroups
  rw [horder]
  cases bucketing with
  | terms spec | range spec | dateRange spec => cases hfills
  | histogram spec | dateHistogram spec => rfl

/-- A histogram without gaps is evaluated to groups of at most one bucket more than the limit. It
has more buckets than the limit exactly where as many keys as the limit lie before its greatest
key, and is refused exactly where even more of them do. -/
theorem evaluate_boundedBuckets {aggregation : Aggregation}
    (hbucketing : aggregation.kinds.bucketing? = some bucketing)
    (hfills : fillsGaps bucketing = true) (now : Instant) (name : String) (docs : List Document) :
    (forall result, evaluate now name docs aggregation = .ok result ->
      exists buckets groups, formBuckets now bucketing docs = .ok buckets
        ∧ result = .buckets groups ∧ groups.length <= buckets.length
        ∧ buckets.length <= maxBuckets + 1
        ∧ (buckets.length <= maxBuckets <-> ¬FillsLimit bucketing docs))
    ∧ forall next keysOf, IsStepped docs bucketing next keysOf ->
        (formBuckets now bucketing docs = .error (.rejected .tooManyBuckets)
          <-> ExceedsLimit next (docs.flatMap keysOf)) := by
  constructor
  · intro result h
    rcases steps_of_bucketing? hbucketing h with
      ⟨groups, ordered, selected, hbuckets, _, hordered, hselected, hresult⟩
    refine ⟨_, selected, hbuckets, hresult, ?_, length_of_formBuckets hfills hbuckets⟩
    calc selected.length
        <= (cutGroups bucketing ordered).length := (sublist_of_selectGroups hselected).length_le
      _ <= ordered.length := (sublist_cutGroups bucketing ordered).length_le
      _ = groups.length := (perm_of_orderGroups hordered).length_eq
      _ = (groups.map Prod.fst).length := by rw [List.length_map]
  · intro next keysOf hstepped
    exact formBuckets_eq_tooMany_iff hfills hstepped

end Limit

def unitSteps : Histogram :=
  { field := "x", interval := 1.0 }

def farApart : List Document :=
  [{ index := "numbers", docType := none, id := "1", source := .obj [("x", .int 0)] },
    { index := "numbers", docType := none, id := "2", source := .obj [("x", .int 65536)] }]

theorem exists_farApartBuckets :
    exists buckets, histogramBuckets unitSteps farApart = .ok buckets
      ∧ buckets.length = maxBuckets + 1 := by
  have hslots : farApart.flatMap (slotsOf unitSteps) = [0, 65536] := by decide +kernel
  have hpositive : unitSteps.interval > 0 := by decide +kernel
  rcases @exists_isWalk_slots 65536 0 (by decide) (by decide) with ⟨walked, hwalk, hlength⟩
  have hspanned : IsSpanned nextSlot (farApart.flatMap (slotsOf unitSteps)) walked := by
    rw [hslots]
    exact ⟨0, 65536, rfl, rfl, hwalk⟩
  rcases exists_histogramBuckets hpositive rfl hspanned (Nat.le_of_eq hlength) with
    ⟨buckets, hbuckets, hcount⟩
  rw [hlength] at hcount
  exact ⟨buckets, hbuckets, hcount⟩

theorem evaluate_boundedBuckets_farApart :
    fillsGaps (.histogram unitSteps) = true
      ∧ exists buckets groups,
        formBuckets { seconds := 0, nanos := 0 } (.histogram unitSteps) farApart = .ok buckets
        ∧ evaluate { seconds := 0, nanos := 0 } "steps" farApart
          (.node (Kinds.ofBucketing (.histogram unitSteps)) none) = .ok (.buckets groups)
        ∧ groups.length <= buckets.length ∧ buckets.length <= maxBuckets + 1
        ∧ (buckets.length <= maxBuckets <-> ¬FillsLimit (.histogram unitSteps) farApart) := by
  have hfills : fillsGaps (.histogram unitSteps) = true := rfl
  rcases exists_farApartBuckets with ⟨formed, hformed, _⟩
  have hevaluated := evaluate_bare hfills rfl { seconds := 0, nanos := 0 } "steps" hformed
  rcases (@evaluate_boundedBuckets (.histogram unitSteps)
      (.node (Kinds.ofBucketing (.histogram unitSteps)) none) rfl hfills
      { seconds := 0, nanos := 0 } "steps" farApart).left _ hevaluated
    with ⟨buckets, groups, hbuckets, hgroups, hlimit⟩
  rw [hgroups] at hevaluated
  exact ⟨hfills, buckets, groups, hbuckets, hevaluated, hlimit⟩

/-- The histogram is not refused and has more buckets than the limit. -/
theorem evaluate_farApart :
    fillsGaps (.histogram unitSteps) = true
      ∧ exists groups, evaluate { seconds := 0, nanos := 0 } "steps" farApart
          (.node (Kinds.ofBucketing (.histogram unitSteps)) none) = .ok (.buckets groups)
        ∧ maxBuckets < groups.length := by
  have hfills : fillsGaps (.histogram unitSteps) = true := rfl
  rcases exists_farApartBuckets with ⟨buckets, hbuckets, hcount⟩
  refine ⟨hfills, _, evaluate_bare hfills rfl _ "steps" hbuckets, ?_⟩
  rw [List.length_map, hcount]
  exact Nat.lt_succ_self _

end Store
end Rollup
