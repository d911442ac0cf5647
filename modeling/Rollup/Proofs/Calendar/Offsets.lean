import Mathlib.Data.String.Basic
import Rollup.Calendar.Zone
import Rollup.Proofs.Calendar.IntervalPeriods

/-!
# Offsets of zones

A zone is a name of UTC, or a sign with hours and minutes. The hours and the minutes are
bounded from above only, and each may have a sign of its own. So an offset is bounded and on
the side of UTC that its first sign says, if and only if hours and minutes make no negative
length of time. Reading breaks off where four bytes cannot be halved, and where the
milliseconds of the hours or the minutes do not fit 64 bits.
-/

namespace Rollup
namespace Calendar

open Number (fitsInt64 fitsInt64_iff readInt64?)
open String (utf8Len)

/-!
# Written zones
-/

/-- A text is divided into hours and minutes by its first colon, in the middle of four bytes, or
not at all. -/
inductive IsDivided : List Char -> List Char -> List Char -> Prop
  | colon {hours minutes : List Char} (hcolon : ':' ∉ hours) :
      IsDivided (hours ++ ':' :: minutes) hours minutes
  | halves {hours minutes : List Char} (hcolon : ':' ∉ hours ++ minutes)
      (hhours : utf8Len hours = 2) (hminutes : utf8Len minutes = 2) :
      IsDivided (hours ++ minutes) hours minutes
  | hours {hours : List Char} (hcolon : ':' ∉ hours) (hlength : utf8Len hours ≠ 4) :
      IsDivided hours hours ['0']

/-- A character lies across the middle of four bytes without a colon. -/
def IsTorn (cs : List Char) : Prop :=
  ':' ∉ cs ∧ utf8Len cs = 4
    ∧ exists first c later, cs = first ++ c :: later ∧ utf8Len first < 2
        ∧ 2 < utf8Len first + c.utf8Size

def IsSign (c : Char) : Prop :=
  c = '+' ∨ c = '-'

/-- A zone with a sign before four bytes that cannot be halved. -/
def IsUnsplittable (zone : String) : Prop :=
  exists sign rest, zone.toList = sign :: rest ∧ IsSign sign ∧ IsTorn rest

def IsWritten (zone : String) (sign : Char) (hours minutes : Int) : Prop :=
  exists rest first second, zone.toList = sign :: rest ∧ IsSign sign ∧ IsDivided rest first second
    ∧ readInt64? (String.ofList first) = some hours
    ∧ readInt64? (String.ofList second) = some minutes

def IsAccepted (zone : String) (sign : Char) (hours minutes : Int) : Prop :=
  IsWritten zone sign hours minutes ∧ hours <= 18 ∧ minutes < 60

def IsUtc (zone : String) : Prop :=
  Text.eqIgnoreAsciiCase zone "utc" = true ∨ zone = "Z"
    ∨ Text.eqIgnoreAsciiCase zone "etc/utc" = true

/-- The integers that are computed for an offset. -/
inductive IsOffsetStep (zone : String) : Int -> Prop
  | hours {sign : Char} {hours minutes : Int} (h : IsAccepted zone sign hours minutes) :
      IsOffsetStep zone (hours * 3600000)
  | minutes {sign : Char} {hours minutes : Int} (h : IsAccepted zone sign hours minutes) :
      IsOffsetStep zone (minutes * 60000)
  | size {sign : Char} {hours minutes : Int} (h : IsAccepted zone sign hours minutes) :
      IsOffsetStep zone (hours * 3600000 + minutes * 60000)
  | offset {sign : Char} {hours minutes : Int} (h : IsAccepted zone sign hours minutes) :
      IsOffsetStep zone (signedBy sign (hours * 3600000 + minutes * 60000))

/-!
# Splitting
-/

theorem splitBytes?_cons {count : Nat} (hpos : 0 < count) (c : Char) (cs : List Char) :
    splitBytes? count (c :: cs)
      = if c.utf8Size <= count then
          (splitBytes? (count - c.utf8Size) cs).map (fun parts => (c :: parts.1, parts.2))
        else
          none := by
  obtain ⟨count, rfl⟩ := Nat.exists_eq_succ_of_ne_zero (Nat.ne_of_gt hpos)
  rfl

theorem splitBytes?_append (first rest : List Char) :
    splitBytes? (utf8Len first) (first ++ rest) = some (first, rest) := by
  induction first with
  | nil => rw [String.utf8Len_nil, List.nil_append, splitBytes?]
  | cons c first ih =>
      have hpos := c.utf8Size_pos
      have hrest : utf8Len first + c.utf8Size - c.utf8Size = utf8Len first := by omega
      rw [List.cons_append, String.utf8Len_cons, splitBytes?_cons (by omega), if_pos (by omega),
        hrest, ih]
      rfl

theorem splitBytes?_eq_some_iff {count : Nat} {cs first rest : List Char} :
    splitBytes? count cs = some (first, rest) <-> cs = first ++ rest ∧ utf8Len first = count := by
  constructor
  · intro h
    induction cs generalizing count first with
    | nil =>
        cases count with
        | zero =>
            cases h
            exact ⟨rfl, rfl⟩
        | succ count => cases h
    | cons c cs ih =>
        rcases Nat.eq_zero_or_pos count with rfl | hpos
        · cases h
          exact ⟨rfl, rfl⟩
        rw [splitBytes?_cons hpos] at h
        split at h
        · rename_i hfits
          rcases Option.map_eq_some_iff.mp h with ⟨⟨before, after⟩, hsplit, heq⟩
          cases heq
          rcases ih hsplit with ⟨rfl, hlength⟩
          refine ⟨rfl, ?_⟩
          rw [String.utf8Len_cons, hlength]
          omega
        · cases h
  · rintro ⟨rfl, rfl⟩
    exact splitBytes?_append first rest

theorem splitBytes?_eq_none_iff {count : Nat} {cs : List Char} (hcount : count <= utf8Len cs) :
    splitBytes? count cs = none
      <-> exists first c later, cs = first ++ c :: later ∧ utf8Len first < count
            ∧ count < utf8Len first + c.utf8Size := by
  constructor
  · intro h
    induction cs generalizing count with
    | nil =>
        rw [Nat.le_zero.mp hcount] at h
        cases h
    | cons c cs ih =>
        have hpos : 0 < count := by
          rcases Nat.eq_zero_or_pos count with rfl | hpos
          · cases h
          · exact hpos
        rw [String.utf8Len_cons] at hcount
        rw [splitBytes?_cons hpos] at h
        split at h
        · rename_i hfits
          rcases ih (by omega) (Option.map_eq_none_iff.mp h) with
            ⟨first, torn, later, rfl, hbefore, hafter⟩
          refine ⟨c :: first, torn, later, rfl, ?_, ?_⟩
          · rw [String.utf8Len_cons]
            omega
          · rw [String.utf8Len_cons]
            omega
        · exact ⟨[], c, cs, rfl, hpos, by rw [String.utf8Len_nil]; omega⟩
  · rintro ⟨first, c, later, rfl, hbefore, hafter⟩
    clear hcount
    induction first generalizing count with
    | nil =>
        rw [String.utf8Len_nil] at hbefore hafter
        rw [List.nil_append, splitBytes?_cons hbefore, if_neg (by omega)]
    | cons d first ih =>
        rw [String.utf8Len_cons] at hbefore hafter
        rw [List.cons_append, splitBytes?_cons (by omega), if_pos (by omega),
          ih (by omega) (by omega)]
        rfl

theorem splitZone?_colon {hours : List Char} (hcolon : ':' ∉ hours) (minutes : List Char) :
    splitZone? (hours ++ ':' :: minutes) = some (hours, minutes) := by
  have hspan := @Number.span_append isNotColon hours (':' :: minutes)
    (fun c hc => bne_iff_ne.mpr (fun heq => hcolon (heq ▸ hc)))
    (fun c hc => by cases hc; rfl)
  unfold splitZone?
  rw [if_pos (by simp), hspan.left, hspan.right]
  rfl

theorem splitZone?_of_not_mem {cs : List Char} (hcolon : ':' ∉ cs) :
    splitZone? cs = if utf8Len cs = 4 then splitBytes? 2 cs else some (cs, ['0']) := by
  unfold splitZone?
  rw [if_neg (by simpa using hcolon), String.utf8ByteSize_ofList]

theorem splitZone?_eq_some_iff {cs hours minutes : List Char} :
    splitZone? cs = some (hours, minutes) <-> IsDivided cs hours minutes := by
  constructor
  · intro h
    by_cases hcolon : ':' ∈ cs
    · rcases List.eq_append_cons_of_mem hcolon with ⟨before, after, rfl, hbefore⟩
      rw [splitZone?_colon hbefore] at h
      cases h
      exact .colon hbefore
    · rw [splitZone?_of_not_mem hcolon] at h
      split at h
      · rename_i hfour
        rcases splitBytes?_eq_some_iff.mp h with ⟨rfl, htwo⟩
        rw [String.utf8Len_append] at hfour
        exact .halves hcolon htwo (by omega)
      · rename_i hother
        cases h
        exact .hours hcolon hother
  · intro h
    cases h with
    | colon hcolon => exact splitZone?_colon hcolon _
    | halves hcolon hhours hminutes =>
        rw [splitZone?_of_not_mem hcolon,
          if_pos (by rw [String.utf8Len_append, hhours, hminutes])]
        exact splitBytes?_eq_some_iff.mpr ⟨rfl, hhours⟩
    | hours hcolon hlength => rw [splitZone?_of_not_mem hcolon, if_neg hlength]

theorem splitZone?_eq_none_iff {cs : List Char} : splitZone? cs = none <-> IsTorn cs := by
  unfold IsTorn
  by_cases hcolon : ':' ∈ cs
  · rcases List.eq_append_cons_of_mem hcolon with ⟨before, after, rfl, hbefore⟩
    rw [splitZone?_colon hbefore]
    simp
  · rw [splitZone?_of_not_mem hcolon]
    split
    · rename_i hfour
      rw [splitBytes?_eq_none_iff (by omega)]
      simp only [hcolon, hfour, not_false_eq_true, true_and]
    · rename_i hother
      simp [hother]

/-!
# Reading
-/

theorem not_isSign_iff {c : Char} : (c != '+' && c != '-') = true <-> ¬ IsSign c := by
  unfold IsSign
  rw [Bool.and_eq_true, bne_iff_ne, bne_iff_ne, not_or]

theorem not_isUtc_of_isSign {zone : String} {sign : Char} {rest : List Char}
    (hzone : zone.toList = sign :: rest) (hsign : IsSign sign) : ¬ IsUtc zone := by
  have hlower : sign.toLower = sign := by
    rcases hsign with rfl | rfl <;> decide
  have hname : forall (c : Char) (cs : List Char), ¬ IsSign c ->
      (zone.toList.map Char.toLower == c :: cs) = false := by
    intro c cs hletter
    rw [hzone, List.map_cons, hlower, beq_eq_false_iff_ne]
    intro heq
    cases heq
    exact hletter hsign
  rintro (hutc | rfl | hutc)
  · exact Bool.false_ne_true ((hname 'u' _ (by unfold IsSign; decide)).symm.trans hutc)
  · cases hzone
    rcases hsign with h | h <;> cases h
  · exact Bool.false_ne_true ((hname 'e' _ (by unfold IsSign; decide)).symm.trans hutc)

section Reading

variable {input : String}

theorem parseOffset_of_isUtc (h : IsUtc (Text.trim input)) : parseOffset input = .ok 0 := by
  unfold parseOffset
  dsimp only
  rw [if_pos]
  simpa [IsUtc, or_assoc] using h

theorem parseOffset_of_isTorn {sign : Char} {rest : List Char}
    (hzone : (Text.trim input).toList = sign :: rest) (hsign : IsSign sign) (h : IsTorn rest) :
    parseOffset input = .error (.unsplittable (Text.trim input)) := by
  have hutc := not_isUtc_of_isSign hzone hsign
  unfold parseOffset
  dsimp only
  rw [if_neg (by simpa [IsUtc, or_assoc] using hutc), hzone]
  dsimp only
  rw [if_neg (fun h => not_isSign_iff.mp h hsign), splitZone?_eq_none_iff.mpr h]

theorem parseOffset_of_isAccepted {sign : Char} {hours minutes : Int}
    (h : IsAccepted (Text.trim input) sign hours minutes) :
    parseOffset input
      = if (offsetSteps sign hours minutes).all fitsInt64 then
          .ok (signedBy sign (hours * 3600000 + minutes * 60000))
        else
          .error (.immeasurable (Text.trim input)) := by
  rcases h with ⟨⟨rest, first, second, hzone, hsign, hdivided, hhours, hminutes⟩, hmost, hless⟩
  have hutc := not_isUtc_of_isSign hzone hsign
  unfold parseOffset
  dsimp only
  rw [if_neg (by simpa [IsUtc, or_assoc] using hutc), hzone]
  dsimp only
  rw [if_neg (fun h => not_isSign_iff.mp h hsign), splitZone?_eq_some_iff.mpr hdivided]
  dsimp only
  rw [hhours, hminutes]
  dsimp only
  rw [if_neg (by simp; omega)]

theorem parseOffset_cases (input : String) :
    IsUtc (Text.trim input)
      ∨ IsUnsplittable (Text.trim input)
      ∨ (exists sign hours minutes, IsAccepted (Text.trim input) sign hours minutes)
      ∨ (exists fault, parseOffset input = .error fault
          ∧ forall zone, fault ≠ .unsplittable zone ∧ fault ≠ .immeasurable zone) := by
  unfold parseOffset
  dsimp only
  split
  · rename_i hutc
    exact Or.inl (by simpa [IsUtc, or_assoc] using hutc)
  apply Or.inr
  split
  · exact Or.inr (Or.inr ⟨_, rfl, fun _ => ⟨fun h => (by cases h), fun h => (by cases h)⟩⟩)
  rename_i sign rest hzone
  split
  · exact Or.inr (Or.inr ⟨_, rfl, fun _ => ⟨fun h => (by cases h), fun h => (by cases h)⟩⟩)
  rename_i hsigns
  have hsign : IsSign sign := not_not.mp (fun h => hsigns (not_isSign_iff.mpr h))
  split
  · rename_i hnone
    exact Or.inl ⟨sign, rest, hzone, hsign, splitZone?_eq_none_iff.mp hnone⟩
  rename_i first second hsome
  apply Or.inr
  split
  · rename_i hours minutes hhours hminutes
    split
    · exact Or.inr ⟨_, rfl, fun _ => ⟨fun h => (by cases h), fun h => (by cases h)⟩⟩
    · rename_i hrange
      refine Or.inl ⟨sign, hours, minutes, ⟨rest, first, second, hzone, hsign,
        splitZone?_eq_some_iff.mp hsome, hhours, hminutes⟩, ?_⟩
      simp only [Bool.or_eq_true, decide_eq_true_eq, not_or] at hrange
      omega
  · exact Or.inr ⟨_, rfl, fun _ => ⟨fun h => (by cases h), fun h => (by cases h)⟩⟩

theorem parseOffset_eq_ok_iff {offset : Int} :
    parseOffset input = .ok offset
      <-> (IsUtc (Text.trim input) ∧ offset = 0)
        ∨ exists sign hours minutes, IsAccepted (Text.trim input) sign hours minutes
            ∧ (offsetSteps sign hours minutes).all fitsInt64 = true
            ∧ offset = signedBy sign (hours * 3600000 + minutes * 60000) := by
  constructor
  · intro h
    rcases parseOffset_cases input with
      hutc | ⟨sign, rest, hzone, hsign, htorn⟩ | ⟨sign, hours, minutes, haccepted⟩
        | ⟨fault, hfault, _⟩
    · rw [parseOffset_of_isUtc hutc] at h
      cases h
      exact Or.inl ⟨hutc, rfl⟩
    · rw [parseOffset_of_isTorn hzone hsign htorn] at h
      cases h
    · rw [parseOffset_of_isAccepted haccepted] at h
      split at h
      · rename_i hfits
        cases h
        exact Or.inr ⟨sign, hours, minutes, haccepted, hfits, rfl⟩
      · cases h
    · rw [hfault] at h
      cases h
  · rintro (⟨hutc, rfl⟩ | ⟨sign, hours, minutes, haccepted, hfits, rfl⟩)
    · exact parseOffset_of_isUtc hutc
    · rw [parseOffset_of_isAccepted haccepted, if_pos hfits]

theorem parseOffset_eq_unsplittable_iff :
    (exists zone, parseOffset input = .error (.unsplittable zone))
      <-> IsUnsplittable (Text.trim input) := by
  constructor
  · rintro ⟨zone, h⟩
    rcases parseOffset_cases input with
      hutc | htorn | ⟨sign, hours, minutes, haccepted⟩ | ⟨fault, hfault, hne⟩
    · rw [parseOffset_of_isUtc hutc] at h
      cases h
    · exact htorn
    · rw [parseOffset_of_isAccepted haccepted] at h
      split at h <;> cases h
    · rw [hfault] at h
      cases h
      exact absurd rfl (hne zone).left
  · rintro ⟨sign, rest, hzone, hsign, htorn⟩
    exact ⟨_, parseOffset_of_isTorn hzone hsign htorn⟩

/-- Hours and minutes of a zone whose milliseconds cannot be read do not all fit 64 bits. -/
theorem exists_of_parseOffset_immeasurable {zone : String}
    (h : parseOffset input = .error (.immeasurable zone)) :
    exists value, IsOffsetStep (Text.trim input) value ∧ fitsInt64 value = false := by
  rcases parseOffset_cases input with
    hutc | ⟨sign, rest, hzone, hsign, htorn⟩ | ⟨sign, hours, minutes, haccepted⟩
      | ⟨fault, hfault, hne⟩
  · rw [parseOffset_of_isUtc hutc] at h
    cases h
  · rw [parseOffset_of_isTorn hzone hsign htorn] at h
    cases h
  · rw [parseOffset_of_isAccepted haccepted] at h
    split at h
    · cases h
    · rename_i hfits
      rcases List.all_eq_false.mp (Bool.eq_false_iff.mpr hfits) with ⟨value, hvalue, hbeyond⟩
      refine ⟨value, ?_, Bool.eq_false_iff.mpr hbeyond⟩
      simp only [offsetSteps, List.mem_cons, List.not_mem_nil, or_false] at hvalue
      rcases hvalue with rfl | rfl | rfl | rfl
      · exact .hours haccepted
      · exact .minutes haccepted
      · exact .size haccepted
      · exact .offset haccepted
  · rw [hfault] at h
    cases h
    exact absurd rfl (hne zone).right

end Reading

/-!
# Sound zones
-/

/-- Reading the zone answers, and an offset that it gives has whole minutes, is not longer than 18
hours and 59 minutes, is on the side of UTC that the first sign says, and is computed within 64
bits. -/
structure IsSound (input : String) : Prop where
  answers : ¬ exists zone, parseOffset input = .error (.unsplittable zone)
    ∨ parseOffset input = .error (.immeasurable zone)
  bounded : forall offset, parseOffset input = .ok offset -> IsZoneOffset offset
  whole : forall offset, parseOffset input = .ok offset -> 60000 ∣ offset
  east : (Text.trim input).toList.head? = some '+' ->
    forall offset, parseOffset input = .ok offset -> 0 <= offset
  west : (Text.trim input).toList.head? = some '-' ->
    forall offset, parseOffset input = .ok offset -> offset <= 0
  fits : forall value, IsOffsetStep (Text.trim input) value -> fitsInt64 value = true

/-- Hours and minutes make a negative length of time. -/
def IsReversed (zone : String) : Prop :=
  exists sign hours minutes, IsAccepted zone sign hours minutes ∧ hours * 60 + minutes < 0

section Sound

variable {zone : String} {sign : Char} {hours minutes : Int}

theorem IsAccepted.head? (h : IsAccepted zone sign hours minutes) :
    zone.toList.head? = some sign := by
  rcases h with ⟨⟨rest, _, _, hzone, _⟩, _⟩
  rw [hzone]
  rfl

theorem IsAccepted.isSign (h : IsAccepted zone sign hours minutes) : IsSign sign := by
  rcases h with ⟨⟨_, _, _, _, hsign, _⟩, _⟩
  exact hsign

/-- A length of time that is not negative has at most 18 hours and 59 minutes, whatever the signs of
its parts are. -/
theorem IsAccepted.bounds (h : IsAccepted zone sign hours minutes)
    (hforward : 0 <= hours * 60 + minutes) :
    0 <= hours ∧ hours <= 18 ∧ -1080 <= minutes ∧ minutes < 60 := by
  rcases h with ⟨_, hmost, hless⟩
  omega

theorem signedBy_cases (hsign : IsSign sign) (size : Int) :
    (sign = '+' ∧ signedBy sign size = size) ∨ (sign = '-' ∧ signedBy sign size = -size) := by
  rcases hsign with rfl | rfl
  · exact Or.inl ⟨rfl, rfl⟩
  · exact Or.inr ⟨rfl, rfl⟩

theorem fitsInt64_of_isOffsetStep (hforward : ¬ IsReversed zone) {value : Int}
    (h : IsOffsetStep zone value) : fitsInt64 value = true := by
  have hbounds : forall {sign : Char} {hours minutes : Int}, IsAccepted zone sign hours minutes ->
      0 <= hours ∧ hours <= 18 ∧ -1080 <= minutes ∧ minutes < 60 := by
    intro sign hours minutes haccepted
    apply haccepted.bounds
    by_contra hnegative
    exact hforward ⟨sign, hours, minutes, haccepted, by omega⟩
  rw [fitsInt64_iff]
  cases h with
  | hours haccepted =>
      have := hbounds haccepted
      omega
  | minutes haccepted =>
      have := hbounds haccepted
      omega
  | size haccepted =>
      have := hbounds haccepted
      omega
  | offset haccepted =>
      have := hbounds haccepted
      rcases signedBy_cases haccepted.isSign _ with ⟨_, hsigned⟩ | ⟨_, hsigned⟩
      · rw [hsigned]
        omega
      · rw [hsigned]
        omega

theorem parseOffset_of_fits {input : String}
    (hfits : forall value, IsOffsetStep (Text.trim input) value -> fitsInt64 value = true)
    (h : IsAccepted (Text.trim input) sign hours minutes) :
    parseOffset input = .ok (signedBy sign (hours * 3600000 + minutes * 60000)) := by
  rw [parseOffset_of_isAccepted h, if_pos]
  simp only [offsetSteps, List.all_cons, List.all_nil, hfits _ (.hours h), hfits _ (.minutes h),
    hfits _ (.size h), hfits _ (.offset h), Bool.and_self]

/-- Where no length of time is negative, an offset is one of at most 18 hours and 59 minutes with
the sign of the zone. -/
theorem exists_minutes_of_parseOffset {input : String} (hforward : ¬ IsReversed (Text.trim input))
    {offset : Int} (h : parseOffset input = .ok offset) :
    offset = 0
      ∨ exists sign size, (Text.trim input).toList.head? = some sign ∧ 0 <= size ∧ size <= 1139
          ∧ ((sign = '+' ∧ offset = size * 60000) ∨ (sign = '-' ∧ offset = -(size * 60000))) := by
  rcases parseOffset_eq_ok_iff.mp h with ⟨_, hzero⟩ | ⟨sign, hours, minutes, haccepted, _⟩
  · exact Or.inl hzero
  apply Or.inr
  have hsize : 0 <= hours * 60 + minutes := by
    by_contra hnegative
    exact hforward ⟨sign, hours, minutes, haccepted, by omega⟩
  have hbounds := haccepted.bounds hsize
  rw [parseOffset_of_fits (fun value => fitsInt64_of_isOffsetStep hforward) haccepted] at h
  cases h
  refine ⟨sign, hours * 60 + minutes, haccepted.head?, hsize, by omega, ?_⟩
  rcases signedBy_cases haccepted.isSign (hours * 3600000 + minutes * 60000) with
    ⟨hsign, hsigned⟩ | ⟨hsign, hsigned⟩
  · exact Or.inl ⟨hsign, by omega⟩
  · exact Or.inr ⟨hsign, by omega⟩

theorem mem_of_readInt64?_neg {cs : List Char} {n : Int}
    (h : readInt64? (String.ofList cs) = some n) (hnegative : n < 0) : '-' ∈ cs := by
  unfold readInt64? at h
  rw [String.toList_ofList] at h
  dsimp only at h
  have hsign : (Number.takeSign cs).1 = true := by
    by_contra hpositive
    rw [Bool.not_eq_true] at hpositive
    rw [hpositive] at h
    split at h
    · rw [if_neg Bool.false_ne_true] at h
      split at h
      · cases h
        omega
      · cases h
    · cases h
  unfold Number.takeSign at hsign
  split at hsign
  · exact List.mem_cons_self
  · cases hsign
  · cases hsign

theorem IsReversed.mem_tail (h : IsReversed zone) : '-' ∈ zone.toList.tail := by
  rcases h with ⟨sign, hours, minutes,
    ⟨⟨rest, first, second, hzone, _, hdivided, hhours, hminutes⟩, _, _⟩, hnegative⟩
  have hpart : '-' ∈ first ∨ '-' ∈ second := by
    rcases lt_or_ge hours 0 with hless | hpositive
    · exact Or.inl (mem_of_readInt64?_neg hhours hless)
    · exact Or.inr (mem_of_readInt64?_neg hminutes (by omega))
  rw [hzone, List.tail_cons]
  cases hdivided with
  | colon =>
      rcases hpart with hfirst | hsecond
      · exact List.mem_append_left _ hfirst
      · exact List.mem_append_right _ (List.mem_cons_of_mem _ hsecond)
  | halves => exact List.mem_append.mpr hpart
  | hours =>
      rcases hpart with hfirst | hsecond
      · exact hfirst
      · exact absurd hsecond (by decide)

end Sound

/-- Zones are sound but for two kinds: four bytes that cannot be halved, and a minus sign behind the
first sign that makes the length of time negative. -/
theorem isSound_iff (input : String) :
    (IsSound input <-> ¬ IsUnsplittable (Text.trim input) ∧ ¬ IsReversed (Text.trim input))
      ∧ (IsReversed (Text.trim input) -> '-' ∈ (Text.trim input).toList.tail) := by
  refine ⟨⟨?_, ?_⟩, IsReversed.mem_tail⟩
  · intro h
    refine ⟨fun htorn => ?_, ?_⟩
    · rcases parseOffset_eq_unsplittable_iff.mpr htorn with ⟨zone, hzone⟩
      exact h.answers ⟨zone, Or.inl hzone⟩
    rintro ⟨sign, hours, minutes, haccepted, hnegative⟩
    have hoffset := parseOffset_of_fits h.fits haccepted
    rcases signedBy_cases haccepted.isSign (hours * 3600000 + minutes * 60000) with
      ⟨rfl, hsigned⟩ | ⟨rfl, hsigned⟩
    · have heast := h.east haccepted.head? _ hoffset
      omega
    · have hwest := h.west haccepted.head? _ hoffset
      omega
  · rintro ⟨htorn, hforward⟩
    have hoffsets := fun offset => @exists_minutes_of_parseOffset input hforward offset
    constructor
    · rintro ⟨zone, hzone | hzone⟩
      · exact htorn (parseOffset_eq_unsplittable_iff.mp ⟨zone, hzone⟩)
      · rcases exists_of_parseOffset_immeasurable hzone with ⟨value, hvalue, hbeyond⟩
        rw [fitsInt64_of_isOffsetStep hforward hvalue] at hbeyond
        cases hbeyond
    · intro offset h
      unfold IsZoneOffset
      rcases hoffsets offset h with rfl | ⟨sign, size, _, _, _, ⟨_, rfl⟩ | ⟨_, rfl⟩⟩ <;> omega
    · intro offset h
      rcases hoffsets offset h with rfl | ⟨sign, size, _, _, _, ⟨_, rfl⟩ | ⟨_, rfl⟩⟩ <;> omega
    · intro hplus offset h
      rcases hoffsets offset h with rfl | ⟨sign, size, hhead, _, _, ⟨_, rfl⟩ | ⟨rfl, rfl⟩⟩
      · exact Int.le_refl 0
      · omega
      · rw [hplus] at hhead
        cases hhead
    · intro hminus offset h
      rcases hoffsets offset h with rfl | ⟨sign, size, hhead, _, _, ⟨rfl, rfl⟩ | ⟨_, rfl⟩⟩
      · exact Int.le_refl 0
      · rw [hminus] at hhead
        cases hhead
      · omega
    · exact fun value => fitsInt64_of_isOffsetStep hforward

/-- A second sign turns an offset around or makes it too long for 64 bits, and a letter of two
bytes lies across the middle. -/
theorem parseOffset_signedTwice :
    parseOffset "+-05:00" = .ok (-18000000)
      ∧ parseOffset "--05:00" = .ok 18000000
      ∧ parseOffset "+-2562047788016" = .error (.immeasurable "+-2562047788016")
      ∧ parseOffset "+1é1" = .error (.unsplittable "+1é1") := by
  decide +kernel

end Calendar
end Rollup
