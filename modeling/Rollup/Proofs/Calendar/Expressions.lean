import Rollup.Calendar.DateMath
import Rollup.Proofs.Calendar.Offsets
import Rollup.Store.Bucket

/-!
# Date expressions

An expression is an anchor and steps, which are taken one after another. Each turn uses up
two characters or more, so that every run of steps ends: with a date, with a fault, or at an
amount that has more milliseconds than fit 64 bits. There evaluation breaks off, while all
other amounts that are too large are told as faults.
-/

namespace Rollup
namespace Calendar

open Number (digitsValue fitsInt64 fitsInt64_iff maxInt64 span_append)

/-!
# Amounts
-/

def unitSeconds? : Char -> Option Nat
  | 'w' => some 604800
  | 'd' => some 86400
  | 'h' | 'H' => some 3600
  | 'm' => some 60
  | 's' => some 1
  | _ => none

def amountOf (digits : List Char) : Nat :=
  if digits = [] then 1 else digitsValue 0 digits

/-- The amount has more milliseconds than fit 64 bits. Weeks are counted in days before, and that
count has to fit by itself. -/
def IsImmeasurable (unit : Char) (amount : Nat) : Prop :=
  exists seconds, unitSeconds? unit = some seconds
    ∧ maxInt64 < (amount * seconds * 1000 : Nat) ∧ (unit = 'w' -> (amount * 7 : Nat) <= maxInt64)

theorem stepAmount?_eq_some_iff {digits : List Char} {amount : Nat} :
    stepAmount? digits = some amount <-> amountOf digits = amount ∧ (amount : Int) <= maxInt64 := by
  unfold stepAmount? amountOf
  dsimp only
  split
  · rw [Option.some.injEq]
    refine ⟨fun h => ⟨h, ?_⟩, And.left⟩
    rw [<- h]
    decide
  · split
    · rename_i hfits
      rw [Option.some.injEq]
      exact ⟨fun h => ⟨h, h ▸ hfits⟩, And.left⟩
    · rename_i hfits
      refine ⟨fun h => (by cases h), ?_⟩
      rintro ⟨rfl, h⟩
      exact absurd h hfits

theorem stepAmount?_eq_none_iff {digits : List Char} :
    stepAmount? digits = none <-> maxInt64 < amountOf digits := by
  rw [Option.eq_none_iff_forall_ne_some]
  constructor
  · intro h
    exact Int.not_le.mp (fun hfits => h _ (stepAmount?_eq_some_iff.mpr ⟨rfl, hfits⟩))
  · intro h amount hsome
    rcases stepAmount?_eq_some_iff.mp hsome with ⟨rfl, hfits⟩
    exact Int.not_le.mpr h hfits

theorem ofOption_ne_immeasurable (instant? : Option Instant) :
    Moved.ofOption instant? ≠ .immeasurable := by
  cases instant? <;> exact fun h => by cases h

theorem moveByMonths_ne_immeasurable (instant : Instant) (months : Int) :
    moveByMonths instant months ≠ .immeasurable := by
  unfold moveByMonths
  split
  · exact ofOption_ne_immeasurable _
  · exact fun h => by cases h

theorem natAbs_signedBy (sign : Char) (amount : Nat) : (signedBy sign amount).natAbs = amount := by
  unfold signedBy
  split <;> omega

theorem moveBySeconds_eq_immeasurable_iff {instant : Instant} {sign : Char} {seconds amount : Nat} :
    moveBySeconds instant seconds (signedBy sign amount) = .immeasurable
      <-> maxInt64 < (amount * seconds * 1000 : Nat) := by
  have hsize : (seconds * signedBy sign amount : Int).natAbs = amount * seconds := by
    rw [Int.natAbs_mul, natAbs_signedBy, Int.natAbs_natCast, Nat.mul_comm]
  have hbound : maxSpanSeconds < amount * seconds
      <-> maxInt64 < (amount * seconds * 1000 : Nat) := by
    unfold maxSpanSeconds maxInt64
    omega
  unfold moveBySeconds
  dsimp only
  rw [hsize, <- hbound]
  split
  · exact iff_of_true rfl ‹_›
  · exact iff_of_false (ofOption_ne_immeasurable _) ‹_›

theorem fitsInt64_weeks (sign : Char) (amount : Nat) :
    fitsInt64 (signedBy sign amount * 7) = true <-> (amount * 7 : Nat) <= maxInt64 := by
  rw [fitsInt64_iff]
  unfold signedBy maxInt64
  split <;> omega

theorem isImmeasurable_iff {unit : Char} {seconds amount : Nat}
    (h : unitSeconds? unit = some seconds) :
    IsImmeasurable unit amount
      <-> maxInt64 < (amount * seconds * 1000 : Nat)
        ∧ (unit = 'w' -> (amount * 7 : Nat) <= maxInt64) := by
  unfold IsImmeasurable
  simp only [h, Option.some.injEq, exists_eq_left']

theorem not_isImmeasurable {unit : Char} {amount : Nat} (h : unitSeconds? unit = none) :
    ¬ IsImmeasurable unit amount := by
  rintro ⟨seconds, hseconds, _⟩
  cases h.symm.trans hseconds

theorem move_eq_immeasurable_iff {instant : Instant} {unit sign : Char} {amount : Nat} :
    move instant unit (signedBy sign amount) = .immeasurable <-> IsImmeasurable unit amount := by
  have hplain : forall {seconds : Nat}, unitSeconds? unit = some seconds -> unit ≠ 'w' ->
      (moveBySeconds instant seconds (signedBy sign amount) = .immeasurable
        <-> IsImmeasurable unit amount) := by
    intro seconds hseconds hunit
    rw [isImmeasurable_iff hseconds, moveBySeconds_eq_immeasurable_iff]
    exact (and_iff_left (fun heq => absurd heq hunit)).symm
  unfold move
  split
  · refine iff_of_false ?_ (not_isImmeasurable rfl)
    split
    · exact moveByMonths_ne_immeasurable _ _
    · exact fun h => by cases h
  · exact iff_of_false (moveByMonths_ne_immeasurable _ _) (not_isImmeasurable rfl)
  -- Weeks are the one unit with a check of its own, which makes larger amounts an overflow again.
  · rw [isImmeasurable_iff rfl, <- fitsInt64_weeks sign]
    split
    · rename_i hfits
      rw [and_iff_left (fun _ => hfits)]
      exact moveBySeconds_eq_immeasurable_iff
    · rename_i hfits
      exact iff_of_false (fun h => by cases h) (fun h => hfits (h.right rfl))
  · exact hplain rfl (by decide)
  · exact hplain rfl (by decide)
  · exact hplain rfl (by decide)
  · exact hplain rfl (by decide)
  · exact hplain rfl (by decide)
  · refine iff_of_false (fun h => by cases h) (not_isImmeasurable ?_)
    unfold unitSeconds?
    split
    · contradiction
    · contradiction
    · contradiction
    · contradiction
    · contradiction
    · contradiction
    · rfl

/-!
# Turns
-/

def afterMove (expression : String) (rest : List Char) : Moved -> Except DateFault Instant
  | .to moved => applySteps expression moved rest
  | .outside => .error (.overflow expression)
  | .immeasurable => .error (.immeasurable expression)

def afterAmount (expression : String) (instant : Instant) (amount : Int) :
    List Char -> Except DateFault Instant
  | [] => .error (.missingUnit expression)
  | unit :: rest => afterMove expression rest (move instant unit amount)

structure IsSigned (sign : Char) (digits : List Char) : Prop where
  sign : IsSign sign
  digits : forall c, c ∈ digits -> c.isDigit = true

def EndsDigits (rest : List Char) : Prop :=
  forall c, rest.head? = some c -> c.isDigit = false

section Equations

variable {expression : String} {instant : Instant} {sign unit : Char} {digits rest : List Char}

theorem applySteps_nil : applySteps expression instant [] = .ok instant := by
  rw [applySteps]

theorem applySteps_missingRounding :
    applySteps expression instant ['/'] = .error (.missingRounding expression) := by
  rw [applySteps]

theorem applySteps_round {rounded : Instant} (h : roundDown? instant unit = some rounded) :
    applySteps expression instant ('/' :: unit :: rest) = applySteps expression rounded rest := by
  rw [applySteps, h]

theorem applySteps_invalidRounding (h : roundDown? instant unit = none) :
    applySteps expression instant ('/' :: unit :: rest)
      = .error (.invalidRounding unit expression) := by
  rw [applySteps, h]

theorem applySteps_unexpected (hsign : ¬ IsSign sign) (hslash : sign ≠ '/') :
    applySteps expression instant (sign :: rest) = .error (.unexpected sign expression) := by
  have htest : ¬ (decide (sign = '+') || decide (sign = '-')) = true := by
    rw [Bool.or_eq_true, decide_eq_true_eq, decide_eq_true_eq]
    exact hsign
  rw [applySteps, if_neg htest]
  · exact fun heq => absurd heq hslash
  · exact fun _ _ heq => absurd heq hslash

theorem signedBy_eq (hsign : IsSign sign) (size : Int) :
    signedBy sign size = if sign = '-' then -size else size := by
  rcases hsign with rfl | rfl <;> rfl

theorem applySteps_sign (hsign : IsSign sign) :
    applySteps expression instant (sign :: rest)
      = (stepAmount? (rest.takeWhile Char.isDigit)).elim (.error (.invalidAmount expression))
          (fun size =>
            afterAmount expression instant (signedBy sign size) (rest.dropWhile Char.isDigit)) := by
  have hslash : sign ≠ '/' := by
    rcases hsign with rfl | rfl <;> decide
  have htest : (decide (sign = '+') || decide (sign = '-')) = true := by
    rw [Bool.or_eq_true, decide_eq_true_eq, decide_eq_true_eq]
    exact hsign
  rw [applySteps, if_pos htest]
  · cases stepAmount? (rest.takeWhile Char.isDigit) with
    | none => rfl
    | some size =>
        dsimp only [Option.elim_some]
        rw [signedBy_eq hsign]
        split
        · rename_i hdrop
          rw [hdrop]
          rfl
        · rename_i unit tail hdrop
          rw [hdrop, afterAmount]
          cases move instant unit (if sign = '-' then -(size : Int) else size) <;> rfl
  · exact fun heq => absurd heq hslash
  · exact fun _ _ heq => absurd heq hslash

theorem applySteps_invalidAmount (h : IsSigned sign digits) (hrest : EndsDigits rest)
    (hamount : maxInt64 < amountOf digits) :
    applySteps expression instant (sign :: (digits ++ rest))
      = .error (.invalidAmount expression) := by
  rw [applySteps_sign h.sign, (span_append h.digits hrest).left,
    stepAmount?_eq_none_iff.mpr hamount, Option.elim_none]

theorem applySteps_amount (h : IsSigned sign digits) (hrest : EndsDigits rest)
    (hamount : amountOf digits <= maxInt64) :
    applySteps expression instant (sign :: (digits ++ rest))
      = afterAmount expression instant (signedBy sign (amountOf digits)) rest := by
  rcases span_append h.digits hrest with ⟨htake, hdrop⟩
  rw [applySteps_sign h.sign, htake, hdrop, stepAmount?_eq_some_iff.mpr ⟨rfl, hamount⟩,
    Option.elim_some]

end Equations

/-- How far an expression has been followed: the instant so far and the steps that are left. -/
structure Progress where
  instant : Instant
  steps : List Char

namespace Progress

/-- One step is taken. -/
inductive Next : Progress -> Progress -> Prop
  | move {instant moved : Instant} {sign unit : Char} {digits rest : List Char}
      (h : IsSigned sign digits) (hunit : unit.isDigit = false)
      (hamount : amountOf digits <= maxInt64)
      (hmove : Calendar.move instant unit (signedBy sign (amountOf digits)) = .to moved) :
      Next ⟨instant, sign :: (digits ++ unit :: rest)⟩ ⟨moved, rest⟩
  | round {instant rounded : Instant} {unit : Char} {rest : List Char}
      (h : roundDown? instant unit = some rounded) :
      Next ⟨instant, '/' :: unit :: rest⟩ ⟨rounded, rest⟩

/-- The next step moves by an amount that is no length of time. -/
def AtImmeasurable (progress : Progress) : Prop :=
  exists sign digits unit rest, progress.steps = sign :: (digits ++ unit :: rest)
    ∧ IsSigned sign digits ∧ amountOf digits <= maxInt64 ∧ IsImmeasurable unit (amountOf digits)

/-- No step is taken any more, and this comes of it. -/
inductive Stops (expression : String) : Progress -> Except DateFault Instant -> Prop
  | finished {instant : Instant} : Stops expression ⟨instant, []⟩ (.ok instant)
  | missingRounding {instant : Instant} :
      Stops expression ⟨instant, ['/']⟩ (.error (.missingRounding expression))
  | invalidRounding {instant : Instant} {unit : Char} {rest : List Char}
      (h : roundDown? instant unit = none) :
      Stops expression ⟨instant, '/' :: unit :: rest⟩ (.error (.invalidRounding unit expression))
  | invalidAmount {instant : Instant} {sign : Char} {digits rest : List Char}
      (h : IsSigned sign digits) (hrest : EndsDigits rest)
      (hamount : maxInt64 < amountOf digits) :
      Stops expression ⟨instant, sign :: (digits ++ rest)⟩ (.error (.invalidAmount expression))
  | missingUnit {instant : Instant} {sign : Char} {digits : List Char} (h : IsSigned sign digits)
      (hamount : amountOf digits <= maxInt64) :
      Stops expression ⟨instant, sign :: digits⟩ (.error (.missingUnit expression))
  | overflow {instant : Instant} {sign unit : Char} {digits rest : List Char}
      (h : IsSigned sign digits) (hunit : unit.isDigit = false)
      (hamount : amountOf digits <= maxInt64)
      (hmove : Calendar.move instant unit (signedBy sign (amountOf digits)) = .outside) :
      Stops expression ⟨instant, sign :: (digits ++ unit :: rest)⟩ (.error (.overflow expression))
  | unexpected {instant : Instant} {c : Char} {rest : List Char} (hsign : ¬ IsSign c)
      (hslash : c ≠ '/') :
      Stops expression ⟨instant, c :: rest⟩ (.error (.unexpected c expression))
  | immeasurable {progress : Progress} (h : progress.AtImmeasurable) :
      Stops expression progress (.error (.immeasurable expression))

/-- So many steps are taken. -/
inductive Run : Nat -> Progress -> Progress -> Prop
  | here {progress : Progress} : Run 0 progress progress
  | step {turns : Nat} {first second last : Progress} (h : Next first second)
      (hrest : Run turns second last) : Run (turns + 1) first last

end Progress

theorem isDigit_of_unitSeconds? {unit : Char} {seconds : Nat}
    (h : unitSeconds? unit = some seconds) : unit.isDigit = false := by
  unfold unitSeconds? at h
  split at h
  · rfl
  · rfl
  · rfl
  · rfl
  · rfl
  · rfl
  · cases h

section

variable {expression : String} {progress next last : Progress}

theorem endsDigits_cons {unit : Char} {rest : List Char} (h : unit.isDigit = false) :
    EndsDigits (unit :: rest) := by
  rintro c ⟨⟩
  exact h

theorem applySteps_of_next (h : progress.Next next) :
    applySteps expression progress.instant progress.steps
      = applySteps expression next.instant next.steps := by
  cases h with
  | move h hunit hamount hmove =>
      rw [applySteps_amount h (endsDigits_cons hunit) hamount, afterAmount, hmove, afterMove]
  | round h => exact applySteps_round h

theorem applySteps_of_run {turns : Nat} (h : Progress.Run turns progress last) :
    applySteps expression progress.instant progress.steps
      = applySteps expression last.instant last.steps := by
  induction h with
  | here => rfl
  | step h _ ih => exact (applySteps_of_next h).trans ih

theorem Progress.Next.length_le (h : progress.Next next) :
    next.steps.length + 2 <= progress.steps.length := by
  cases h with
  | move _ _ _ _ =>
      dsimp only
      rw [List.length_cons, List.length_append, List.length_cons]
      omega
  | round _ => exact Nat.le_refl _

theorem Progress.Run.length_le {turns : Nat} (h : Run turns progress last) :
    last.steps.length + 2 * turns <= progress.steps.length := by
  induction h with
  | here => exact Nat.le_refl _
  | step h _ ih =>
      have hstep := h.length_le
      omega

theorem applySteps_of_stops {result : Except DateFault Instant}
    (h : progress.Stops expression result) :
    applySteps expression progress.instant progress.steps = result := by
  cases h with
  | finished => exact applySteps_nil
  | missingRounding => exact applySteps_missingRounding
  | invalidRounding h => exact applySteps_invalidRounding h
  | invalidAmount h hrest hamount => exact applySteps_invalidAmount h hrest hamount
  | @missingUnit instant sign digits h hamount =>
      have hamounts := @applySteps_amount expression instant sign digits [] h
        (fun _ h => by cases h) hamount
      rw [List.append_nil] at hamounts
      exact hamounts
  | overflow h hunit hamount hmove =>
      rw [applySteps_amount h (endsDigits_cons hunit) hamount, afterAmount, hmove, afterMove]
  | unexpected hsign hslash => exact applySteps_unexpected hsign hslash
  | immeasurable h =>
      rcases h with ⟨sign, digits, unit, rest, hsteps, hsigned, hamount, hmeasure⟩
      have hunit : unit.isDigit = false := by
        rcases hmeasure with ⟨seconds, hseconds, _⟩
        exact isDigit_of_unitSeconds? hseconds
      rw [hsteps, applySteps_amount hsigned (endsDigits_cons hunit) hamount, afterAmount,
        move_eq_immeasurable_iff.mpr hmeasure, afterMove]

theorem Progress.next_or_stops_of_isSigned {instant : Instant} {sign : Char}
    {digits rest : List Char} (h : IsSigned sign digits) (hrest : EndsDigits rest) :
    (exists next, Next ⟨instant, sign :: (digits ++ rest)⟩ next)
      ∨ exists result, Stops expression ⟨instant, sign :: (digits ++ rest)⟩ result := by
  by_cases hamount : amountOf digits <= maxInt64
  · cases rest with
    | nil =>
        rw [List.append_nil]
        exact Or.inr ⟨_, .missingUnit h hamount⟩
    | cons unit rest =>
        have hunit : unit.isDigit = false := hrest unit rfl
        rcases hmove : Calendar.move instant unit (signedBy sign (amountOf digits)) with
          moved | _ | _
        · exact Or.inl ⟨_, .move h hunit hamount hmove⟩
        · exact Or.inr ⟨_, .overflow h hunit hamount hmove⟩
        · have hmeasure := move_eq_immeasurable_iff.mp hmove
          exact Or.inr ⟨_, .immeasurable ⟨sign, digits, unit, rest, rfl, h, hamount, hmeasure⟩⟩
  · exact Or.inr ⟨_, .invalidAmount h hrest (Int.not_le.mp hamount)⟩

theorem Progress.next_or_stops (expression : String) (progress : Progress) :
    (exists next, progress.Next next) ∨ exists result, progress.Stops expression result := by
  obtain ⟨instant, steps⟩ := progress
  cases steps with
  | nil => exact Or.inr ⟨_, .finished⟩
  | cons c rest =>
      by_cases hsign : IsSign c
      · have hsigned : IsSigned c (rest.takeWhile Char.isDigit) :=
          ⟨hsign, fun _ => isDigit_of_mem_takeWhile⟩
        have hends : EndsDigits (rest.dropWhile Char.isDigit) :=
          fun d hd => by simpa [hd] using List.head?_dropWhile_not Char.isDigit rest
        have hcases := @next_or_stops_of_isSigned expression instant _ _ _ hsigned hends
        rw [List.takeWhile_append_dropWhile] at hcases
        exact hcases
      by_cases hslash : c = '/'
      · subst hslash
        cases rest with
        | nil => exact Or.inr ⟨_, .missingRounding⟩
        | cons unit rest =>
            cases hround : roundDown? instant unit with
            | none => exact Or.inr ⟨_, .invalidRounding hround⟩
            | some rounded => exact Or.inl ⟨_, .round hround⟩
      · exact Or.inr ⟨_, .unexpected hsign hslash⟩

theorem Progress.exists_run (expression : String) (progress : Progress) :
    exists turns last result, Run turns progress last ∧ last.Stops expression result := by
  induction hlength : progress.steps.length using Nat.strong_induction_on generalizing progress with
  | _ length ih =>
      rcases progress.next_or_stops expression with ⟨next, hnext⟩ | ⟨result, hstops⟩
      · have hshorter := hnext.length_le
        rcases ih next.steps.length (by omega) next rfl with ⟨turns, last, result, hrun, hstops⟩
        exact ⟨turns + 1, last, result, .step hnext hrun, hstops⟩
      · exact ⟨0, progress, result, .here, hstops⟩

end

/-!
# Anchors
-/

def HasBars (cs : List Char) : Prop :=
  ['|', '|'] <:+: cs

theorem hasBars_cons_iff {c : Char} {cs : List Char} :
    HasBars (c :: cs) <-> (c = '|' ∧ cs.head? = some '|') ∨ HasBars cs := by
  unfold HasBars
  rw [List.infix_cons_iff, List.cons_prefix_cons]
  refine or_congr_left (and_congr eq_comm ?_)
  cases cs with
  | nil => simp
  | cons d cs => simp [List.cons_prefix_cons, eq_comm]

theorem splitAnchor?_cons {c : Char} {cs : List Char} (h : ¬ (c = '|' ∧ cs.head? = some '|')) :
    splitAnchor? (c :: cs)
      = (splitAnchor? cs).map (fun parts => (c :: parts.1, parts.2)) := by
  rw [splitAnchor?]
  rintro rest rfl rfl
  exact h ⟨rfl, rfl⟩

theorem head?_bars (anchor steps : List Char) :
    (anchor ++ '|' :: '|' :: steps).head? = (anchor ++ ['|']).head? := by
  cases anchor <;> rfl

theorem splitAnchor?_append {anchor : List Char} (h : ¬ HasBars (anchor ++ ['|']))
    (steps : List Char) : splitAnchor? (anchor ++ '|' :: '|' :: steps) = some (anchor, steps) := by
  induction anchor with
  | nil => rfl
  | cons c anchor ih =>
      rw [List.cons_append, hasBars_cons_iff, not_or] at h
      rw [List.cons_append, splitAnchor?_cons (head?_bars anchor steps ▸ h.left), ih h.right]
      rfl

theorem splitAnchor?_of_not_hasBars {cs : List Char} (h : ¬ HasBars cs) :
    splitAnchor? cs = none := by
  induction cs with
  | nil => rfl
  | cons c cs ih =>
      rw [hasBars_cons_iff, not_or] at h
      rw [splitAnchor?_cons h.left, ih h.right]
      rfl

theorem exists_anchor {cs : List Char} (h : HasBars cs) :
    exists anchor steps, cs = anchor ++ '|' :: '|' :: steps ∧ ¬ HasBars (anchor ++ ['|']) := by
  induction cs with
  | nil => cases List.infix_nil.mp h
  | cons c cs ih =>
      by_cases hbars : c = '|' ∧ cs.head? = some '|'
      · rcases hbars with ⟨rfl, hhead⟩
        rcases List.head?_eq_some_iff.mp hhead with ⟨steps, rfl⟩
        exact ⟨[], steps, rfl, fun hbar => absurd hbar.length_le (by decide)⟩
      · rcases ih ((hasBars_cons_iff.mp h).resolve_left hbars) with ⟨anchor, steps, rfl, hfirst⟩
        refine ⟨c :: anchor, steps, rfl, ?_⟩
        rw [List.cons_append, hasBars_cons_iff]
        exact not_or.mpr ⟨head?_bars anchor steps ▸ hbars, hfirst⟩

/-- Where the steps of an expression start: from the present, from the date before two bars, or from
the date that the expression is, which has no steps. -/
inductive IsAnchored (input : String) (now : Instant) (pattern : Option String) : Progress -> Prop
  | now {steps : List Char} (h : (Text.trim input).toList = ['n', 'o', 'w'] ++ steps) :
      IsAnchored input now pattern ⟨now, steps⟩
  | date {anchor steps : List Char} {instant : Instant}
      (hnow : ¬ ['n', 'o', 'w'] <+: (Text.trim input).toList)
      (h : (Text.trim input).toList = anchor ++ '|' :: '|' :: steps)
      (hfirst : ¬ HasBars (anchor ++ ['|']))
      (hread : readDate (String.ofList anchor) pattern = some instant) :
      IsAnchored input now pattern ⟨instant, steps⟩
  | whole {instant : Instant} (hnow : ¬ ['n', 'o', 'w'] <+: (Text.trim input).toList)
      (hbars : ¬ HasBars (Text.trim input).toList)
      (hread : readDate (Text.trim input) pattern = some instant) :
      IsAnchored input now pattern ⟨instant, []⟩

section

variable {input : String} {now : Instant} {pattern : Option String}

theorem resolveDate_of_date (hnow : ¬ ['n', 'o', 'w'] <+: (Text.trim input).toList)
    {anchor steps : List Char} (h : (Text.trim input).toList = anchor ++ '|' :: '|' :: steps)
    (hfirst : ¬ HasBars (anchor ++ ['|'])) :
    resolveDate input now pattern = (do
      let instant <- anchorAt (String.ofList anchor) pattern
      applySteps (Text.trim input) instant steps) := by
  have hsplit : splitAnchor? (Text.trim input).toList = some (anchor, steps) := by
    rw [h]
    exact splitAnchor?_append hfirst steps
  unfold resolveDate
  dsimp only
  split
  · rename_i later heq
    exact absurd ⟨later, heq.symm⟩ hnow
  · rw [hsplit]

theorem resolveDate_of_whole (hnow : ¬ ['n', 'o', 'w'] <+: (Text.trim input).toList)
    (hbars : ¬ HasBars (Text.trim input).toList) :
    resolveDate input now pattern = anchorAt (Text.trim input) pattern := by
  unfold resolveDate
  dsimp only
  split
  · rename_i later heq
    exact absurd ⟨later, heq.symm⟩ hnow
  · rw [splitAnchor?_of_not_hasBars hbars]

theorem anchorAt_of_readDate {text : String} {instant : Instant}
    (h : readDate text pattern = some instant) : anchorAt text pattern = .ok instant := by
  rw [anchorAt, h]

theorem anchorAt_of_none {text : String} (h : readDate text pattern = none) :
    anchorAt text pattern = .error (.unparsable text) := by
  rw [anchorAt, h]

theorem resolveDate_of_isAnchored {start : Progress} (h : IsAnchored input now pattern start) :
    resolveDate input now pattern = applySteps (Text.trim input) start.instant start.steps := by
  cases h with
  | now h =>
      unfold resolveDate
      dsimp only
      rw [h]
      rfl
  | date hnow h hfirst hread =>
      rw [resolveDate_of_date hnow h hfirst, anchorAt_of_readDate hread]
      rfl
  | whole hnow hbars hread =>
      rw [resolveDate_of_whole hnow hbars, anchorAt_of_readDate hread, applySteps_nil]

theorem isAnchored_or_unparsable (input : String) (now : Instant) (pattern : Option String) :
    (exists start, IsAnchored input now pattern start)
      ∨ exists text, resolveDate input now pattern = .error (.unparsable text) := by
  by_cases hnow : ['n', 'o', 'w'] <+: (Text.trim input).toList
  · rcases hnow with ⟨steps, hsteps⟩
    exact Or.inl ⟨_, .now hsteps.symm⟩
  by_cases hbars : HasBars (Text.trim input).toList
  · rcases exists_anchor hbars with ⟨anchor, steps, h, hfirst⟩
    cases hread : readDate (String.ofList anchor) pattern with
    | some instant => exact Or.inl ⟨_, .date hnow h hfirst hread⟩
    | none =>
        refine Or.inr ⟨String.ofList anchor, ?_⟩
        rw [resolveDate_of_date hnow h hfirst, anchorAt_of_none hread]
        rfl
  · cases hread : readDate (Text.trim input) pattern with
    | some instant => exact Or.inl ⟨_, .whole hnow hbars hread⟩
    | none =>
        refine Or.inr ⟨Text.trim input, ?_⟩
        rw [resolveDate_of_whole hnow hbars, anchorAt_of_none hread]

end

/-- Following the expression comes to an amount that is no length of time. -/
def ComesToImmeasurable (input : String) (now : Instant) (pattern : Option String) : Prop :=
  exists start turns last, IsAnchored input now pattern start ∧ Progress.Run turns start last
    ∧ last.AtImmeasurable

theorem resolveDate_eq_immeasurable_iff {input : String} {now : Instant} {pattern : Option String} :
    (exists expression, resolveDate input now pattern = .error (.immeasurable expression))
      <-> ComesToImmeasurable input now pattern := by
  constructor
  · rintro ⟨expression, h⟩
    rcases isAnchored_or_unparsable input now pattern with ⟨start, hstart⟩ | ⟨text, htext⟩
    · rcases start.exists_run (Text.trim input) with ⟨turns, last, result, hrun, hstops⟩
      refine ⟨start, turns, last, hstart, hrun, ?_⟩
      rw [resolveDate_of_isAnchored hstart, applySteps_of_run hrun, applySteps_of_stops hstops] at h
      subst h
      cases hstops with
      | immeasurable h => exact h
    · cases h.symm.trans htext
  · rintro ⟨start, turns, last, hstart, hrun, himmeasurable⟩
    refine ⟨Text.trim input, ?_⟩
    rw [resolveDate_of_isAnchored hstart, applySteps_of_run hrun]
    exact applySteps_of_stops (.immeasurable himmeasurable)

end Calendar

namespace Store

open Calendar

theorem dateFailure_cases (fault : DateFault) :
    (exists expression, fault = .immeasurable expression ∧ dateFailure fault = .aborted)
      ∨ (forall expression, fault ≠ .immeasurable expression)
        ∧ dateFailure fault = .rejected (.date fault) := by
  cases fault with
  | immeasurable expression => exact Or.inl ⟨expression, rfl, rfl⟩
  | _ => exact Or.inr ⟨fun _ h => (by cases h), rfl⟩

theorem resolveBound_of_error {input : String} {now : Instant} {pattern : Option String}
    {fault : DateFault} (h : resolveDate input now pattern = .error fault) :
    resolveBound now pattern (some input) = .error (dateFailure fault) := by
  rw [resolveBound, h]

theorem resolveBound_of_ok {input : String} {now date : Instant} {pattern : Option String}
    (h : resolveDate input now pattern = .ok date) :
    resolveBound now pattern (some input) = .ok (some date) := by
  rw [resolveBound, h]

/-- A bound of a range is a date or a fault that is told, unless following its expression comes to
an amount of milliseconds that does not fit 64 bits: evaluation breaks off there. Following an
expression ends after at most half as many steps as there are characters. -/
theorem resolveBound_answers_iff (input : String) (now : Instant) (pattern : Option String) :
    ((exists date, resolveBound now pattern (some input) = .ok (some date))
        ∨ (exists fault, resolveBound now pattern (some input) = .error (.rejected (.date fault)))
      <-> ¬ ComesToImmeasurable input now pattern)
    ∧ (ComesToImmeasurable input now pattern ->
        resolveBound now pattern (some input) = .error .aborted)
    ∧ ((exists start turns last, IsAnchored input now pattern start
          ∧ 2 * turns <= start.steps.length ∧ Progress.Run turns start last
          ∧ last.Stops (Text.trim input) (resolveDate input now pattern))
        ∨ exists text, resolveDate input now pattern = .error (.unparsable text)) := by
  have haborts : ComesToImmeasurable input now pattern ->
      resolveBound now pattern (some input) = .error .aborted := by
    intro h
    rcases resolveDate_eq_immeasurable_iff.mpr h with ⟨expression, hdate⟩
    rw [resolveBound_of_error hdate]
    rfl
  refine ⟨⟨?_, ?_⟩, haborts, ?_⟩
  · intro hanswer h
    rcases hanswer with ⟨date, hdate⟩ | ⟨fault, hfault⟩
    · cases (haborts h).symm.trans hdate
    · cases (haborts h).symm.trans hfault
  · intro h
    cases hdate : resolveDate input now pattern with
    | ok date => exact Or.inl ⟨date, resolveBound_of_ok hdate⟩
    | error fault =>
        rcases dateFailure_cases fault with ⟨expression, rfl, _⟩ | ⟨_, htold⟩
        · exact absurd (resolveDate_eq_immeasurable_iff.mp ⟨expression, hdate⟩) h
        · exact Or.inr ⟨fault, htold ▸ resolveBound_of_error hdate⟩
  · refine (isAnchored_or_unparsable input now pattern).imp_left ?_
    rintro ⟨start, hstart⟩
    rcases start.exists_run (Text.trim input) with ⟨turns, last, result, hrun, hstops⟩
    have hlength := hrun.length_le
    refine ⟨start, turns, last, hstart, by omega, hrun, ?_⟩
    rw [resolveDate_of_isAnchored hstart, applySteps_of_run hrun, applySteps_of_stops hstops]
    exact hstops

/-- So many days break the evaluation off, while a day fewer and any number of years are told as
an overflow. -/
theorem resolveBound_manyDays :
    resolveBound { seconds := 0, nanos := 0 } none (some "now+106751991168d") = .error .aborted
      ∧ resolveBound { seconds := 0, nanos := 0 } none (some "now+106751991167d")
        = .error (.rejected (.date (.overflow "now+106751991167d")))
      ∧ resolveBound { seconds := 0, nanos := 0 } none (some "now-9223372036854775807y")
        = .error (.rejected (.date (.overflow "now-9223372036854775807y"))) := by
  decide +kernel

end Store
end Rollup
