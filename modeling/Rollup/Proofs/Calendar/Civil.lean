import Mathlib.Algebra.BigOperators.Group.List.Basic
import Mathlib.Algebra.GroupWithZero.Nat
import Mathlib.Data.Int.ConditionallyCompleteOrder
import Mathlib.Order.ConditionallyCompleteLattice.Basic
import Rollup.Calendar.Date

/-!
# Months in a row

Months are numbered from January of year 0 on. Their first days ascend, and the date of
a day lies in the month that starts last before the day ends.
-/

namespace Rollup
namespace Calendar

/-!
# Years
-/

theorem daysBeforeYear_succ (year : Int) :
    daysBeforeYear (year + 1) = daysBeforeYear year + daysInYear year := by
  unfold daysBeforeYear daysInYear isLeapYear
  split
  · rename_i hleap
    simp only [Bool.and_eq_true, Bool.or_eq_true, decide_eq_true_eq, bne_iff_ne] at hleap
    omega
  · rename_i hcommon
    simp only [Bool.and_eq_true, Bool.or_eq_true, decide_eq_true_eq, bne_iff_ne] at hcommon
    omega

theorem yearOfDays_spec (days : Int) :
    daysBeforeYear (yearOfDays days) <= days ∧ days < daysBeforeYear (yearOfDays days + 1) := by
  have hearly : daysBeforeYear (400 * days / 146097 + 1 - 1) <= days := by
    unfold daysBeforeYear
    omega
  have hlate : days < daysBeforeYear (400 * days / 146097 + 1 + 1 + 1) := by
    unfold daysBeforeYear
    omega
  unfold yearOfDays
  dsimp only
  split
  · rename_i hbefore
    rw [Int.sub_add_cancel]
    exact ⟨hearly, hbefore⟩
  · rename_i hfrom
    split
    · rename_i hafter
      exact ⟨hafter, hlate⟩
    · rename_i hbefore
      exact ⟨Int.not_lt.mp hfrom, Int.not_le.mp hbefore⟩

/-!
# Months of a year
-/

theorem length_monthLengths (year : Int) : (monthLengths year).length = 12 :=
  rfl

theorem sum_monthLengths (year : Int) : (monthLengths year).sum = daysInYear year := by
  unfold monthLengths daysInYear
  split <;> rfl

theorem daysBeforeMonth_eq_sum (year : Int) (index : Nat) :
    daysBeforeMonth year (index + 1) = ((monthLengths year).take index).sum :=
  (List.sum_eq_foldl).symm

theorem pos_of_mem_monthLengths {year : Int} {length : Nat} (h : length ∈ monthLengths year) :
    0 < length := by
  unfold monthLengths at h
  cases hleap : isLeapYear year <;> simp [hleap] at h <;> omega

theorem daysInMonth_eq (year : Int) {index : Nat} (h : index < (monthLengths year).length) :
    daysInMonth year (index + 1) = (monthLengths year)[index] := by
  unfold daysInMonth
  rw [Nat.add_sub_cancel, List.getD_eq_getElem?_getD, List.getElem?_eq_getElem h,
    Option.getD_some]

theorem daysInMonth_pos (year : Int) {index : Nat} (h : index < 12) :
    0 < daysInMonth year (index + 1) := by
  rw [daysInMonth_eq year h]
  exact pos_of_mem_monthLengths (List.getElem_mem h)

theorem daysBeforeMonth_succ (year : Int) {index : Nat} (h : index < 12) :
    daysBeforeMonth year (index + 1 + 1)
      = daysBeforeMonth year (index + 1) + daysInMonth year (index + 1) := by
  rw [daysBeforeMonth_eq_sum, daysBeforeMonth_eq_sum, List.sum_take_succ _ _ h,
    daysInMonth_eq year h]

theorem daysBeforeMonth_end (year : Int) : daysBeforeMonth year 13 = daysInYear year := by
  rw [daysBeforeMonth_eq_sum, <- length_monthLengths year, List.take_length, sum_monthLengths]

theorem monthAndDay_spec (lengths : List Nat) (month rest : Nat) (h : rest < lengths.sum) :
    exists index, index < lengths.length
      ∧ monthAndDay lengths month rest = (month + index, rest - (lengths.take index).sum + 1)
      ∧ (lengths.take index).sum <= rest ∧ rest < (lengths.take (index + 1)).sum := by
  induction lengths generalizing month rest with
  | nil => cases h
  | cons length lengths ih =>
      unfold monthAndDay
      rw [List.sum_cons] at h
      by_cases hrest : rest < length
      · refine ⟨0, Nat.succ_pos _, ?_, Nat.zero_le rest, ?_⟩
        · simp [hrest]
        · simpa using hrest
      · have hlater : rest - length < lengths.sum := by omega
        have hmore : lengths.isEmpty = false := by
          cases lengths with
          | nil => cases hlater
          | cons _ _ => rfl
        rcases ih (month + 1) (rest - length) hlater with ⟨index, hindex, heq, hfrom, hto⟩
        refine ⟨index + 1, Nat.succ_lt_succ hindex, ?_, ?_, ?_⟩
        · rw [hmore, decide_eq_false hrest, Bool.or_false, if_neg Bool.false_ne_true, heq,
            List.take_succ_cons, List.sum_cons, Nat.sub_sub, Nat.add_assoc, Nat.add_comm 1]
        · rw [List.take_succ_cons, List.sum_cons]
          omega
        · rw [List.take_succ_cons, List.sum_cons]
          omega

theorem ofOrdinal_spec (year : Int) {rest : Nat} (h : rest < daysInYear year) :
    exists index, index < 12 ∧ daysBeforeMonth year (index + 1) <= rest
      ∧ rest < daysBeforeMonth year (index + 1 + 1)
      ∧ Date.ofOrdinal year (rest + 1)
        = { year := year, month := index + 1,
            day := rest - daysBeforeMonth year (index + 1) + 1 } := by
  rw [<- sum_monthLengths] at h
  rcases monthAndDay_spec (monthLengths year) 1 rest h with ⟨index, hindex, heq, hfrom, hto⟩
  refine ⟨index, hindex, ?_, ?_, ?_⟩
  · rw [daysBeforeMonth_eq_sum]
    exact hfrom
  · rw [daysBeforeMonth_eq_sum]
    exact hto
  · unfold Date.ofOrdinal
    rw [Nat.add_sub_cancel, heq, daysBeforeMonth_eq_sum, Nat.add_comm 1]

/-!
# Months of all years
-/

def firstOfMonth (month : Int) : Date :=
  { year := month / 12, month := (month % 12).toNat + 1, day := 1 }

def monthStart (month : Int) : Int :=
  (firstOfMonth month).dayNumber

theorem monthStart_eq (year : Int) {index : Nat} (h : index < 12) :
    monthStart (year * 12 + index)
      = daysBeforeYear year + daysBeforeMonth year (index + 1) - epochDay := by
  have hyear : (year * 12 + index) / 12 = year := by omega
  have hmonth : ((year * 12 + index) % 12).toNat = index := by omega
  unfold monthStart firstOfMonth Date.dayNumber Date.ordinal
  dsimp only
  rw [hyear, hmonth]
  omega

theorem exists_month (month : Int) :
    exists (year : Int) (index : Nat), index < 12 ∧ month = year * 12 + index :=
  ⟨month / 12, (month % 12).toNat, by omega, by omega⟩

theorem monthStart_succ (year : Int) {index : Nat} (h : index < 12) :
    monthStart (year * 12 + index + 1)
      = daysBeforeYear year + daysBeforeMonth year (index + 1 + 1) - epochDay := by
  by_cases hlast : index = 11
  · -- The year is over with its twelfth month.
    subst hlast
    have hnext : year * 12 + (11 : Nat) + 1 = (year + 1) * 12 + (0 : Nat) := by omega
    rw [hnext, monthStart_eq (year + 1) (Nat.succ_pos 11), daysBeforeMonth_end,
      daysBeforeYear_succ]
    have hzero : daysBeforeMonth (year + 1) (0 + 1) = 0 := rfl
    rw [hzero]
    omega
  · have hnext : year * 12 + (index : Int) + 1 = year * 12 + (index + 1 : Nat) := by omega
    rw [hnext, monthStart_eq year (by omega)]

theorem strictMono_monthStart : StrictMono monthStart := by
  apply strictMono_int_of_lt_succ
  intro month
  rcases exists_month month with ⟨year, index, hindex, rfl⟩
  rw [monthStart_succ year hindex, monthStart_eq year hindex, daysBeforeMonth_succ year hindex]
  have hlength := daysInMonth_pos year hindex
  omega

theorem ofDayNumber_spec (day : Int) :
    exists (year : Int) (index rest : Nat), index < 12
      ∧ Date.ofDayNumber day = { year := year, month := index + 1, day := rest + 1 }
      ∧ monthStart (year * 12 + index) + rest = day
      ∧ day < monthStart (year * 12 + index + 1) := by
  have hyear := yearOfDays_spec (day + epochDay)
  generalize hyears : yearOfDays (day + epochDay) = year at hyear
  rw [daysBeforeYear_succ] at hyear
  generalize hrest : (day + epochDay - daysBeforeYear year).toNat = rest
  rcases ofOrdinal_spec year (by omega : rest < daysInYear year) with
    ⟨index, hindex, hfrom, hto, heq⟩
  refine ⟨year, index, rest - daysBeforeMonth year (index + 1), hindex, ?_, ?_, ?_⟩
  · unfold Date.ofDayNumber
    dsimp only
    rw [hyears, hrest, heq]
  · rw [monthStart_eq year hindex]
    omega
  · rw [monthStart_succ year hindex]
    omega

end Calendar
end Rollup
