import Rollup.Proofs.Plan.Acceptance

/-!
# Levels in order

Every item of ORDER BY sorts one level. A level is sorted by the items that name it, in
the order in which they stand. LIMIT cuts the innermost level to its size.
-/

namespace Rollup
namespace Plan

open Request (Bucketing SortEntry)
open Sql (ColumnRef Direction GroupTerm OrderItem Statement)

/-!
# Targets of items
-/

namespace OrderTarget

def position (depth : Nat) : OrderTarget -> Nat
  | .measure _ => depth - 1
  | .key position => position

def sortKey : OrderTarget -> String
  | .measure found => found.name
  | .key _ => "_key"

end OrderTarget

theorem orderPlace_eq {levels : List Level} {target : OrderTarget} {place : Nat × String}
    (h : orderPlace levels target = .ok place) :
    place = (target.position levels.length, target.sortKey) := by
  cases target with
  | key position =>
      cases h
      rfl
  | measure measure =>
      rw [orderPlace] at h
      split at h
      · cases h
        rfl
      · cases h

def targetAt? (statement : Statement) (levels : List Level) (measures : List Measure)
    (position : Nat) (item : OrderItem) : Option (OrderTarget × Direction) :=
  match resolveOrder statement levels measures item.target with
  | .ok target =>
      if target.position levels.length = position then some (target, item.direction) else none
  | .error _ => none

def targetsAt (statement : Statement) (levels : List Level) (measures : List Measure)
    (position : Nat) (items : List OrderItem) : List (OrderTarget × Direction) :=
  items.filterMap (targetAt? statement levels measures position)

theorem mem_of_mem_targetsAt {statement : Statement} {levels : List Level}
    {measures : List Measure} {position : Nat} {items : List OrderItem} {measure : Measure}
    {direction : Direction}
    (h : (.measure measure, direction) ∈ targetsAt statement levels measures position items) :
    measure ∈ measures := by
  rcases List.mem_filterMap.mp h with ⟨item, _, hitem⟩
  unfold targetAt? at hitem
  split at hitem
  · rename_i target htarget
    split at hitem
    · cases hitem
      exact mem_of_resolveOrder htarget
    · cases hitem
  · cases hitem

theorem isTerms_bare (level : Level) : level.bare.isTerms = level.isTerms := by
  obtain ⟨name, bucketing⟩ := level
  cases bucketing <;> rfl

theorem resolveOrder_congr {levels others : List Level}
    (h : others.map Level.bare = levels.map Level.bare) (statement : Statement)
    (measures : List Measure) (reference : ColumnRef) :
    resolveOrder statement others measures reference
      = resolveOrder statement levels measures reference := by
  have hfind : forall field,
      others.findIdx? (fun level => level.isTerms && level.name == field)
        = levels.findIdx? (fun level => level.isTerms && level.name == field) := by
    intro field
    have hbare : (fun level : Level => level.isTerms && level.name == field)
        = (fun level => level.isTerms && level.name == field) ∘ Level.bare := by
      funext level
      show _ = (level.bare.isTerms && level.name == field)
      rw [isTerms_bare]
    rw [hbare, <- List.findIdx?_map, <- List.findIdx?_map, h]
  unfold resolveOrder
  simp only [hfind]

theorem targetsAt_congr {levels others : List Level}
    (h : others.map Level.bare = levels.map Level.bare) (statement : Statement)
    (measures : List Measure) (position : Nat) (items : List OrderItem) :
    targetsAt statement others measures position items
      = targetsAt statement levels measures position items := by
  have hlength : others.length = levels.length := by
    simpa using congrArg List.length h
  apply List.filterMap_congr
  intro item _
  unfold targetAt?
  rw [resolveOrder_congr h, hlength]

/-!
# Sorted levels
-/

def orderAfter (order : Option (List SortEntry)) (keys : List (String × Direction)) :
    Option (List SortEntry) :=
  keys.foldl (fun order key => appendOrder order key.1 key.2) order

theorem orderAfter_some (entries : List SortEntry) (keys : List (String × Direction)) :
    orderAfter (some entries) keys = some (entries ++ keys.map (fun key => [key])) := by
  induction keys generalizing entries with
  | nil => exact congrArg some (List.append_nil entries).symm
  | cons key rest ih =>
      show orderAfter (some (entries ++ [[key]])) rest = _
      rw [ih, List.append_assoc]
      rfl

theorem orderAfter_none {keys : List (String × Direction)} (h : keys ≠ []) :
    orderAfter none keys = some (keys.map (fun key => [key])) := by
  cases keys with
  | nil => exact absurd rfl h
  | cons key rest => exact orderAfter_some [[key]] rest

def Level.bound? (level : Level) : Option Nat :=
  match level.bucketing with
  | .terms spec => some (spec.size.getD Store.defaultTermSize)
  | _ => none

theorem bound?_addOrder {level updated : Level} {key : String} {direction : Direction}
    (h : level.addOrder key direction = .ok updated) : updated.bound? = level.bound? := by
  obtain ⟨name, bucketing⟩ := level
  cases bucketing <;> cases h <;> rfl

theorem getElem?_modifyAt {update : Level -> Except Error Level} {position : Nat}
    {levels placed : List Level} (h : modifyAt update position levels = .ok placed) {i : Nat}
    {level : Level} (hlevel : levels[i]? = some level) :
    exists updated, placed[i]? = some updated
      ∧ (i = position -> update level = .ok updated) ∧ (i ≠ position -> updated = level) := by
  induction levels generalizing position placed i with
  | nil => cases hlevel
  | cons first rest ih =>
      cases position with
      | zero =>
          rcases bind_eq_ok_iff.mp h with ⟨updated, hupdated, heq⟩
          cases heq
          cases i with
          | zero =>
              cases hlevel
              exact ⟨updated, rfl, fun _ => hupdated, fun hne => absurd rfl hne⟩
          | succ i =>
              exact ⟨level, hlevel, fun heq => absurd heq (Nat.succ_ne_zero i), fun _ => rfl⟩
      | succ position =>
          rcases bind_eq_ok_iff.mp h with ⟨others, hothers, heq⟩
          cases heq
          cases i with
          | zero =>
              refine ⟨level, hlevel, fun heq => ?_, fun _ => rfl⟩
              exact absurd heq (Nat.succ_ne_zero position).symm
          | succ i =>
              rcases ih hothers hlevel with ⟨updated, hplaced, hhere, helse⟩
              refine ⟨updated, hplaced, fun heq => hhere (Nat.succ.inj heq), fun hne => helse ?_⟩
              exact fun heq => hne (congrArg Nat.succ heq)

theorem order?_placeOrder {statement : Statement} {measures : List Measure}
    {items : List OrderItem} {levels placed : List Level}
    (h : placeOrder statement measures levels items = .ok placed) {i : Nat} {level : Level}
    (hlevel : levels[i]? = some level) :
    exists sorted, placed[i]? = some sorted
      ∧ sorted.bucketing.order? = orderAfter level.bucketing.order?
          ((targetsAt statement levels measures i items).map
            (fun target => (target.1.sortKey, target.2)))
      ∧ sorted.bound? = level.bound? := by
  induction items generalizing levels level with
  | nil =>
      cases h
      exact ⟨level, hlevel, rfl, rfl⟩
  | cons item rest ih =>
      rcases placeOrder_cons_cases h with
        ⟨target, htarget, ⟨hnil, _⟩ | ⟨place, updated, hplace, hupdated, hrest⟩⟩
      · rw [hnil] at hlevel
        cases hlevel
      · have hbare := map_modifyAt (fun _ _ => bare_addOrder) hupdated
        rw [orderPlace_eq hplace] at hupdated
        rcases getElem?_modifyAt hupdated hlevel with ⟨moved, hmoved, hhere, helse⟩
        rcases ih hrest hmoved with ⟨sorted, hsorted, horder, hbound⟩
        refine ⟨sorted, hsorted, ?_, ?_⟩
        · rw [horder, targetsAt_congr hbare, targetsAt, targetsAt, List.filterMap_cons, targetAt?,
            htarget]
          by_cases hposition : target.position levels.length = i
          · rw [order?_addOrder (hhere hposition.symm)]
            dsimp only
            rw [if_pos hposition]
            rfl
          · rw [helse (Ne.symm hposition)]
            dsimp only
            rw [if_neg hposition]
        · by_cases hposition : target.position levels.length = i
          · rw [hbound, bound?_addOrder (hhere hposition.symm)]
          · rw [hbound, helse (Ne.symm hposition)]

/-!
# The innermost level
-/

theorem getElem?_last {levels : List Level} {i : Nat} (hlength : levels.length = i + 1)
    {level : Level} (h : levels[i]? = some level) : exists outer, levels = outer ++ [level] := by
  rcases List.eq_nil_or_concat levels with rfl | ⟨outer, last, rfl⟩
  · cases hlength
  · rw [List.concat_eq_append, List.length_append] at hlength
    have hi : i = outer.length := (Nat.succ.inj hlength).symm
    rw [List.concat_eq_append, hi, List.getElem?_concat_length] at h
    cases h
    exact ⟨outer, List.concat_eq_append⟩

theorem bound?_of_termLevel {size : Nat} {term : GroupTerm} {level : Level}
    (h : termLevel size term = .ok level) (hterms : level.isTerms = true) :
    level.bound? = some size := by
  rcases termLevel_cases h with ⟨field, hbucketing⟩ | ⟨hother, _⟩
  · rw [Level.bound?, hbucketing]
    rfl
  · rw [hother] at hterms
    cases hterms

theorem Outline.exists_innermost {options : Options} {statement : Statement}
    (outline : Outline options statement) {outer : List Level} {level : Level}
    (hgroups : outline.groups = outer ++ [level]) :
    exists around innermost, outline.levels = around ++ [innermost]
      ∧ innermost.bare = level.bare
      ∧ innermost.bucketing.order? = orderAfter none
          ((targetsAt statement outline.groups outline.measures outer.length statement.order).map
            (fun target => (target.1.sortKey, target.2)))
      ∧ (level.isTerms = true ->
          innermost.bound? = some (statement.limit.getD options.bucketSize)) := by
  have hmem : level ∈ outline.groups := by
    rw [hgroups]
    exact List.mem_append_right outer (List.mem_singleton_self level)
  rcases exists_left_of_mem (levelsAfter_cases outline.grouped).left hmem with ⟨term, _, hterm⟩
  have hlevel : outline.groups[outer.length]? = some level := by
    rw [hgroups, List.getElem?_concat_length]
  rcases order?_placeOrder outline.sorted hlevel with ⟨sorted, hsorted, horder, hbound⟩
  rw [(hasInterval_of_termLevel hterm).right] at horder
  have hbare := bare_placeOrder outline.sorted
  have hlength : outline.ordered.length = outer.length + 1 := by
    simpa [hgroups] using congrArg List.length hbare
  rcases getElem?_last hlength hsorted with ⟨around, hordered⟩
  have hsame : sorted.bare = level.bare := by
    rw [hordered, hgroups, List.map_append, List.map_append] at hbare
    exact List.singleton_inj.mp (List.append_inj_right' hbare rfl)
  have hcut := outline.limited
  rw [hordered] at hcut
  rcases placeLimit_cases hcut with
    ⟨hplaced, hnone | hnil⟩ | ⟨others, last, spec, count, hlimit, hlast, hspec, hplaced⟩
  · refine ⟨around, sorted, hplaced, hsame, horder, fun hterms => ?_⟩
    rw [hbound, bound?_of_termLevel hterm hterms, hnone]
    rfl
  · exact absurd hnil (List.append_ne_nil_of_right_ne_nil around (List.cons_ne_nil sorted []))
  · obtain ⟨rfl, hsingle⟩ := List.append_inj' hlast rfl
    cases List.singleton_inj.mp hsingle
    refine ⟨around, _, hplaced, ?_, ?_, fun _ => ?_⟩
    · rw [<- hsame, Level.bare, Level.bare, hspec]
      rfl
    · rw [<- horder, hspec]
      rfl
    · rw [hlimit]
      rfl

end Plan
end Rollup
