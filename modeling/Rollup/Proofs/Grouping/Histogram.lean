import Mathlib.Algebra.Order.Monoid.NatCast
import Mathlib.Data.Int.ConditionallyCompleteOrder
import Mathlib.Data.List.Chain
import Mathlib.Data.List.Sort
import Mathlib.Order.ConditionallyCompleteLattice.Basic
import Rollup.Proofs.Outcome
import Rollup.Store.Bucket

/-!
# Histograms without gaps

A histogram holds each document under its keys. The keys between the first and the last
are reached by steps. Where all keys lie on a grid and each step goes to the next point of
the grid, the filled keys are the points of the grid from the least key to the greatest.
-/

namespace Rollup
namespace Store

/-!
# Keys in order
-/

def distinctNeighbours (sorted : List Int) : List Int :=
  sorted.foldr (fun key rest => if rest.head? = some key then rest else key :: rest) []

theorem mem_distinctNeighbours {sorted : List Int} {key : Int} :
    key ∈ distinctNeighbours sorted <-> key ∈ sorted := by
  induction sorted with
  | nil => exact Iff.rfl
  | cons first sorted ih =>
      unfold distinctNeighbours at ih ⊢
      rw [List.foldr_cons, List.mem_cons, <- ih]
      split
      · rename_i hhead
        constructor
        · exact Or.inr
        · rintro (rfl | hmem)
          · exact List.mem_of_head? hhead
          · exact hmem
      · exact List.mem_cons

theorem pairwise_distinctNeighbours {sorted : List Int}
    (h : sorted.Pairwise (fun a b => a <= b)) :
    (distinctNeighbours sorted).Pairwise (fun a b => a < b) := by
  induction sorted with
  | nil => exact List.Pairwise.nil
  | cons first sorted ih =>
      rcases List.pairwise_cons.mp h with ⟨hfirst, hsorted⟩
      have hrest := ih hsorted
      have hleast : forall key, key ∈ distinctNeighbours sorted -> first <= key :=
        fun key hkey => hfirst key (mem_distinctNeighbours.mp hkey)
      have hcons : distinctNeighbours (first :: sorted)
          = if (distinctNeighbours sorted).head? = some first then distinctNeighbours sorted
            else first :: distinctNeighbours sorted := rfl
      rw [hcons]
      generalize distinctNeighbours sorted = rest at hrest hleast
      split
      · exact hrest
      · rename_i hhead
        refine List.pairwise_cons.mpr ⟨?_, hrest⟩
        cases rest with
        | nil =>
            intro key hkey
            cases hkey
        | cons second rest =>
            have hne : second ≠ first := fun heq => hhead (congrArg some heq)
            have hlt : first < second :=
              lt_of_le_of_ne (hleast second List.mem_cons_self) (Ne.symm hne)
            intro key hkey
            rcases List.mem_cons.mp hkey with rfl | hkey
            · exact hlt
            · exact lt_trans hlt (List.rel_of_pairwise_cons hrest hkey)

theorem mem_sortedDistinct {keys : List Int} {key : Int} :
    key ∈ sortedDistinct keys <-> key ∈ keys :=
  Iff.trans mem_distinctNeighbours List.mem_mergeSort

theorem pairwise_sortedDistinct (keys : List Int) :
    (sortedDistinct keys).Pairwise (fun a b => a < b) :=
  pairwise_distinctNeighbours (List.pairwise_mergeSort' (fun a b : Int => a <= b) keys)

theorem sortedDistinct_eq {keys ascending : List Int}
    (h : ascending.Pairwise (fun a b => a < b))
    (hmem : forall key, key ∈ ascending <-> key ∈ keys) : sortedDistinct keys = ascending := by
  apply (pairwise_sortedDistinct keys).eq_of_mem_iff h
  intro key
  rw [mem_sortedDistinct, hmem]

theorem head?_sortedDistinct (keys : List Int) : (sortedDistinct keys).head? = keys.min? := by
  cases hsorted : sortedDistinct keys with
  | nil =>
      have hnil : keys = [] := by
        apply List.eq_nil_iff_forall_not_mem.mpr
        intro key hkey
        have hmem := mem_sortedDistinct.mpr hkey
        rw [hsorted] at hmem
        cases hmem
      rw [hnil]
      rfl
  | cons first rest =>
      have hpairwise := pairwise_sortedDistinct keys
      rw [hsorted] at hpairwise
      symm
      rw [List.head?_cons, List.min?_eq_some_iff]
      constructor
      · rw [<- mem_sortedDistinct, hsorted]
        exact List.mem_cons_self
      · intro key hkey
        rw [<- mem_sortedDistinct, hsorted] at hkey
        rcases List.mem_cons.mp hkey with rfl | hkey
        · exact le_refl _
        · exact le_of_lt (List.rel_of_pairwise_cons hpairwise hkey)

theorem getLast?_sortedDistinct (keys : List Int) : (sortedDistinct keys).getLast? = keys.max? := by
  have hpairwise := pairwise_sortedDistinct keys
  cases hlast : (sortedDistinct keys).getLast? with
  | none =>
      rw [List.getLast?_eq_none_iff] at hlast
      have hhead := head?_sortedDistinct keys
      rw [hlast, List.head?_nil] at hhead
      rw [List.min?_eq_none_iff.mp hhead.symm]
      rfl
  | some last =>
      rcases List.getLast?_eq_some_iff.mp hlast with ⟨before, hsorted⟩
      rw [hsorted, List.pairwise_append] at hpairwise
      symm
      rw [List.max?_eq_some_iff]
      constructor
      · rw [<- mem_sortedDistinct, hsorted]
        exact List.mem_append_right before List.mem_cons_self
      · intro key hkey
        rw [<- mem_sortedDistinct, hsorted, List.mem_append, List.mem_singleton] at hkey
        rcases hkey with hkey | rfl
        · exact le_of_lt (hpairwise.right.right key hkey last List.mem_cons_self)
        · exact le_refl _

/-!
# Documents under keys
-/

variable {keysOf : Document -> List Int} {docs : List Document}

def holders (keysOf : Document -> List Int) (docs : List Document) (key : Int) : List Document :=
  docs.filter (fun doc => (keysOf doc).contains key)

theorem holders_ne_nil {key : Int} :
    holders keysOf docs key ≠ [] <-> key ∈ docs.flatMap keysOf := by
  unfold holders
  rw [List.mem_flatMap, <- List.length_pos_iff, List.length_filter_pos_iff]
  simp only [List.contains_iff_mem]

def groupsOf (keysOf : Document -> List Int) (docs : List Document) (keys : List Int) :
    List (Int × List Document) :=
  keys.map (fun key => (key, holders keysOf docs key))

theorem groupByKey_eq (keysOf : Document -> List Int) (docs : List Document) :
    groupByKey keysOf docs = groupsOf keysOf docs (sortedDistinct (docs.flatMap keysOf)) := by
  unfold groupByKey groupKeyed groupsOf holders
  rw [List.flatMap_map]
  congr 1
  funext key
  rw [List.filter_map, List.map_map]
  exact congrArg (Prod.mk key) (List.map_id _)

theorem keys_groupsOf (keys : List Int) : (groupsOf keysOf docs keys).map Prod.fst = keys := by
  unfold groupsOf
  rw [List.map_map]
  exact List.map_id keys

theorem lookup_groupsOf (keys : List Int) (key : Int) :
    (groupsOf keysOf docs keys).lookup key
      = if key ∈ keys then some (holders keysOf docs key) else none := by
  induction keys with
  | nil => rfl
  | cons first keys ih =>
      unfold groupsOf at ih ⊢
      rw [List.map_cons, List.lookup_cons, ih]
      by_cases hkey : key = first
      · subst hkey
        simp
      · simp [hkey, beq_false_of_ne hkey]

theorem lookup_groupByKey (keysOf : Document -> List Int) (docs : List Document) (key : Int) :
    ((groupByKey keysOf docs).lookup key).getD [] = holders keysOf docs key := by
  rw [groupByKey_eq, lookup_groupsOf]
  split
  · rfl
  · rename_i hfree
    rw [mem_sortedDistinct, <- holders_ne_nil] at hfree
    exact (not_not.mp hfree).symm

theorem filter_groupsOf {keys : List Int} (hascending : keys.Pairwise (fun a b => a < b))
    (hoccupied : forall key, key ∈ docs.flatMap keysOf -> key ∈ keys) {least : Nat}
    (hleast : 0 < least) :
    (groupsOf keysOf docs keys).filter (fun group => least <= group.2.length)
      = (groupByKey keysOf docs).filter (fun group => least <= group.2.length) := by
  rw [groupByKey_eq]
  unfold groupsOf
  rw [List.filter_map, List.filter_map]
  apply congrArg (List.map _)
  apply (hascending.filter _).eq_of_mem_iff ((pairwise_sortedDistinct _).filter _)
  intro key
  rw [List.mem_filter, List.mem_filter, mem_sortedDistinct]
  constructor
  · intro h
    refine ⟨holders_ne_nil.mp (List.ne_nil_of_length_pos ?_), h.right⟩
    exact Nat.lt_of_lt_of_le hleast (of_decide_eq_true h.right)
  · intro h
    exact ⟨hoccupied key h.left, h.right⟩

/-!
# Steps
-/

variable {next : Int -> Except BackendError Int}

/-- The keys from `key` on that lie before `last`, each one step after another. -/
inductive IsWalk (next : Int -> Except BackendError Int) (last : Int) :
    Int -> List Int -> Prop
  | done {key : Int} (h : last <= key) : IsWalk next last key []
  | step {key following : Int} {walked : List Int} (h : key < last)
      (hnext : next key = .ok following) (hwalked : IsWalk next last following walked) :
      IsWalk next last key (key :: walked)

theorem stepKeys_eq_ok_iff {last : Int} {room : Nat} {key : Int} {passed steps : List Int} :
    stepKeys next last room key passed = .ok steps
      <-> exists walked, steps = passed.reverse ++ walked ∧ IsWalk next last key walked
        ∧ walked.length <= room := by
  constructor
  · intro h
    induction room generalizing key passed with
    | zero =>
        unfold stepKeys at h
        split at h
        · cases h
        · rename_i hlast
          cases h
          exact ⟨[], (List.append_nil _).symm, .done (Int.not_lt.mp hlast), Nat.le_refl 0⟩
    | succ room ih =>
        unfold stepKeys at h
        split at h
        · rename_i hkey
          dsimp only at h
          cases hnext : next key with
          | error e =>
              rw [hnext] at h
              cases h
          | ok following =>
              rw [hnext] at h
              rcases ih h with ⟨walked, hsteps, hwalk, hlength⟩
              rw [List.reverse_cons, List.append_assoc] at hsteps
              exact ⟨key :: walked, hsteps, .step hkey hnext hwalk, Nat.succ_le_succ hlength⟩
        · rename_i hlast
          cases h
          exact ⟨[], (List.append_nil _).symm, .done (Int.not_lt.mp hlast), Nat.zero_le _⟩
  · rintro ⟨walked, rfl, hwalk, hroom⟩
    induction hwalk generalizing room passed with
    | done hlast =>
        unfold stepKeys
        rw [List.append_nil]
        exact if_neg (Int.not_lt.mpr hlast)
    | step hkey hnext hwalked ih =>
        rcases Nat.exists_eq_add_of_le' (Nat.lt_of_lt_of_le (Nat.succ_pos _) hroom) with ⟨rest, rfl⟩
        rw [stepKeys, if_pos hkey, hnext]
        dsimp only
        rw [ih (Nat.le_of_succ_le_succ hroom), List.reverse_cons, List.append_assoc]
        rfl

/-- The keys follow one another and rise. -/
def Follows (next : Int -> Except BackendError Int) (key following : Int) : Prop :=
  next key = .ok following ∧ key < following

theorem IsWalk.unique {last key : Int} {walked other : List Int}
    (h : IsWalk next last key walked) (hother : IsWalk next last key other) : walked = other := by
  induction h generalizing other with
  | done hlast =>
      cases hother with
      | done _ => rfl
      | step hkey _ _ => exact absurd hkey (Int.not_lt.mpr hlast)
  | step hkey hnext _ ih =>
      cases hother with
      | done hlast => exact absurd hkey (Int.not_lt.mpr hlast)
      | step _ hnextOther hrest =>
          cases hnext.symm.trans hnextOther
          rw [ih hrest]

theorem IsWalk.append_eq {last key : Int} {walked keys : List Int}
    (hwalk : IsWalk next last key walked) (hfirst : keys.head? = some key)
    (hlast : keys.getLast? = some last) (hchain : keys.IsChain (Follows next)) :
    walked ++ [last] = keys := by
  induction hwalk generalizing keys with
  | done hle =>
      cases keys with
      | nil => cases hfirst
      | cons first rest =>
          cases hfirst
          have hascending := List.isChain_iff_pairwise.mp (hchain.imp (fun _ _ h => h.right))
          cases rest with
          | nil =>
              rw [List.getLast?_singleton, Option.some.injEq] at hlast
              rw [hlast, List.nil_append]
          | cons second rest =>
              rw [List.getLast?_cons_cons] at hlast
              have hmem : last ∈ second :: rest := List.mem_of_getLast? hlast
              have hlt := List.rel_of_pairwise_cons hascending hmem
              omega
  | step hlt hnext _ ih =>
      cases keys with
      | nil => cases hfirst
      | cons first rest =>
          cases hfirst
          cases rest with
          | nil => exact absurd (Option.some.inj hlast) (Int.ne_of_lt hlt)
          | cons second rest =>
              rcases List.isChain_cons_cons.mp hchain with ⟨hfollows, hrest⟩
              cases hnext.symm.trans hfollows.left
              rw [List.getLast?_cons_cons] at hlast
              rw [List.cons_append, ih rfl hlast hrest]

theorem IsWalk.on_grid {grid : Int -> Int} (hgrid : StrictMono grid) {last key : Int}
    {walked : List Int} (hwalk : IsWalk next (grid last) key walked) {place : Int}
    (hplace : grid place = key) (hle : place <= last)
    (hnext : forall index following, place <= index -> index < last ->
      next (grid index) = .ok following -> following = grid (index + 1)) :
    (walked ++ [grid last]).head? = some (grid place)
      ∧ (walked ++ [grid last]).IsChain (Follows next)
      ∧ forall point, point ∈ walked ++ [grid last]
          <-> exists index, place <= index ∧ index <= last ∧ grid index = point := by
  induction hwalk generalizing place with
  | done h =>
      subst hplace
      have heq : place = last := le_antisymm hle (hgrid.le_iff_le.mp h)
      subst heq
      refine ⟨rfl, List.isChain_singleton _, ?_⟩
      intro point
      rw [List.nil_append, List.mem_singleton]
      constructor
      · rintro rfl
        exact ⟨place, le_refl _, le_refl _, rfl⟩
      · rintro ⟨index, hfrom, hto, rfl⟩
        rw [le_antisymm hto hfrom]
  | step h hstep hwalked ih =>
      subst hplace
      have hlt : place < last := hgrid.lt_iff_lt.mp h
      have hfollowing := hnext place _ (le_refl _) hlt hstep
      have hlater := fun index following hindex =>
        hnext index following (le_of_lt (Int.lt_of_add_one_le hindex))
      rcases ih hfollowing.symm hlt hlater with ⟨hhead, hchain, hpoints⟩
      refine ⟨rfl, ?_, ?_⟩
      · rw [List.cons_append, List.isChain_cons]
        refine ⟨?_, hchain⟩
        intro second hsecond
        rw [hhead] at hsecond
        cases hsecond
        rw [hfollowing] at hstep
        exact ⟨hstep, hgrid (lt_add_one place)⟩
      · intro point
        rw [List.cons_append, List.mem_cons, hpoints]
        constructor
        · rintro (rfl | ⟨index, hfrom, hto, rfl⟩)
          · exact ⟨place, le_refl _, hle, rfl⟩
          · exact ⟨index, by omega, hto, rfl⟩
        · rintro ⟨index, hfrom, hto, rfl⟩
          rcases eq_or_lt_of_le hfrom with rfl | hlater
          · exact Or.inl rfl
          · exact Or.inr ⟨index, hlater, hto, rfl⟩

/-!
# Filled gaps
-/

/-- The keys run from the least occupied key to the greatest, each one step after another. -/
structure IsFilling (next : Int -> Except BackendError Int) (occupied keys : List Int) :
    Prop where
  first : keys.head? = occupied.min?
  last : keys.getLast? = occupied.max?
  consecutive : keys.IsChain (Follows next)
  covers : forall key, key ∈ occupied -> key ∈ keys

theorem head?_groupByKey (keysOf : Document -> List Int) (docs : List Document) :
    (groupByKey keysOf docs).head?
      = (docs.flatMap keysOf).min?.map (fun key => (key, holders keysOf docs key)) := by
  rw [groupByKey_eq, <- head?_sortedDistinct]
  exact List.head?_map

theorem getLast?_groupByKey (keysOf : Document -> List Int) (docs : List Document) :
    (groupByKey keysOf docs).getLast?
      = (docs.flatMap keysOf).max?.map (fun key => (key, holders keysOf docs key)) := by
  rw [groupByKey_eq, <- getLast?_sortedDistinct]
  exact List.getLast?_map

theorem fillGaps_groupByKey {first last : Int} (hmin : (docs.flatMap keysOf).min? = some first)
    (hmax : (docs.flatMap keysOf).max? = some last) {filled : List (Int × List Document)} :
    fillGaps next (groupByKey keysOf docs) = .ok filled
      <-> exists walked, IsWalk next last first walked ∧ walked.length <= maxBuckets
        ∧ filled = groupsOf keysOf docs (sortedDistinct (docs.flatMap keysOf ++ walked)) := by
  have hkeys : forall walked, sortedDistinct ((groupByKey keysOf docs).map Prod.fst ++ walked)
      = sortedDistinct (docs.flatMap keysOf ++ walked) := by
    intro walked
    apply sortedDistinct_eq (pairwise_sortedDistinct _)
    intro key
    rw [mem_sortedDistinct, List.mem_append, List.mem_append, groupByKey_eq, keys_groupsOf,
      mem_sortedDistinct]
  unfold fillGaps
  rw [head?_groupByKey, getLast?_groupByKey, hmin, hmax]
  simp only [Option.map_some, bind_eq_ok_iff, stepKeys_eq_ok_iff, List.reverse_nil,
    List.nil_append, hkeys, lookup_groupByKey]
  constructor
  · rintro ⟨_, ⟨walked, rfl, hwalk, hroom⟩, heq⟩
    cases heq
    exact ⟨_, hwalk, hroom, rfl⟩
  · rintro ⟨walked, hwalk, hroom, rfl⟩
    exact ⟨_, ⟨walked, rfl, hwalk, hroom⟩, rfl⟩

theorem fillGaps_cases {filled : List (Int × List Document)}
    (h : fillGaps next (groupByKey keysOf docs) = .ok filled) :
    (docs.flatMap keysOf = [] ∧ filled = [])
      ∨ exists first last walked, (docs.flatMap keysOf).min? = some first
        ∧ (docs.flatMap keysOf).max? = some last ∧ IsWalk next last first walked
        ∧ walked.length <= maxBuckets
        ∧ filled = groupsOf keysOf docs (sortedDistinct (docs.flatMap keysOf ++ walked)) := by
  cases hmin : (docs.flatMap keysOf).min? with
  | none =>
      have hfree := List.min?_eq_none_iff.mp hmin
      have hgroups : groupByKey keysOf docs = [] := by
        rw [groupByKey_eq, hfree, @sortedDistinct_eq [] [] List.Pairwise.nil (fun _ => Iff.rfl)]
        rfl
      rw [hgroups] at h
      cases h
      exact Or.inl ⟨hfree, rfl⟩
  | some first =>
      cases hmax : (docs.flatMap keysOf).max? with
      | none =>
          rw [List.max?_eq_none_iff.mp hmax] at hmin
          cases hmin
      | some last =>
          rcases (fillGaps_groupByKey hmin hmax).mp h with ⟨walked, hwalk, hroom, hfilled⟩
          exact Or.inr ⟨first, last, walked, rfl, rfl, hwalk, hroom, hfilled⟩

theorem exists_keys_of_fillGaps {filled : List (Int × List Document)}
    (h : fillGaps next (groupByKey keysOf docs) = .ok filled) :
    exists keys, filled = groupsOf keysOf docs keys ∧ keys.Pairwise (fun a b => a < b)
      ∧ forall key, key ∈ docs.flatMap keysOf -> key ∈ keys := by
  rcases fillGaps_cases h with ⟨hfree, rfl⟩ | ⟨first, last, walked, _, _, _, _, rfl⟩
  · refine ⟨[], rfl, List.Pairwise.nil, ?_⟩
    rw [hfree]
    exact fun _ hkey => hkey
  · refine ⟨_, rfl, pairwise_sortedDistinct _, ?_⟩
    intro key hkey
    exact mem_sortedDistinct.mpr (List.mem_append_left walked hkey)

theorem isFilling_of_fillGaps {grid : Int -> Int} (hgrid : StrictMono grid)
    (hplaces : forall key, key ∈ docs.flatMap keysOf -> exists place, grid place = key)
    (hnext : forall low high, low ∈ docs.flatMap keysOf -> high ∈ docs.flatMap keysOf ->
      forall place following, low <= grid place -> grid place < high ->
        next (grid place) = .ok following -> following = grid (place + 1))
    {filled : List (Int × List Document)}
    (h : fillGaps next (groupByKey keysOf docs) = .ok filled) :
    IsFilling next (docs.flatMap keysOf) (filled.map Prod.fst)
      ∧ forall key, key ∈ filled.map Prod.fst -> exists place low high, grid place = key
          ∧ low ∈ docs.flatMap keysOf ∧ high ∈ docs.flatMap keysOf ∧ low <= key ∧ key <= high := by
  rcases fillGaps_cases h with ⟨hfree, rfl⟩ | ⟨first, last, walked, hmin, hmax, hwalk, _, rfl⟩
  · rw [hfree]
    refine ⟨⟨rfl, rfl, List.isChain_nil, fun _ hkey => hkey⟩, ?_⟩
    intro key hkey
    cases hkey
  rcases List.min?_eq_some_iff.mp hmin with ⟨hfirst, hleast⟩
  rcases List.max?_eq_some_iff.mp hmax with ⟨hlast, hgreatest⟩
  rcases hplaces first hfirst with ⟨start, rfl⟩
  rcases hplaces last hlast with ⟨stop, rfl⟩
  have hle : start <= stop := hgrid.le_iff_le.mp (hleast _ hlast)
  rcases hwalk.on_grid hgrid rfl hle (fun index following hfrom hto =>
    hnext _ _ hfirst hlast index following (hgrid.monotone hfrom) (hgrid hto))
    with ⟨hhead, hchain, hpoints⟩
  have hcovers : forall key, key ∈ docs.flatMap keysOf -> key ∈ walked ++ [grid stop] := by
    intro key hkey
    rcases hplaces key hkey with ⟨place, rfl⟩
    rw [hpoints]
    exact ⟨place, hgrid.le_iff_le.mp (hleast _ hkey), hgrid.le_iff_le.mp (hgreatest _ hkey), rfl⟩
  -- The walk and the greatest key are all the keys there are.
  have hkeys : sortedDistinct (docs.flatMap keysOf ++ walked) = walked ++ [grid stop] := by
    apply sortedDistinct_eq
    · exact List.isChain_iff_pairwise.mp (hchain.imp (fun _ _ h => h.right))
    · intro key
      constructor
      · intro hkey
        rcases List.mem_append.mp hkey with hkey | hkey
        · exact List.mem_append_right _ hkey
        · rw [List.mem_singleton.mp hkey]
          exact List.mem_append_left _ hlast
      · intro hkey
        rcases List.mem_append.mp hkey with hkey | hkey
        · exact hcovers key hkey
        · exact List.mem_append_left _ hkey
  rw [keys_groupsOf, hkeys]
  constructor
  · exact ⟨hhead.trans hmin.symm, List.getLast?_concat.trans hmax.symm, hchain, hcovers⟩
  · intro key hkey
    rcases (hpoints key).mp hkey with ⟨index, hfrom, hto, rfl⟩
    exact ⟨index, _, _, rfl, hfirst, hlast, hgrid.monotone hfrom, hgrid.monotone hto⟩

theorem filter_fillGaps {filled : List (Int × List Document)}
    (h : fillGaps next (groupByKey keysOf docs) = .ok filled) {least : Nat} (hleast : 0 < least) :
    filled.filter (fun group => least <= group.2.length)
      = (groupByKey keysOf docs).filter (fun group => least <= group.2.length) := by
  rcases exists_keys_of_fillGaps h with ⟨keys, rfl, hascending, hoccupied⟩
  exact filter_groupsOf hascending hoccupied hleast

theorem histogramGroups_cases {minDocCount : Option Nat} {groups found : List (Int × List Document)}
    (h : histogramGroups next minDocCount groups = .ok found) :
    (minDocCount.getD 0 = 0 ∧ fillGaps next groups = .ok found)
      ∨ (0 < minDocCount.getD 0
        ∧ found = groups.filter (fun group => minDocCount.getD 0 <= group.2.length)) := by
  unfold histogramGroups at h
  dsimp only at h
  split at h
  · rename_i hzero
    exact Or.inl ⟨hzero, h⟩
  · rename_i hleast
    cases h
    exact Or.inr ⟨Nat.pos_of_ne_zero hleast, rfl⟩

theorem histogramGroups_of_fillGaps {minDocCount : Option Nat} (hzero : minDocCount.getD 0 = 0)
    {groups filled : List (Int × List Document)} (h : fillGaps next groups = .ok filled) :
    histogramGroups next minDocCount groups = .ok filled := by
  unfold histogramGroups
  dsimp only
  rw [if_pos hzero, h]

theorem exists_keys_of_histogramGroups {minDocCount : Option Nat}
    {groups : List (Int × List Document)}
    (h : histogramGroups next minDocCount (groupByKey keysOf docs) = .ok groups) :
    exists keys, groups = groupsOf keysOf docs keys ∧ keys.Pairwise (fun a b => a < b)
      ∧ (0 < minDocCount.getD 0 -> forall key, key ∈ keys -> key ∈ docs.flatMap keysOf) := by
  rcases histogramGroups_cases h with ⟨hzero, hfilled⟩ | ⟨_, rfl⟩
  · rcases exists_keys_of_fillGaps hfilled with ⟨keys, hgroups, hascending, _⟩
    exact ⟨keys, hgroups, hascending, fun hpos => absurd hzero (Nat.ne_of_gt hpos)⟩
  · rw [groupByKey_eq]
    unfold groupsOf
    rw [List.filter_map]
    refine ⟨_, rfl, (pairwise_sortedDistinct _).filter _, ?_⟩
    intro _ key hkey
    exact mem_sortedDistinct.mp (List.mem_of_mem_filter hkey)

/-!
# Reasons to fail
-/

section Failing

variable {reason : BackendError -> Prop} (haborted : ¬reason .aborted)
  (hoverflow : ¬reason (.rejected .keyOverflow))

include haborted in
theorem avoids_measured (millis : Int) : Avoids reason (measured millis) := by
  unfold measured
  split
  · exact .ok _
  · exact .failed haborted

include haborted in
theorem avoids_keyedByDate (spec : Request.DateHistogram) (interval : Calendar.Interval)
    (offset : Int) (doc : Document) : Avoids reason (keyedByDate spec interval offset doc) := by
  refine .bind (.mapM (fun date _ => ?_)) (fun _ _ => .ok _)
  refine .bind (avoids_measured haborted _) (fun shifted _ => ?_)
  split
  · exact .ok none
  · exact .bind (avoids_measured haborted _) (fun _ _ => .ok _)

include haborted hoverflow in
theorem avoids_nextDateKey (interval : Calendar.Interval) (offset key : Int) :
    Avoids reason (nextDateKey interval offset key) := by
  unfold nextDateKey
  split
  · refine .bind (avoids_measured haborted _) (fun shifted _ => ?_)
    split
    · exact .failed hoverflow
    · exact avoids_measured haborted _
  · dsimp only
    split
    · exact .ok _
    · exact .failed hoverflow

include hoverflow in
theorem avoids_nextSlot (slot : Int) : Avoids reason (nextSlot slot) := by
  unfold nextSlot
  split
  · exact .ok _
  · exact .failed hoverflow

include haborted in
theorem avoids_dateBucket (hkey : forall key, ¬reason (.rejected (.dateKey key)))
    (hletter : forall letter, ¬reason (.rejected (.patternLetter letter)))
    (spec : Request.DateHistogram) (offset : Int) (group : Int × List Document) :
    Avoids reason (dateBucket spec offset group) := by
  refine .bind (avoids_measured haborted _) (fun shifted _ => ?_)
  split
  · exact .failed (hkey _)
  · refine .bind ?_ (fun _ _ => .ok _)
    unfold renderInstant
    split
    · exact .ok _
    · exact .failed (hletter _)

theorem avoids_histogramGroups (hlimit : ¬reason (.rejected .tooManyBuckets))
    (hnext : forall key, Avoids reason (next key)) (minDocCount : Option Nat)
    (groups : List (Int × List Document)) :
    Avoids reason (histogramGroups next minDocCount groups) := by
  have hsteps : forall last room key passed,
      Avoids reason (stepKeys next last room key passed) := by
    intro last room key passed
    fun_induction stepKeys next last room key passed with
    | case1 => exact .failed hlimit
    | case2 key _ _ _ e hfails => exact .failed (hnext key e hfails)
    | case3 _ _ _ _ _ _ ih => exact ih
    | case4 => exact .ok _
  unfold histogramGroups fillGaps
  dsimp only
  split
  · split
    · exact .bind (hsteps _ _ _ _) (fun _ _ => .ok _)
    · exact .ok groups
  · exact .ok _

end Failing

end Store
end Rollup
