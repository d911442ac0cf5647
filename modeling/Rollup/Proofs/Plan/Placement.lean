import Rollup.Proofs.Plan.Ordering

/-!
# Places of ORDER BY and LIMIT

Every item of ORDER BY has one place among the levels of a grouped query: it sorts the
innermost by a measure, or the level of a plain field by its keys. Each level is sorted by
the items that have their place there, in turn, and LIMIT is the size of the innermost.
The first item that names neither a measure nor a plain field is what the query fails with.
-/

namespace Rollup
namespace Plan

open Request (Aggregation SortEntry)
open Sql (AggregateCall ColumnRef Direction GroupTerm OrderItem SelectItem Statement)

def Names (call : AggregateCall) : ColumnRef -> Prop
  | .name text => call.displayName = text
  | .aggregate restated => call.canonicalName = restated.canonicalName

/-- A reference names a term of GROUP BY that is a plain field, by this field or by an alias
that the select list gives it. -/
def NamesTerm (statement : Statement) (term : GroupTerm) (reference : ColumnRef) : Prop :=
  exists text, reference = .name text ∧ term = .plain (orderField statement.select text)

/-- The position of the level that a reference sorts, and the key that it sorts it by. The
first call of the name goes before a field, and has to have one number as its value. -/
inductive Sorts (statement : Statement) (reference : ColumnRef) : Nat -> String -> Prop where
  | measure {before after : List AggregateCall} {call : AggregateCall} {measure : Measure}
      (calls : statement.calls = before ++ call :: after)
      (earlier : forall other, other ∈ before -> ¬ Names other reference)
      (named : Names call reference) (measured : Plan.measure call = .ok measure)
      (single : measure.kind.isSingleValue = true) :
      Sorts statement reference (statement.groups.length - 1) call.displayName
  | key {position : Nat} {term : GroupTerm}
      (unnamed : forall call, call ∈ statement.calls -> ¬ Names call reference)
      (grouped : statement.groups[position]? = some term)
      (named : NamesTerm statement term reference) :
      Sorts statement reference position "_key"

/-- The keys that items sort the level at a position by, in turn. -/
inductive SortedBy (statement : Statement) (position : Nat) :
    List OrderItem -> List (String × Direction) -> Prop where
  | nil : SortedBy statement position [] []
  | here {item : OrderItem} {rest : List OrderItem} {key : String}
      {keys : List (String × Direction)} (sorts : Sorts statement item.target position key)
      (more : SortedBy statement position rest keys) :
      SortedBy statement position (item :: rest) ((key, item.direction) :: keys)
  | elsewhere {item : OrderItem} {rest : List OrderItem} {other : Nat} {key : String}
      {keys : List (String × Direction)} (sorts : Sorts statement item.target other key)
      (apart : other ≠ position) (more : SortedBy statement position rest keys) :
      SortedBy statement position (item :: rest) keys

def sortOrder (keys : List (String × Direction)) : Option (List SortEntry) :=
  if keys = [] then none else some (keys.map (fun key => [key]))

def CanBePlaced (statement : Statement) (levels : List Level) (item : OrderItem) : Prop :=
  exists position key level, Sorts statement item.target position key
    ∧ levels[position]? = some level ∧ level.isOrderable = true

/-- The levels are those of the terms of GROUP BY, sorted and cut as ORDER BY and LIMIT say. -/
structure IsPlaced (options : Options) (statement : Statement) (levels : List Level) : Prop where
  formed : List.Forall₂ (fun term level => exists fresh,
    termLevel options.bucketSize term = .ok fresh ∧ level.bare = fresh.bare)
      statement.groups levels
  placed : forall item, item ∈ statement.order -> CanBePlaced statement levels item
  single : forall item, item ∈ statement.order -> forall place other : Nat × String,
    Sorts statement item.target place.1 place.2 -> Sorts statement item.target other.1 other.2
      -> place = other
  sorted : forall position level, levels[position]? = some level ->
    exists keys, SortedBy statement position statement.order keys
      ∧ level.bucketing.order? = sortOrder keys
  unsorted : forall position level, levels[position]? = some level ->
    level.isOrderable = false -> level.bucketing.order? = none
      ∧ SortedBy statement position statement.order []
  limited : forall count, statement.limit = some count -> 1 ≤ count
    ∧ exists outer level spec, levels = outer ++ [level]
        ∧ level.bucketing = .terms spec ∧ spec.size = some count
  sized : forall outer level inner spec, levels = outer ++ level :: inner ->
    (statement.limit = none ∨ inner ≠ []) -> level.bucketing = .terms spec ->
      spec.size = some options.bucketSize

/-!
# Calls that a reference names
-/

theorem referencedCall?_eq_some_iff {reference : ColumnRef} {calls : List AggregateCall}
    {call : AggregateCall} :
    referencedCall? reference calls = some call
      <-> Names call reference ∧ exists before after, calls = before ++ call :: after
          ∧ forall other, other ∈ before -> ¬ Names other reference := by
  cases reference <;> simp [referencedCall?, Names, List.find?_eq_some_iff_append]

theorem referencedCall?_eq_none_iff {reference : ColumnRef} {calls : List AggregateCall} :
    referencedCall? reference calls = none
      <-> forall call, call ∈ calls -> ¬ Names call reference := by
  cases reference <;> simp [referencedCall?, Names]

theorem find?_name {measures : List Measure} (hnodup : (measures.map Measure.name).Nodup)
    {measure : Measure} (hmem : measure ∈ measures) :
    measures.find? (fun other => other.name == measure.name) = some measure := by
  have hsome : (measures.find? (fun other => other.name == measure.name)).isSome = true :=
    List.find?_isSome.mpr ⟨measure, hmem, beq_self_eq_true _⟩
  rcases Option.isSome_iff_exists.mp hsome with ⟨found, hfound⟩
  have hname : found.name = measure.name := by simpa using List.find?_some hfound
  have hsame : found = measure :=
    List.inj_on_of_nodup_map hnodup (List.mem_of_find?_eq_some hfound) hmem hname
  rw [hfound, hsame]

theorem referencedMeasure?_eq {calls : List AggregateCall} {measures : List Measure}
    (hnames : (calls.map AggregateCall.displayName).Nodup)
    (hmeasures : Plan.measures calls = .ok measures) {reference : ColumnRef}
    {call : AggregateCall} (hcall : referencedCall? reference calls = some call) :
    exists measure, Plan.measure call = .ok measure
      ∧ referencedMeasure? reference calls measures = some measure := by
  have hmem : call ∈ calls := by
    rcases referencedCall?_eq_some_iff.mp hcall with ⟨_, before, after, rfl, _⟩
    exact List.mem_append_right before List.mem_cons_self
  rcases exists_result_of_mem_mapM hmeasures hmem with ⟨measure, hfound, hmeasure⟩
  rw [<- names_of_measures hmeasures] at hnames
  refine ⟨measure, hmeasure, ?_⟩
  rw [referencedMeasure?, hcall]
  dsimp only
  rw [<- name_of_measure hmeasure]
  exact find?_name hnames hfound

theorem referencedMeasure?_eq_none {calls : List AggregateCall} {reference : ColumnRef}
    (h : forall call, call ∈ calls -> ¬ Names call reference) (measures : List Measure) :
    referencedMeasure? reference calls measures = none := by
  rw [referencedMeasure?, referencedCall?_eq_none_iff.mpr h]

/-!
# Terms that a reference names
-/

theorem termLevel_plain_iff {size : Nat} {term : GroupTerm} {level : Level}
    (h : termLevel size term = .ok level) (field : String) :
    (level.isTerms && level.name == field) = true <-> term = .plain field := by
  cases term with
  | plain own =>
      cases h
      simp [Level.isTerms]
  | call bucket =>
      simp [(callLevel_checked h).left]

theorem findIdx?_termLevel {size : Nat} {terms : List GroupTerm} {levels : List Level}
    (hlevels : List.Forall₂ (fun term level => termLevel size term = .ok level) terms levels)
    (hnodup : terms.Nodup) (field : String) (position : Nat) :
    levels.findIdx? (fun level => level.isTerms && level.name == field) = some position
      <-> terms[position]? = some (.plain field) := by
  induction hlevels generalizing position with
  | nil => simp
  | @cons term level terms levels hlevel _ ih =>
      rw [List.nodup_cons] at hnodup
      have hiff := termLevel_plain_iff hlevel field
      rw [List.findIdx?_cons]
      by_cases hterm : term = .plain field
      · rw [if_pos (hiff.mpr hterm)]
        cases position with
        | zero => simpa using hterm
        | succ position =>
            refine ⟨fun h => (by cases h), fun h => ?_⟩
            exact absurd (hterm ▸ List.mem_of_getElem? h) hnodup.left
      · rw [if_neg (fun h => hterm (hiff.mp h))]
        cases position with
        | zero => simp [hterm]
        | succ position => simpa using ih hnodup.right position

/-!
# Levels that can be sorted
-/

theorem isOrderable_bare (level : Level) : level.bare.isOrderable = level.isOrderable := by
  obtain ⟨name, bucketing⟩ := level
  cases bucketing <;> rfl

theorem order?_of_not_isOrderable {level : Level} (h : level.isOrderable = false) :
    level.bucketing.order? = none := by
  obtain ⟨name, bucketing⟩ := level
  cases bucketing with
  | range spec => rfl
  | dateRange spec => rfl
  | _ => cases h

theorem addOrder_isOk_iff (level : Level) (key : String) (direction : Direction) :
    (exists updated, level.addOrder key direction = .ok updated) <-> level.isOrderable = true := by
  obtain ⟨name, bucketing⟩ := level
  cases bucketing <;> simp [Level.addOrder, Level.isOrderable]

theorem exists_modifyAt {update : Level -> Except Error Level} {position : Nat}
    {levels : List Level} {level updated : Level} (hlevel : levels[position]? = some level)
    (hupdate : update level = .ok updated) :
    exists placed, modifyAt update position levels = .ok placed := by
  induction levels generalizing position with
  | nil => cases hlevel
  | cons first rest ih =>
      cases position with
      | zero =>
          cases hlevel
          exact ⟨_, bind_eq_ok_iff.mpr ⟨updated, hupdate, rfl⟩⟩
      | succ position =>
          rcases ih hlevel with ⟨placed, hplaced⟩
          exact ⟨_, bind_eq_ok_iff.mpr ⟨placed, hplaced, rfl⟩⟩

theorem getElem?_of_bare {levels others : List Level}
    (h : others.map Level.bare = levels.map Level.bare) {position : Nat} {other : Level}
    (hother : others[position]? = some other) :
    exists level, levels[position]? = some level ∧ level.bare = other.bare := by
  have hbare : (others.map Level.bare)[position]? = (levels.map Level.bare)[position]? := by rw [h]
  rw [List.getElem?_map, List.getElem?_map, hother] at hbare
  exact Option.map_eq_some_iff.mp hbare.symm

theorem orderPlace_congr {levels others : List Level}
    (h : others.map Level.bare = levels.map Level.bare) (target : OrderTarget) :
    orderPlace others target = orderPlace levels target := by
  have hlength : others.length = levels.length := by
    simpa using congrArg List.length h
  cases target with
  | measure measure => rw [orderPlace, orderPlace, hlength]
  | key position => rfl

theorem CanBePlaced.congr {statement : Statement} {levels others : List Level}
    (h : others.map Level.bare = levels.map Level.bare) {item : OrderItem}
    (hitem : CanBePlaced statement others item) : CanBePlaced statement levels item := by
  rcases hitem with ⟨position, key, other, hsorts, hother, horderable⟩
  rcases getElem?_of_bare h hother with ⟨level, hlevel, hbare⟩
  refine ⟨position, key, level, hsorts, hlevel, ?_⟩
  rw [<- isOrderable_bare, hbare, isOrderable_bare, horderable]

theorem Sorts.position_lt {statement : Statement} {reference : ColumnRef} {position : Nat}
    {key : String} (h : Sorts statement reference position key) (hgroups : statement.groups ≠ []) :
    position < statement.groups.length := by
  cases h with
  | measure => exact Nat.sub_lt (List.length_pos_iff.mpr hgroups) Nat.one_pos
  | key _ grouped _ => exact (List.getElem?_eq_some_iff.mp grouped).choose

/-!
# Places of items
-/

section

variable {size : Nat} {statement : Statement} {groups : List Level} {measures : List Measure}
  (hnames : (statement.calls.map AggregateCall.displayName).Nodup)
  (hgroups : Plan.levels size statement.groups = .ok groups)
  (hmeasures : Plan.measures statement.calls = .ok measures)

include hgroups in
theorem findIdx?_group_iff (field : String) (position : Nat) :
    groups.findIdx? (fun level => level.isTerms && level.name == field) = some position
      <-> statement.groups[position]? = some (.plain field) := by
  rcases levelsAfter_cases hgroups with ⟨hterms, hnodup, _⟩
  rw [names_of_levels hgroups] at hnodup
  exact findIdx?_termLevel hterms (List.Nodup.of_map termName hnodup) field position

include hnames hmeasures in
theorem resolveOrder_of_call (levels : List Level) {reference : ColumnRef} {call : AggregateCall}
    (hcall : referencedCall? reference statement.calls = some call) :
    exists measure, Plan.measure call = .ok measure
      ∧ resolveOrder statement levels measures reference = .ok (.measure measure) := by
  rcases referencedMeasure?_eq hnames hmeasures hcall with ⟨measure, hmeasure, hreferenced⟩
  refine ⟨measure, hmeasure, ?_⟩
  unfold resolveOrder
  rw [hreferenced]

include hgroups in
theorem resolveOrder_of_unnamed (measures : List Measure) {reference : ColumnRef}
    (hunnamed : forall call, call ∈ statement.calls -> ¬ Names call reference) :
    (exists position term, statement.groups[position]? = some term
        ∧ NamesTerm statement term reference
        ∧ resolveOrder statement groups measures reference = .ok (.key position))
      ∨ ((forall term, term ∈ statement.groups -> ¬ NamesTerm statement term reference)
        ∧ resolveOrder statement groups measures reference
          = .error (.unresolvedOrderTarget reference.lookupName)) := by
  unfold resolveOrder
  rw [referencedMeasure?_eq_none hunnamed]
  cases reference with
  | aggregate restated =>
      refine Or.inr ⟨?_, rfl⟩
      rintro term _ ⟨text, hname, _⟩
      cases hname
  | name text =>
      dsimp only
      cases hfound : groups.findIdx? (fun level =>
          level.isTerms && level.name == orderField statement.select text) with
      | some position =>
          have hterm := (findIdx?_group_iff hgroups _ position).mp hfound
          exact Or.inl ⟨position, _, hterm, ⟨text, rfl, rfl⟩, rfl⟩
      | none =>
          refine Or.inr ⟨?_, rfl⟩
          rintro term hmem ⟨own, hname, rfl⟩
          cases hname
          rcases List.mem_iff_getElem?.mp hmem with ⟨position, hposition⟩
          rw [(findIdx?_group_iff hgroups _ position).mpr hposition] at hfound
          cases hfound

include hgroups in
theorem length_groups : groups.length = statement.groups.length :=
  (levelsAfter_cases hgroups).left.length_eq.symm

include hnames hgroups hmeasures in
theorem sorts_iff {reference : ColumnRef} {position : Nat} {key : String} :
    Sorts statement reference position key
      <-> exists target, resolveOrder statement groups measures reference = .ok target
          ∧ orderPlace groups target = .ok (position, key) := by
  constructor
  · intro h
    cases h with
    | measure calls earlier named measured single =>
        have hcall := referencedCall?_eq_some_iff.mpr ⟨named, _, _, calls, earlier⟩
        rcases resolveOrder_of_call hnames hmeasures groups hcall with
          ⟨measure, hmeasure, hresolved⟩
        cases measured.symm.trans hmeasure
        refine ⟨_, hresolved, ?_⟩
        rw [orderPlace, if_pos single, length_groups hgroups, name_of_measure hmeasure]
    | key unnamed grouped named =>
        rcases resolveOrder_of_unnamed hgroups measures unnamed with
          ⟨found, term, hfound, ⟨text, hname, hterm⟩, hresolved⟩ | ⟨hnone, _⟩
        · rcases named with ⟨own, hown, rfl⟩
          cases hname.symm.trans hown
          rw [hterm] at hfound
          have hsame := (findIdx?_group_iff hgroups _ found).mpr hfound
          rw [(findIdx?_group_iff hgroups _ position).mpr grouped] at hsame
          cases hsame
          exact ⟨_, hresolved, rfl⟩
        · exact absurd named (hnone _ (List.mem_of_getElem? grouped))
  · rintro ⟨target, hresolved, hplace⟩
    cases hcall : referencedCall? reference statement.calls with
    | some call =>
        rcases resolveOrder_of_call hnames hmeasures groups hcall with ⟨measure, hmeasure, hfound⟩
        cases hresolved.symm.trans hfound
        rw [orderPlace] at hplace
        split at hplace
        · rename_i hsingle
          cases hplace
          rcases referencedCall?_eq_some_iff.mp hcall with ⟨hnamed, before, after, hcalls, hearlier⟩
          rw [name_of_measure hmeasure, length_groups hgroups]
          exact .measure hcalls hearlier hnamed hmeasure hsingle
        · cases hplace
    | none =>
        have hunnamed := referencedCall?_eq_none_iff.mp hcall
        rcases resolveOrder_of_unnamed hgroups measures hunnamed with
          ⟨found, term, hterm, hnamed, hfound⟩ | ⟨_, hfailed⟩
        · cases hresolved.symm.trans hfound
          cases hplace
          exact .key hunnamed hterm hnamed
        · cases hresolved.symm.trans hfailed

include hnames hgroups hmeasures in
theorem sorts_unique {reference : ColumnRef} {place other : Nat × String}
    (hplace : Sorts statement reference place.1 place.2)
    (hother : Sorts statement reference other.1 other.2) : place = other := by
  rcases (sorts_iff hnames hgroups hmeasures).mp hplace with ⟨target, htarget, hplace⟩
  rcases (sorts_iff hnames hgroups hmeasures).mp hother with ⟨same, hsame, hother⟩
  cases htarget.symm.trans hsame
  exact Except.ok.inj (hplace.symm.trans hother)

include hnames hgroups hmeasures in
theorem canBePlaced_of_placeOrder (hnonempty : statement.groups ≠ []) {items : List OrderItem}
    {levels placed : List Level} (hbare : levels.map Level.bare = groups.map Level.bare)
    (h : placeOrder statement measures levels items = .ok placed) :
    forall item, item ∈ items -> CanBePlaced statement groups item := by
  have hlength : levels.length = statement.groups.length := by
    rw [<- length_groups hgroups]
    simpa using congrArg List.length hbare
  induction items generalizing levels with
  | nil => exact fun _ hitem => (nomatch hitem)
  | cons item rest ih =>
      rcases placeOrder_cons_cases h with
        ⟨target, htarget, ⟨hnil, _⟩ | ⟨place, moved, hplace, hmoved, hrest⟩⟩
      · rw [hnil] at hlength
        exact absurd (List.length_eq_zero_iff.mp hlength.symm) hnonempty
      · have hkept := map_modifyAt (fun _ _ => bare_addOrder) hmoved
        have hsame : moved.length = levels.length := by
          simpa using congrArg List.length hkept
        intro other hother
        rcases List.mem_cons.mp hother with rfl | hother
        · rw [resolveOrder_congr hbare] at htarget
          rw [orderPlace_congr hbare] at hplace
          have hsorts := (sorts_iff hnames hgroups hmeasures).mpr ⟨target, htarget, hplace⟩
          have hlt := hsorts.position_lt hnonempty
          rw [<- hlength] at hlt
          have hlevel := List.getElem?_eq_getElem hlt
          rcases getElem?_modifyAt hmoved hlevel with ⟨updated, _, hhere, _⟩
          have horderable := (addOrder_isOk_iff _ _ _).mp ⟨updated, hhere rfl⟩
          exact CanBePlaced.congr hbare ⟨place.1, place.2, _, hsorts, hlevel, horderable⟩
        · exact ih (hkept.trans hbare) hrest (hsame.trans hlength) other hother

include hnames hgroups hmeasures in
theorem placeOrder_unresolved {before after : List OrderItem} {item : OrderItem}
    {levels : List Level} (hbare : levels.map Level.bare = groups.map Level.bare)
    (hbefore : forall earlier, earlier ∈ before -> CanBePlaced statement groups earlier)
    (hcalls : forall call, call ∈ statement.calls -> ¬ Names call item.target)
    (hterms : forall term, term ∈ statement.groups -> ¬ NamesTerm statement term item.target) :
    placeOrder statement measures levels (before ++ item :: after)
      = .error (.unresolvedOrderTarget item.target.lookupName) := by
  induction before generalizing levels with
  | nil =>
      rw [List.nil_append, placeOrder, resolveOrder_congr hbare]
      rcases resolveOrder_of_unnamed hgroups measures hcalls with
        ⟨position, term, hterm, hnamed, _⟩ | ⟨_, hfailed⟩
      · exact absurd hnamed (hterms term (List.mem_of_getElem? hterm))
      · rw [hfailed, error_bind]
  | cons first rest ih =>
      rcases CanBePlaced.congr hbare.symm (hbefore first List.mem_cons_self) with
        ⟨position, key, level, hsorts, hlevel, horderable⟩
      rcases (sorts_iff hnames hgroups hmeasures).mp hsorts with ⟨target, htarget, hplace⟩
      rw [<- resolveOrder_congr hbare] at htarget
      rw [<- orderPlace_congr hbare] at hplace
      rcases (addOrder_isOk_iff level key first.direction).mpr horderable with ⟨updated, hupdated⟩
      have hupdate : exists moved,
          modifyAt (fun level => level.addOrder key first.direction) position levels = .ok moved :=
        exists_modifyAt hlevel hupdated
      rcases hupdate with ⟨moved, hmoved⟩
      have hempty : levels.isEmpty = false := by
        cases levels with
        | nil => cases hlevel
        | cons => rfl
      have hkept := map_modifyAt (fun _ _ => bare_addOrder) hmoved
      rw [List.cons_append, placeOrder, htarget, ok_bind, hempty]
      show (orderPlace levels target >>= _) = _
      rw [hplace, ok_bind]
      show (modifyAt (fun level => level.addOrder key first.direction) position levels >>= _) = _
      rw [hmoved, ok_bind]
      exact ih (hkept.trans hbare) (fun earlier hearlier =>
        hbefore earlier (List.mem_cons_of_mem first hearlier))

include hnames hgroups hmeasures in
theorem sortedBy_targetsAt (position : Nat) {items : List OrderItem}
    (h : forall item, item ∈ items -> CanBePlaced statement groups item) :
    SortedBy statement position items
      ((targetsAt statement groups measures position items).map
        (fun target => (target.1.sortKey, target.2))) := by
  induction items with
  | nil => exact .nil
  | cons item rest ih =>
      have hrest := ih (fun other hother => h other (List.mem_cons_of_mem item hother))
      rcases h item List.mem_cons_self with ⟨other, key, _, hsorts, _⟩
      rcases (sorts_iff hnames hgroups hmeasures).mp hsorts with ⟨target, htarget, hplace⟩
      cases orderPlace_eq hplace
      rw [targetsAt, List.filterMap_cons, targetAt?, htarget]
      dsimp only
      by_cases hposition : target.position groups.length = position
      · rw [if_pos hposition]
        exact .here (hposition ▸ hsorts) hrest
      · rw [if_neg hposition]
        exact .elsewhere hsorts hposition hrest

end

theorem sortedBy_nil {statement : Statement} {position : Nat} {items : List OrderItem}
    (h : forall item, item ∈ items ->
      exists other key, Sorts statement item.target other key ∧ other ≠ position) :
    SortedBy statement position items [] := by
  induction items with
  | nil => exact .nil
  | cons item rest ih =>
      rcases h item List.mem_cons_self with ⟨other, key, hsorts, hapart⟩
      exact .elsewhere hsorts hapart
        (ih (fun next hnext => h next (List.mem_cons_of_mem item hnext)))

theorem orderAfter_none_eq_sortOrder (keys : List (String × Direction)) :
    orderAfter none keys = sortOrder keys := by
  by_cases hkeys : keys = []
  · rw [hkeys]
    rfl
  · rw [orderAfter_none hkeys, sortOrder, if_neg hkeys]

/-!
# Sizes of levels
-/

def Level.termSize? (level : Level) : Option (Option Nat) :=
  match level.bucketing with
  | .terms spec => some spec.size
  | _ => none

theorem termSize?_addOrder {level updated : Level} {key : String} {direction : Direction}
    (h : level.addOrder key direction = .ok updated) : updated.termSize? = level.termSize? := by
  obtain ⟨name, bucketing⟩ := level
  cases bucketing <;> cases h <;> rfl

theorem termSize?_of_termLevel {size : Nat} {term : GroupTerm} {level : Level}
    (h : termLevel size term = .ok level) {bound : Option Nat}
    (hbound : level.termSize? = some bound) : bound = some size := by
  cases term with
  | plain field =>
      cases h
      exact (Option.some.inj hbound).symm
  | call bucket =>
      have hother := (callLevel_checked h).left
      unfold Level.isTerms at hother
      unfold Level.termSize? at hbound
      split at hbound
      · rename_i hterms
        rw [hterms] at hother
        cases hother
      · cases hbound

theorem placeLimit_pos {count : Nat} {levels placed : List Level}
    (h : placeLimit (some count) levels = .ok placed) (hlevels : levels ≠ []) : 1 ≤ count := by
  generalize hlimit : some count = limit at h
  fun_induction placeLimit limit levels generalizing placed with
  | case1 => exact absurd rfl hlevels
  | case2 level hnone => cases hlimit.trans hnone
  | case3 => cases h
  | case4 level other spec _ hsome hother =>
      cases hlimit.trans hsome
      exact Nat.one_le_iff_ne_zero.mpr hother
  | case5 => cases h
  | case6 level rest hmore ih =>
      rcases bind_eq_ok_iff.mp h with ⟨others, hothers, _⟩
      exact ih hmore hothers

theorem getElem?_placeLimit {limit : Option Nat} {levels placed : List Level}
    (h : placeLimit limit levels = .ok placed) {position : Nat}
    (hposition : limit = none ∨ position + 1 < levels.length) :
    placed[position]? = levels[position]? := by
  rcases placeLimit_cases h with ⟨rfl, _⟩ | ⟨outer, level, spec, count, hlimit, rfl, _, rfl⟩
  · rfl
  · rw [hlimit] at hposition
    have hlt : position < outer.length := by simpa using hposition
    rw [List.getElem?_append_left hlt, List.getElem?_append_left hlt]

theorem order?_placeLimit {limit : Option Nat} {levels placed : List Level}
    (h : placeLimit limit levels = .ok placed) :
    placed.map (fun level => level.bucketing.order?)
      = levels.map (fun level => level.bucketing.order?) := by
  rcases placeLimit_cases h with ⟨rfl, _⟩ | ⟨outer, level, spec, count, _, rfl, hbucketing, rfl⟩
  · rfl
  · rw [List.map_append, List.map_append, List.map_singleton, List.map_singleton, hbucketing]
    rfl

/-!
# Placed levels
-/

theorem forall₂_bare {size : Nat} {terms : List GroupTerm} {groups levels : List Level}
    (hgroups : List.Forall₂ (fun term level => termLevel size term = .ok level) terms groups)
    (hbare : levels.map Level.bare = groups.map Level.bare) :
    List.Forall₂ (fun term level => exists fresh,
      termLevel size term = .ok fresh ∧ level.bare = fresh.bare) terms levels := by
  induction hgroups generalizing levels with
  | nil =>
      rw [List.map_nil, List.map_eq_nil_iff] at hbare
      rw [hbare]
      exact .nil
  | @cons term fresh terms groups hfresh _ ih =>
      cases levels with
      | nil => cases hbare
      | cons level levels =>
          injection hbare with hfirst hrest
          exact .cons ⟨fresh, hfresh, hfirst⟩ (ih hrest)

namespace Outline

variable {options : Options} {statement : Statement} (outline : Outline options statement)

include outline

theorem canBePlaced (hgroups : statement.groups ≠ []) :
    forall item, item ∈ statement.order -> CanBePlaced statement outline.levels item := by
  intro item hitem
  have hnames := nodup_displayNames outline.checked
  have hplaced := canBePlaced_of_placeOrder hnames outline.grouped outline.measured hgroups rfl
    outline.sorted item hitem
  exact hplaced.congr outline.bare_levels.symm

theorem exists_fresh {position : Nat} {level : Level}
    (hlevel : outline.levels[position]? = some level) :
    exists term fresh, outline.groups[position]? = some fresh
      ∧ termLevel options.bucketSize term = .ok fresh := by
  rcases getElem?_of_bare outline.bare_levels hlevel with ⟨fresh, hfresh, _⟩
  rcases exists_left_of_mem (levelsAfter_cases outline.grouped).left (List.mem_of_getElem? hfresh)
    with ⟨term, _, hterm⟩
  exact ⟨term, fresh, hfresh, hterm⟩

theorem order_levels (hgroups : statement.groups ≠ []) {position : Nat} {level : Level}
    (hlevel : outline.levels[position]? = some level) :
    exists keys, SortedBy statement position statement.order keys
      ∧ level.bucketing.order? = sortOrder keys := by
  have hnames := nodup_displayNames outline.checked
  rcases outline.exists_fresh hlevel with ⟨term, fresh, hfresh, hterm⟩
  rcases order?_placeOrder outline.sorted hfresh with ⟨sorted, hsorted, horder, _⟩
  rw [(hasInterval_of_termLevel hterm).right, orderAfter_none_eq_sortOrder] at horder
  have hsame : (outline.levels.map (fun level => level.bucketing.order?))[position]?
      = (outline.ordered.map (fun level => level.bucketing.order?))[position]? := by
    rw [order?_placeLimit outline.limited]
  rw [List.getElem?_map, List.getElem?_map, hlevel, hsorted] at hsame
  refine ⟨_, ?_, (Option.some.inj hsame).trans horder⟩
  exact sortedBy_targetsAt hnames outline.grouped outline.measured position (fun item hitem =>
    (outline.canBePlaced hgroups item hitem).congr outline.bare_levels)

theorem size_levels {outer inner : List Level} {level : Level} {spec : Request.Terms}
    (hlevels : outline.levels = outer ++ level :: inner)
    (hinner : statement.limit = none ∨ inner ≠ []) (hterms : level.bucketing = .terms spec) :
    spec.size = some options.bucketSize := by
  have hlevel : outline.levels[outer.length]? = some level := by
    rw [hlevels, List.getElem?_append_right (Nat.le_refl _), Nat.sub_self]
    rfl
  have hlength : outline.ordered.length = outline.levels.length := by
    simpa using congrArg List.length (bare_placeLimit outline.limited).symm
  have hposition : statement.limit = none ∨ outer.length + 1 < outline.ordered.length := by
    refine hinner.imp id (fun hne => ?_)
    have hpos := List.length_pos_iff.mpr hne
    rw [hlength, hlevels, List.length_append, List.length_cons]
    omega
  rcases outline.exists_fresh hlevel with ⟨term, fresh, hfresh, hterm⟩
  rw [getElem?_placeLimit outline.limited hposition] at hlevel
  have hsame : (outline.ordered.map Level.termSize?)[outer.length]?
      = (outline.groups.map Level.termSize?)[outer.length]? := by
    rw [map_placeOrder (fun _ _ _ _ => termSize?_addOrder) outline.sorted]
  rw [List.getElem?_map, List.getElem?_map, hlevel, hfresh] at hsame
  refine termSize?_of_termLevel hterm ((Option.some.inj hsame).symm.trans ?_)
  rw [Level.termSize?, hterms]

theorem limit_levels (hgroups : statement.groups ≠ []) {count : Nat}
    (hcount : statement.limit = some count) :
    1 ≤ count ∧ exists outer level spec, outline.levels = outer ++ [level]
      ∧ level.bucketing = .terms spec ∧ spec.size = some count := by
  have hlimited := outline.limited
  rw [hcount] at hlimited
  have hordered : outline.ordered ≠ [] := by
    intro hnil
    have hbare := bare_placeOrder outline.sorted
    rw [hnil, List.map_nil] at hbare
    have hlength := length_groups outline.grouped
    rw [List.map_eq_nil_iff.mp hbare.symm] at hlength
    exact hgroups (List.length_eq_zero_iff.mp hlength.symm)
  refine ⟨placeLimit_pos hlimited hordered, ?_⟩
  rcases placeLimit_cases hlimited with
    ⟨_, hnone | hnil⟩ | ⟨outer, level, spec, same, hsame, _, _, hplaced⟩
  · cases hnone
  · exact absurd hnil hordered
  · exact ⟨outer, _, _, hplaced, rfl, hsame.symm⟩

theorem isPlaced (hgroups : statement.groups ≠ []) :
    IsPlaced options statement outline.levels where
  formed := forall₂_bare (levelsAfter_cases outline.grouped).left outline.bare_levels
  placed := outline.canBePlaced hgroups
  single _ _ _ _ hplace hother :=
    sorts_unique (nodup_displayNames outline.checked) outline.grouped outline.measured hplace hother
  sorted _ _ hlevel := outline.order_levels hgroups hlevel
  unsorted := by
    intro position level hlevel hfixed
    refine ⟨order?_of_not_isOrderable hfixed, sortedBy_nil (fun item hitem => ?_)⟩
    rcases outline.canBePlaced hgroups item hitem with
      ⟨other, key, found, hsorts, hfound, horderable⟩
    refine ⟨other, key, hsorts, ?_⟩
    rintro rfl
    cases hlevel.symm.trans hfound
    rw [hfixed] at horderable
    cases horderable
  limited _ hcount := outline.limit_levels hgroups hcount
  sized _ _ _ _ hlevels hinner hterms := outline.size_levels hlevels hinner hterms

end Outline

/-!
# Names that differ
-/

theorem repeatedName?_eq_none {seen names : List String} (hnodup : names.Nodup)
    (hfresh : forall name, name ∈ names -> name ∉ seen) : repeatedName? seen names = none := by
  induction names generalizing seen with
  | nil => rfl
  | cons name rest ih =>
      rw [List.nodup_cons] at hnodup
      rw [repeatedName?, if_neg]
      · refine ih hnodup.right (fun other hother hmem => ?_)
        rcases List.mem_cons.mp hmem with rfl | hseen
        · exact hnodup.left hother
        · exact hfresh other (List.mem_cons_of_mem name hother) hseen
      · rw [List.contains_iff_mem]
        exact hfresh name List.mem_cons_self

theorem checkNames_of_nodup {items : List SelectItem}
    (h : ((items.filter (fun item => !item.isStar)).map SelectItem.displayName).Nodup) :
    checkNames items = .ok () := by
  rw [checkNames, repeatedName?_eq_none h (fun _ _ => List.not_mem_nil)]

/-- The levels of a grouped query are sorted and cut as ORDER BY and LIMIT say. Where the names
of the select list differ and terms and calls are well formed, the query fails with the first
item of ORDER BY that has no place, if this names neither a call nor a plain field. -/
theorem isPlaced_ofStatement {options : Options} {statement : Statement}
    (hgroups : statement.groups ≠ []) :
    (forall plan, ofStatement options statement = .ok plan ->
      exists leaves levels, plan.request.body.aggs = some (nest leaves levels)
        ∧ IsPlaced options statement levels)
    ∧ forall levels measures before item after,
      ((statement.select.filter (fun entry => !entry.isStar)).map SelectItem.displayName).Nodup ->
      Plan.levels options.bucketSize statement.groups = .ok levels ->
      Plan.measures statement.calls = .ok measures ->
      statement.order = before ++ item :: after ->
      (forall earlier, earlier ∈ before -> CanBePlaced statement levels earlier) ->
      (forall call, call ∈ statement.calls -> ¬ Names call item.target) ->
      (forall term, term ∈ statement.groups -> ¬ NamesTerm statement term item.target) ->
      ofStatement options statement
        = .error (.unresolvedOrderTarget item.target.lookupName) := by
  have haggregation : statement.isAggregation = true := by
    simp [Statement.isAggregation, hgroups]
  constructor
  · intro plan hplan
    rcases exists_outline hplan haggregation with ⟨outline, rfl⟩
    exact ⟨outline.leaves, outline.levels, rfl, outline.isPlaced hgroups⟩
  · intro levels measures before item after hdistinct hlevels hmeasures horder hbefore hcalls hterms
    have hchecked := checkNames_of_nodup hdistinct
    have hfailed : placeOrder statement measures levels statement.order
        = .error (.unresolvedOrderTarget item.target.lookupName) := by
      rw [horder]
      exact placeOrder_unresolved (nodup_displayNames hchecked) hlevels hmeasures rfl hbefore hcalls
        hterms
    rw [ofStatement, hchecked, ok_bind, if_pos haggregation, aggregationPlan, hlevels, ok_bind,
      hmeasures, ok_bind, hfailed, error_bind]

def rankedTowns : Statement :=
  let count : AggregateCall :=
    { function := "COUNT"
      argument := some .star
      distinct := false
      parameters := []
      positional := []
      label := some "n" }
  { source := { index := "people", docType := none }
    select := [.field "city" (some "town"), .aggregate count]
    filter := none
    groups :=
      [ .call
          { function := "RANGE"
            field := some "age"
            parameters := []
            boundaries := [.number "18", .number "40", .number "65"] }
      , .plain "city"
      , .plain "tag" ]
    having := none
    order :=
      [ { target := .name "town", direction := .desc }
      , { target := .aggregate { count with function := "count", label := none }
          direction := .desc }
      , { target := .name "tag", direction := .asc } ]
    limit := some 3 }

def agedTowns : Statement :=
  { rankedTowns with
    groups := [.plain "city"]
    order :=
      [ { target := .name "town", direction := .desc }
      , { target := .name "age", direction := .asc } ] }

theorem isPlaced_ofStatement_rankedTowns :
    (exists plan leaves levels, ofStatement {} rankedTowns = .ok plan
      ∧ plan.request.body.aggs = some (nest leaves levels)
      ∧ IsPlaced {} rankedTowns levels)
    ∧ ofStatement {} agedTowns = .error (.unresolvedOrderTarget "age") := by
  constructor
  · have hok : (ofStatement {} rankedTowns).isOk = true := by decide +kernel
    cases hplan : ofStatement {} rankedTowns with
    | error e =>
        rw [hplan] at hok
        cases hok
    | ok plan =>
        rcases (isPlaced_ofStatement (by decide)).left plan hplan with ⟨leaves, levels, haggs, h⟩
        exact ⟨plan, leaves, levels, rfl, haggs, h⟩
  · have hok : (Plan.measures agedTowns.calls).isOk = true := by decide +kernel
    cases hmeasures : Plan.measures agedTowns.calls with
    | error e =>
        rw [hmeasures] at hok
        cases hok
    | ok measures =>
        refine (isPlaced_ofStatement (by decide)).right _ measures
          [{ target := .name "town", direction := .desc }]
          { target := .name "age", direction := .asc } [] (by decide) rfl hmeasures rfl ?_ ?_ ?_
        · intro earlier hearlier
          cases List.mem_singleton.mp hearlier
          refine ⟨0, "_key", _, .key ?_ rfl ⟨"town", rfl, rfl⟩, rfl, rfl⟩
          exact referencedCall?_eq_none_iff.mp (by decide)
        · exact referencedCall?_eq_none_iff.mp (by decide)
        · rintro term hterm ⟨text, hname, hplain⟩
          cases hname
          cases List.mem_singleton.mp hterm
          exact absurd hplain (by decide)

end Plan
end Rollup
