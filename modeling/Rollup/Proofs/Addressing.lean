import Mathlib.Data.List.Basic
import Rollup.Proofs.Text.Split
import Rollup.Store.Basic

/-!
# Indices of a pattern

A pattern names the indices that its parts match. A part without `*` has to name an index
which no part before it has named, so that a pattern is refused also where the indices of
such a part are known already.
-/

namespace Rollup
namespace Store

def isNamedBy (parts : List String) (name : String) : Bool :=
  parts.any (fun part => Text.matchesWildcard part name)

/-- The part matches no index but those that the passed parts match. -/
def AddsNothing (indices passed : List String) (part : String) : Prop :=
  forall name, name ∈ indices -> Text.matchesWildcard part name = true ->
    isNamedBy passed name = true

/-- Behind the passed parts, one of the parts has no `*` and adds nothing to those before it. -/
def HasIdlePart (indices passed parts : List String) : Prop :=
  exists before part after, parts = before ++ part :: after ∧ '*' ∉ part.toList
    ∧ AddsNothing indices (passed ++ before) part

/-- One of the parts has no `*` and matches indices, but none that the parts before it leave. -/
def HasShadowedPart (indices parts : List String) : Prop :=
  exists before part after, parts = before ++ part :: after ∧ '*' ∉ part.toList
    ∧ (exists name, name ∈ indices ∧ Text.matchesWildcard part name = true)
    ∧ AddsNothing indices before part

theorem isNamedBy_iff {parts : List String} {name : String} :
    isNamedBy parts name = true
      <-> exists part, part ∈ parts ∧ Text.matchesWildcard part name = true := by
  rw [isNamedBy, List.any_eq_true]

theorem isNamedBy_append (parts more : List String) (name : String) :
    isNamedBy (parts ++ more) name = (isNamedBy parts name || isNamedBy more name) :=
  List.any_append

theorem isNamedBy_singleton (part name : String) :
    isNamedBy [part] name = Text.matchesWildcard part name := by
  rw [isNamedBy, List.any_cons, List.any_nil, Bool.or_false]

/-!
# One part after the other
-/

theorem filter_grown (indices passed : List String) (part : String) :
    indices.filter (fun name =>
        (indices.filter (isNamedBy passed)).contains name || Text.matchesWildcard part name)
      = indices.filter (isNamedBy (passed ++ [part])) := by
  apply List.filter_congr
  intro name hname
  have hpassed : (indices.filter (isNamedBy passed)).contains name = isNamedBy passed name := by
    rw [Bool.eq_iff_iff, List.contains_iff_mem, List.mem_filter]
    exact and_iff_right hname
  rw [hpassed, isNamedBy_append, isNamedBy_singleton]

theorem length_grown_iff (indices passed : List String) (part : String) :
    (indices.filter (isNamedBy (passed ++ [part]))).length
        = (indices.filter (isNamedBy passed)).length
      <-> AddsNothing indices passed part := by
  have hsub : (indices.filter (isNamedBy passed)).Sublist
      (indices.filter (isNamedBy (passed ++ [part]))) := by
    apply List.monotone_filter_right
    intro name hname
    rw [isNamedBy_append, hname]
    rfl
  constructor
  · intro hlength name hname hmatches
    have hgrown : name ∈ indices.filter (isNamedBy (passed ++ [part])) := by
      rw [List.mem_filter, isNamedBy_append, isNamedBy_singleton, hmatches, Bool.or_true]
      exact ⟨hname, rfl⟩
    rw [<- hsub.eq_of_length hlength.symm] at hgrown
    exact (List.mem_filter.mp hgrown).right
  · intro hnothing
    apply congrArg List.length
    apply List.filter_congr
    intro name hname
    rw [isNamedBy_append, isNamedBy_singleton]
    cases hmatches : Text.matchesWildcard part name with
    | false => rw [Bool.or_false]
    | true => rw [hnothing name hname hmatches, Bool.or_true]

theorem hasIdlePart_cons_iff {indices passed rest : List String} {part : String} :
    HasIdlePart indices passed (part :: rest)
      <-> ('*' ∉ part.toList ∧ AddsNothing indices passed part)
        ∨ HasIdlePart indices (passed ++ [part]) rest := by
  constructor
  · intro ⟨before, idle, after, hparts, hplain, hnothing⟩
    cases before with
    | nil =>
        injection hparts with hpart _
        rw [hpart]
        rw [List.append_nil] at hnothing
        exact Or.inl ⟨hplain, hnothing⟩
    | cons first before =>
        injection hparts with hpart hrest
        rw [<- hpart, List.append_cons] at hnothing
        exact Or.inr ⟨before, idle, after, hrest, hplain, hnothing⟩
  · intro h
    cases h with
    | inl here =>
        refine ⟨[], part, rest, rfl, here.left, ?_⟩
        rw [List.append_nil]
        exact here.right
    | inr behind =>
        rcases behind with ⟨before, idle, after, hrest, hplain, hnothing⟩
        refine ⟨part :: before, idle, after, by rw [hrest]; rfl, hplain, ?_⟩
        rw [List.append_cons]
        exact hnothing

theorem resolveParts_cases (indices passed parts : List String) :
    (¬ HasIdlePart indices passed parts
        ∧ resolveParts indices (indices.filter (isNamedBy passed)) parts
          = .ok (indices.filter (isNamedBy (passed ++ parts))))
      ∨ (HasIdlePart indices passed parts
        ∧ exists shown, resolveParts indices (indices.filter (isNamedBy passed)) parts
          = .error (.indexNotFound shown)) := by
  induction parts generalizing passed with
  | nil =>
      apply Or.inl
      constructor
      · intro ⟨before, part, after, hparts, _⟩
        exact absurd hparts.symm (List.append_ne_nil_of_right_ne_nil before (List.cons_ne_nil _ _))
      · rw [List.append_nil]
        rfl
  | cons part rest ih =>
      rw [hasIdlePart_cons_iff, resolveParts, filter_grown]
      split
      · rename_i hidle
        rw [Bool.and_eq_true, decide_eq_true_iff, length_grown_iff, Bool.not_eq_true',
          <- Bool.not_eq_true, List.contains_iff_mem] at hidle
        exact Or.inr ⟨Or.inl hidle.symm, part, rfl⟩
      · rename_i hadds
        rw [Bool.and_eq_true, decide_eq_true_iff, length_grown_iff, Bool.not_eq_true',
          <- Bool.not_eq_true, List.contains_iff_mem] at hadds
        have hrest := ih (passed ++ [part])
        rw [<- List.append_cons] at hrest
        have hbehind : ('*' ∉ part.toList ∧ AddsNothing indices passed part
            ∨ HasIdlePart indices (passed ++ [part]) rest)
              <-> HasIdlePart indices (passed ++ [part]) rest :=
          or_iff_right (fun here => hadds here.symm)
        rw [hbehind]
        exact hrest

/-!
# Patterns
-/

theorem hasIdlePart_iff {indices parts : List String} :
    HasIdlePart indices [] parts
      <-> (exists part, part ∈ parts ∧ '*' ∉ part.toList
          ∧ forall name, name ∈ indices -> Text.matchesWildcard part name = false)
        ∨ HasShadowedPart indices parts := by
  constructor
  · intro ⟨before, part, after, hparts, hplain, hnothing⟩
    by_cases hsome : exists name, name ∈ indices ∧ Text.matchesWildcard part name = true
    · exact Or.inr ⟨before, part, after, hparts, hplain, hsome, hnothing⟩
    · apply Or.inl
      have hpart : part ∈ parts := by
        rw [hparts]
        exact List.mem_append_right before List.mem_cons_self
      refine ⟨part, hpart, hplain, ?_⟩
      intro name hname
      apply Bool.eq_false_iff.mpr
      intro hmatches
      exact hsome ⟨name, hname, hmatches⟩
  · intro h
    cases h with
    | inl missing =>
        rcases missing with ⟨part, hpart, hplain, hnone⟩
        rcases List.append_of_mem hpart with ⟨before, after, hparts⟩
        refine ⟨before, part, after, hparts, hplain, ?_⟩
        intro name hname hmatches
        rw [hnone name hname] at hmatches
        cases hmatches
    | inr shadowed =>
        rcases shadowed with ⟨before, part, after, hparts, hplain, _, hnothing⟩
        exact ⟨before, part, after, hparts, hplain, hnothing⟩

theorem resolveIndices_cases (store : Store) (pattern : String) :
    (¬ HasIdlePart store.indices [] (patternParts pattern)
        ∧ store.indices.filter (isNamedBy (patternParts pattern)) ≠ []
        ∧ store.resolveIndices pattern
          = .ok (store.indices.filter (isNamedBy (patternParts pattern))))
      ∨ ((HasIdlePart store.indices [] (patternParts pattern)
          ∨ store.indices.filter (isNamedBy (patternParts pattern)) = [])
        ∧ exists shown, store.resolveIndices pattern = .error (.indexNotFound shown)) := by
  have hnone : store.indices.filter (isNamedBy []) = [] := by
    rw [List.filter_eq_nil_iff]
    intro name _ hnamed
    cases hnamed
  have hcases := resolveParts_cases store.indices [] (patternParts pattern)
  rw [hnone, List.nil_append] at hcases
  unfold resolveIndices
  cases hcases with
  | inl resolved =>
      rcases resolved with ⟨hadds, hresolved⟩
      rw [hresolved]
      by_cases hempty : store.indices.filter (isNamedBy (patternParts pattern)) = []
      · rw [hempty]
        exact Or.inr ⟨Or.inr rfl, pattern, rfl⟩
      · apply Or.inl
        refine ⟨hadds, hempty, ?_⟩
        split
        · rename_i heq
          exact absurd (Except.ok.inj heq) hempty
        · rfl
  | inr refused =>
      rcases refused with ⟨hidle, shown, hrefused⟩
      rw [hrefused]
      exact Or.inr ⟨Or.inl hidle, shown, rfl⟩

theorem eq_filter_of_resolveIndices {store : Store} {pattern : String} {found : List String}
    (h : store.resolveIndices pattern = .ok found) :
    found = store.indices.filter (isNamedBy (patternParts pattern)) := by
  rcases resolveIndices_cases store pattern with ⟨_, _, hresolved⟩ | ⟨_, shown, hrefused⟩
  · rw [hresolved] at h
    exact (Except.ok.inj h).symm
  · rw [hrefused] at h
    cases h

theorem filter_isNamedBy_congr {parts others : List String}
    (h : forall part, part ∈ others <-> part ∈ parts) (indices : List String) :
    indices.filter (isNamedBy others) = indices.filter (isNamedBy parts) := by
  apply List.filter_congr
  intro name _
  rw [Bool.eq_iff_iff, isNamedBy_iff, isNamedBy_iff]
  constructor
  · intro ⟨part, hpart, hmatches⟩
    exact ⟨part, (h part).mp hpart, hmatches⟩
  · intro ⟨part, hpart, hmatches⟩
    exact ⟨part, (h part).mpr hpart, hmatches⟩

theorem filter_isNamedBy_eq_nil_iff {indices parts : List String} :
    indices.filter (isNamedBy parts) = []
      <-> forall name, name ∈ indices -> isNamedBy parts name = false := by
  rw [List.filter_eq_nil_iff]
  simp only [Bool.not_eq_true]

theorem resolveIndices_error_iff (store : Store) (pattern : String) :
    (exists shown, store.resolveIndices pattern = .error (.indexNotFound shown))
      <-> HasIdlePart store.indices [] (patternParts pattern)
        ∨ store.indices.filter (isNamedBy (patternParts pattern)) = [] := by
  rcases resolveIndices_cases store pattern with ⟨hadds, hsome, hresolved⟩ | ⟨hreason, hrefused⟩
  · constructor
    · intro ⟨shown, hrefused⟩
      rw [hresolved] at hrefused
      cases hrefused
    · intro hreason
      cases hreason with
      | inl hidle => exact absurd hidle hadds
      | inr hnone => exact absurd hnone hsome
  · exact iff_of_true hrefused hreason

/-- A pattern names the indices that one of its parts matches, whatever the order of the parts.
It is refused where a part without `*` matches no index, where no part matches any, and
besides where a part is shadowed. Nothing else can go wrong. -/
theorem resolveIndices_names (store : Store) (pattern : String) :
    (forall found, store.resolveIndices pattern = .ok found ->
        (forall name, name ∈ found <-> name ∈ store.indices
          ∧ exists part, part ∈ patternParts pattern ∧ Text.matchesWildcard part name = true)
        ∧ forall other same,
            (forall part, part ∈ patternParts other <-> part ∈ patternParts pattern) ->
              store.resolveIndices other = .ok same -> same = found)
      ∧ ((exists shown, store.resolveIndices pattern = .error (.indexNotFound shown))
        <-> (exists part, part ∈ patternParts pattern ∧ '*' ∉ part.toList
              ∧ forall name, name ∈ store.indices -> Text.matchesWildcard part name = false)
          ∨ (forall name, name ∈ store.indices -> isNamedBy (patternParts pattern) name = false)
          ∨ HasShadowedPart store.indices (patternParts pattern))
      ∧ forall e, store.resolveIndices pattern = .error e ->
          exists shown, e = .indexNotFound shown := by
  refine ⟨?_, ?_, ?_⟩
  · intro found hfound
    have hnamed := eq_filter_of_resolveIndices hfound
    constructor
    · intro name
      rw [hnamed, List.mem_filter, isNamedBy_iff]
    · intro other same hparts hsame
      rw [eq_filter_of_resolveIndices hsame, hnamed]
      exact filter_isNamedBy_congr hparts store.indices
  · rw [resolveIndices_error_iff, hasIdlePart_iff, filter_isNamedBy_eq_nil_iff, or_assoc,
      or_comm (a := HasShadowedPart _ _)]
  · intro e he
    rcases resolveIndices_cases store pattern with ⟨_, _, hresolved⟩ | ⟨_, shown, hrefused⟩
    · rw [hresolved] at he
      cases he
    · rw [hrefused] at he
      exact ⟨shown, (Except.error.inj he).symm⟩

/-- An index that is named twice is not found, and one that a part with `*` names is found only
before this part. -/
theorem resolveIndices_namedTwice :
    Text.matchesWildcard "people" "people" = true
      ∧ ({ indices := ["people"] } : Store).resolveIndices "people,people"
        = .error (.indexNotFound "people")
      ∧ ({ indices := ["people"] } : Store).resolveIndices "people,p*" = .ok ["people"]
      ∧ ({ indices := ["people"] } : Store).resolveIndices "p*,people"
        = .error (.indexNotFound "people") := by
  have hsplit : forall pattern : String,
      pattern.splitOn "," = (pattern.toList.splitOn ',').map String.ofList :=
    fun pattern => Text.splitOn_eq_map_ofList pattern ','
  unfold resolveIndices patternParts
  rw [hsplit, hsplit, hsplit]
  decide +kernel

end Store
end Rollup
