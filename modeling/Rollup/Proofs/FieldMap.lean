import Mathlib.Data.List.Forall2
import Mathlib.Data.String.Basic
import Rollup.Json.Basic

/-!
# Maps as sorted association lists

Looking a key up in a map finds the entry that was put there last. Entries with
different keys are all kept.
-/

namespace Rollup

variable {alpha beta : Type}

theorem lookup_cons_ite (entry : String × alpha) (rest : List (String × alpha))
    (other : String) :
    (entry :: rest).lookup other = if other = entry.1 then some entry.2 else rest.lookup other := by
  obtain ⟨key, value⟩ := entry
  rw [List.lookup_cons]
  by_cases h : other = key
  · simp [h]
  · rw [if_neg h, beq_eq_false_iff_ne.mpr h]

theorem lookup_insertField (key other : String) (value : alpha)
    (fields : List (String × alpha)) :
    (insertField key value fields).lookup other
      = if other = key then some value else fields.lookup other := by
  induction fields with
  | nil => rw [insertField, lookup_cons_ite]
  | cons entry rest ih =>
      obtain ⟨k, v⟩ := entry
      rw [insertField]
      by_cases hlt : key < k
      · rw [if_pos hlt, lookup_cons_ite]
      · rw [if_neg hlt]
        by_cases heq : key = k
        · rw [if_pos heq, lookup_cons_ite, lookup_cons_ite, heq]
          split <;> rfl
        · rw [if_neg heq, lookup_cons_ite, lookup_cons_ite, ih]
          by_cases hother : other = k
          · have hne : other ≠ key := fun hkey => heq (hkey ▸ hother)
            rw [if_pos hother, if_neg hne, if_pos hother]
          · rw [if_neg hother, if_neg hother]

theorem lookup_foldl_insertField (other : String) (entries fields : List (String × alpha)) :
    (entries.foldl (fun fields entry => insertField entry.1 entry.2 fields) fields).lookup other
      = (entries.reverse.lookup other).or (fields.lookup other) := by
  induction entries generalizing fields with
  | nil => simp
  | cons entry rest ih =>
      rw [List.foldl_cons, ih, lookup_insertField, List.reverse_cons, List.lookup_append]
      cases rest.reverse.lookup other with
      | some value => rfl
      | none =>
          rw [lookup_cons_ite, List.lookup_nil]
          by_cases h : other = entry.1
          · rw [if_pos h, if_pos h]
            rfl
          · rw [if_neg h, if_neg h]
            rfl

theorem lookup_fieldMap_reverse (other : String) (entries : List (String × alpha)) :
    (fieldMap entries).lookup other = entries.reverse.lookup other := by
  rw [fieldMap, lookup_foldl_insertField, List.lookup_nil, Option.or_none]

theorem exists_lookup_fieldMap {entries : List (String × alpha)} {name : String} {value : alpha}
    (h : (name, value) ∈ entries) : exists found, (fieldMap entries).lookup name = some found := by
  rw [lookup_fieldMap_reverse]
  cases hlookup : entries.reverse.lookup name with
  | some found => exact ⟨found, rfl⟩
  | none =>
      have hkey := List.lookup_eq_none_iff.mp hlookup (name, value) (List.mem_reverse.mpr h)
      exact absurd rfl (bne_iff_ne.mp hkey)

theorem lookup_perm {xs ys : List (String × alpha)} (hperm : xs.Perm ys)
    (hkeys : (xs.map Prod.fst).Nodup) (other : String) : xs.lookup other = ys.lookup other := by
  induction hperm with
  | nil => rfl
  | cons entry _ ih =>
      rw [List.map_cons, List.nodup_cons] at hkeys
      rw [lookup_cons_ite, lookup_cons_ite, ih hkeys.right]
  | swap first second rest =>
      have hne : first.1 ≠ second.1 := by
        simp only [List.map_cons, List.nodup_cons, List.mem_cons, not_or] at hkeys
        exact fun h => hkeys.left.left h.symm
      rw [lookup_cons_ite, lookup_cons_ite, lookup_cons_ite, lookup_cons_ite]
      by_cases h : other = first.1
      · have hsecond : ¬other = second.1 := fun hsecond => hne (h ▸ hsecond)
        simp only [if_pos h, if_neg hsecond]
      · simp only [if_neg h]
  | trans hfirst _ ihFirst ihSecond =>
      rw [ihFirst hkeys]
      exact ihSecond ((hfirst.map Prod.fst).nodup_iff.mp hkeys)

theorem lookup_fieldMap {entries : List (String × alpha)}
    (hkeys : (entries.map Prod.fst).Nodup) (other : String) :
    (fieldMap entries).lookup other = entries.lookup other := by
  rw [lookup_fieldMap_reverse]
  refine lookup_perm entries.reverse_perm ?_ other
  exact (entries.reverse_perm.map Prod.fst).nodup_iff.mpr hkeys

theorem lookup_map_snd (f : alpha -> beta) (entries : List (String × alpha)) (key : String) :
    (entries.map (fun entry => (entry.1, f entry.2))).lookup key = (entries.lookup key).map f := by
  induction entries with
  | nil => rfl
  | cons entry rest ih =>
      rw [List.map_cons, lookup_cons_ite, lookup_cons_ite, ih]
      split <;> rfl

theorem lookup_eq_some_of_mem {fields : List (String × alpha)}
    (hkeys : (fields.map Prod.fst).Nodup) {key : String} {value : alpha}
    (h : (key, value) ∈ fields) : fields.lookup key = some value := by
  induction fields with
  | nil => cases h
  | cons entry rest ih =>
      rw [List.map_cons, List.nodup_cons] at hkeys
      rw [lookup_cons_ite]
      rcases List.mem_cons.mp h with rfl | hrest
      · exact if_pos rfl
      · have hne : key ≠ entry.1 := by
          rintro rfl
          exact hkeys.left (List.mem_map.mpr ⟨_, hrest, rfl⟩)
        rw [if_neg hne, ih hkeys.right hrest]

theorem lookup_eq_none_of_not_mem {fields : List (String × alpha)} {key : String}
    (h : key ∉ fields.map Prod.fst) : fields.lookup key = none := by
  induction fields with
  | nil => rfl
  | cons entry rest ih =>
      rw [List.map_cons, List.mem_cons, not_or] at h
      rw [lookup_cons_ite, if_neg h.left, ih h.right]

theorem keys_eq_of_forall₂ {rel : String × alpha -> String × beta -> Prop}
    {xs : List (String × alpha)} {ys : List (String × beta)} (h : List.Forall₂ rel xs ys)
    (hkey : forall x y, rel x y -> y.1 = x.1) : ys.map Prod.fst = xs.map Prod.fst := by
  symm
  rw [<- List.forall₂_eq_eq_eq, List.forall₂_map_left_iff, List.forall₂_map_right_iff]
  exact h.imp (fun x y hrel => (hkey x y hrel).symm)

theorem field?_ofFields {entries : List (String × Json)} (h : (entries.map Prod.fst).Nodup)
    (key : String) : (Json.ofFields entries).field? key = entries.lookup key :=
  lookup_fieldMap h key

/-!
# Entries of a map
-/

theorem insertField_perm {key : String} (value : alpha) {fields : List (String × alpha)}
    (h : key ∉ fields.map Prod.fst) :
    (insertField key value fields).Perm ((key, value) :: fields) := by
  induction fields with
  | nil => exact List.Perm.refl _
  | cons entry rest ih =>
      obtain ⟨k, v⟩ := entry
      rw [List.map_cons, List.mem_cons, not_or] at h
      rw [insertField]
      split
      · exact List.Perm.refl _
      · rw [if_neg h.left]
        exact ((ih h.right).cons (k, v)).trans (List.Perm.swap _ _ _)

theorem foldl_insertField_perm {entries fields : List (String × alpha)}
    (h : ((entries ++ fields).map Prod.fst).Nodup) :
    (entries.foldl (fun fields entry => insertField entry.1 entry.2 fields) fields).Perm
      (entries ++ fields) := by
  induction entries generalizing fields with
  | nil => exact List.Perm.refl _
  | cons entry rest ih =>
      rw [List.cons_append, List.map_cons, List.nodup_cons, List.map_append, List.mem_append,
        not_or] at h
      have hinsert := insertField_perm entry.2 h.left.right
      have hmoved : (rest ++ insertField entry.1 entry.2 fields).Perm (entry :: (rest ++ fields)) :=
        (hinsert.append_left rest).trans List.perm_middle
      refine (ih ?_).trans hmoved
      refine (hmoved.map Prod.fst).nodup_iff.mpr ?_
      rw [List.map_cons, List.nodup_cons, List.map_append, List.mem_append, not_or]
      exact h

theorem fieldMap_perm {entries : List (String × alpha)}
    (h : (entries.map Prod.fst).Nodup) : (fieldMap entries).Perm entries := by
  have hkeys : ((entries ++ []).map Prod.fst).Nodup := by simpa using h
  simpa [fieldMap] using foldl_insertField_perm hkeys

/-!
# Order of the keys
-/

theorem insertField_map_snd (f : alpha -> beta) (key : String) (value : alpha)
    (fields : List (String × alpha)) :
    insertField key (f value) (fields.map (fun entry => (entry.1, f entry.2)))
      = (insertField key value fields).map (fun entry => (entry.1, f entry.2)) := by
  induction fields with
  | nil => rfl
  | cons entry rest ih =>
      obtain ⟨k, v⟩ := entry
      rw [List.map_cons, insertField, insertField]
      split
      · rfl
      split
      · rfl
      · rw [List.map_cons, ih]

theorem fieldMap_map_snd (f : alpha -> beta) (entries : List (String × alpha)) :
    fieldMap (entries.map (fun entry => (entry.1, f entry.2)))
      = (fieldMap entries).map (fun entry => (entry.1, f entry.2)) := by
  have hfold : forall fields : List (String × alpha),
      (entries.map (fun entry => (entry.1, f entry.2))).foldl
          (fun fields entry => insertField entry.1 entry.2 fields)
          (fields.map (fun entry => (entry.1, f entry.2)))
        = (entries.foldl (fun fields entry => insertField entry.1 entry.2 fields) fields).map
            (fun entry => (entry.1, f entry.2)) := by
    induction entries with
    | nil => exact fun _ => rfl
    | cons entry rest ih =>
        intro fields
        rw [List.map_cons, List.foldl_cons, List.foldl_cons]
        show List.foldl _ (insertField entry.1 (f entry.2) _) _ = _
        rw [insertField_map_snd]
        exact ih _
  exact hfold []

/-- Each key stands before all that follow. -/
def Ascending (fields : List (String × alpha)) : Prop :=
  fields.Pairwise (fun a b => a.1 < b.1)

theorem Ascending.nodup_keys {fields : List (String × alpha)} (h : Ascending fields) :
    (fields.map Prod.fst).Nodup :=
  List.pairwise_map.mpr (h.imp String.ne_of_lt)

theorem mem_insertField {key : String} {value : alpha} {fields : List (String × alpha)}
    {entry : String × alpha} (h : entry ∈ insertField key value fields) :
    entry = (key, value) ∨ entry ∈ fields := by
  induction fields with
  | nil => exact Or.inl (List.mem_singleton.mp h)
  | cons first rest ih =>
      obtain ⟨k, v⟩ := first
      rw [insertField] at h
      split at h
      · exact List.mem_cons.mp h
      split at h
      · exact (List.mem_cons.mp h).imp_right (List.mem_cons_of_mem _)
      · rcases List.mem_cons.mp h with rfl | h
        · exact Or.inr List.mem_cons_self
        · exact (ih h).imp_right (List.mem_cons_of_mem _)

theorem mem_fieldMap {entries : List (String × alpha)} {entry : String × alpha}
    (h : entry ∈ fieldMap entries) : entry ∈ entries := by
  have hfold : forall fields : List (String × alpha),
      entry ∈ entries.foldl (fun fields entry => insertField entry.1 entry.2 fields) fields ->
        entry ∈ entries ∨ entry ∈ fields := by
    clear h
    induction entries with
    | nil => exact fun _ h => Or.inr h
    | cons first rest ih =>
        intro fields h
        rcases ih _ h with hrest | hinserted
        · exact Or.inl (List.mem_cons_of_mem first hrest)
        · rcases mem_insertField hinserted with rfl | hfields
          · exact Or.inl List.mem_cons_self
          · exact Or.inr hfields
  exact (hfold [] h).resolve_right (fun hnil => nomatch hnil)

theorem Ascending.insert {fields : List (String × alpha)} (h : Ascending fields)
    (key : String) (value : alpha) : Ascending (insertField key value fields) := by
  induction fields with
  | nil => exact List.pairwise_singleton _ _
  | cons first rest ih =>
      obtain ⟨k, v⟩ := first
      rcases List.pairwise_cons.mp h with ⟨hfirst, hrest⟩
      rw [insertField]
      split
      · rename_i hlt
        refine List.pairwise_cons.mpr ⟨?_, h⟩
        intro entry hentry
        rcases List.mem_cons.mp hentry with rfl | hentry
        · exact hlt
        · exact String.lt_trans hlt (hfirst entry hentry)
      split
      · rename_i heq
        exact List.pairwise_cons.mpr ⟨heq ▸ hfirst, hrest⟩
      · rename_i hnot hne
        refine List.pairwise_cons.mpr ⟨?_, ih hrest⟩
        intro entry hentry
        rcases mem_insertField hentry with rfl | hentry
        · exact (lt_trichotomy k key).resolve_right
            (fun hother => hother.elim (fun heq => hne heq.symm) hnot)
        · exact hfirst entry hentry

theorem ascending_fieldMap (entries : List (String × alpha)) : Ascending (fieldMap entries) := by
  have hfold : forall fields : List (String × alpha), Ascending fields ->
      Ascending
        (entries.foldl (fun fields entry => insertField entry.1 entry.2 fields) fields) := by
    induction entries with
    | nil => exact fun _ h => h
    | cons entry rest ih => exact fun fields h => ih _ (h.insert entry.1 entry.2)
  exact hfold [] List.Pairwise.nil

theorem insertField_append {key : String} (value : alpha) {fields : List (String × alpha)}
    (h : forall entry, entry ∈ fields -> entry.1 < key) :
    insertField key value fields = fields ++ [(key, value)] := by
  induction fields with
  | nil => rfl
  | cons first rest ih =>
      obtain ⟨k, v⟩ := first
      have hlt : k < key := h _ List.mem_cons_self
      rw [insertField, if_neg (String.lt_asymm hlt), if_neg (String.ne_of_lt hlt).symm,
        ih (fun entry hentry => h entry (List.mem_cons_of_mem _ hentry)), List.cons_append]

theorem Ascending.fieldMap_eq {fields : List (String × alpha)} (h : Ascending fields) :
    fieldMap fields = fields := by
  have hfold : forall before after : List (String × alpha), Ascending (before ++ after) ->
      after.foldl (fun fields entry => insertField entry.1 entry.2 fields) before
        = before ++ after := by
    intro before after
    induction after generalizing before with
    | nil => exact fun _ => (List.append_nil before).symm
    | cons entry rest ih =>
        intro hpairs
        have hbefore : forall other, other ∈ before -> other.1 < entry.1 :=
          fun other hother => (List.pairwise_append.mp hpairs).right.right other hother entry
            List.mem_cons_self
        rw [List.foldl_cons, insertField_append entry.2 hbefore]
        rw [ih (before ++ [entry]) (by simpa using hpairs)]
        simp
  exact hfold [] fields h

end Rollup
