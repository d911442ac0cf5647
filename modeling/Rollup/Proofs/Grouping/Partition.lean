import Mathlib.Data.List.Nodup
import Rollup.Store.Bucket

/-!
# Groups of documents

A group is named by a key text for each of the fields that documents are grouped by. It
holds the documents that have these keys among the key texts of their values, so that a
document with several values is in several groups.
-/

namespace Rollup
namespace Store

def Document.hasKeys (doc : Document) : List String -> List String -> Bool
  | [], [] => true
  | field :: fields, key :: keys =>
      ((doc.values field).map keyText).contains key && doc.hasKeys fields keys
  | _, _ => false

def groupDocs (docs : List Document) (fields keys : List String) : List Document :=
  docs.filter (fun doc => doc.hasKeys fields keys)

def docsWith (docs : List Document) (field key : String) : List Document :=
  docs.filter (fun doc => ((doc.values field).map keyText).contains key)

theorem groupDocs_nil (docs : List Document) : groupDocs docs [] [] = docs := by
  exact List.filter_eq_self.mpr (fun _ _ => rfl)

theorem groupDocs_cons (docs : List Document) (field key : String) (fields keys : List String) :
    groupDocs docs (field :: fields) (key :: keys)
      = groupDocs (docsWith docs field key) fields keys := by
  unfold groupDocs docsWith
  rw [List.filter_filter]
  refine List.filter_congr (fun doc _ => ?_)
  rw [Document.hasKeys, Bool.and_comm]

/-!
# Values of one field
-/

theorem keys_distinctValues (seen : List String) (values : List Json) :
    (distinctValues seen values).map Prod.fst
      = ((values.map keyText).filter (fun key => !seen.contains key)).eraseDups := by
  induction values generalizing seen with
  | nil => rfl
  | cons value rest ih =>
      rw [distinctValues, List.map_cons]
      by_cases hseen : seen.contains (keyText value)
      · rw [if_pos hseen, ih, List.filter_cons_of_neg (by simpa using hseen)]
      · rw [if_neg hseen, List.map_cons, ih, List.filter_cons_of_pos (by simpa using hseen),
          List.eraseDups_cons, List.filter_filter]
        congr 2
        refine List.filter_congr (fun key _ => ?_)
        rw [List.contains_cons, Bool.not_or]

theorem keys_distinctValues_nil (values : List Json) :
    (distinctValues [] values).map Prod.fst = (values.map keyText).eraseDups := by
  rw [keys_distinctValues]
  congr 1
  exact List.filter_eq_self.mpr (fun _ _ => rfl)

theorem nodup_keys_distinctValues (seen : List String) (values : List Json) :
    ((distinctValues seen values).map Prod.fst).Nodup
      ∧ forall key, key ∈ (distinctValues seen values).map Prod.fst -> key ∉ seen := by
  induction values generalizing seen with
  | nil => exact ⟨List.nodup_nil, fun key hkey => (nomatch hkey)⟩
  | cons value rest ih =>
      rw [distinctValues]
      by_cases hseen : seen.contains (keyText value)
      · rw [if_pos hseen]
        exact ih seen
      · have hnew : keyText value ∉ seen := fun h => hseen (List.contains_iff_mem.mpr h)
        rcases ih (keyText value :: seen) with ⟨hnodup, hfresh⟩
        rw [if_neg hseen, List.map_cons]
        constructor
        · exact List.nodup_cons.mpr ⟨fun h => hfresh _ h List.mem_cons_self, hnodup⟩
        · intro key hkey
          rcases List.mem_cons.mp hkey with rfl | hkey
          · exact hnew
          · exact fun h => hfresh key hkey (List.mem_cons_of_mem _ h)

theorem mem_distinctValues {seen : List String} {values : List Json} {key : String} {value : Json}
    (h : (key, value) ∈ distinctValues seen values) : keyText value = key ∧ value ∈ values := by
  induction values generalizing seen with
  | nil => cases h
  | cons first rest ih =>
      rw [distinctValues] at h
      split at h
      · exact (ih h).imp_right (List.mem_cons_of_mem first)
      · rcases List.mem_cons.mp h with heq | h
        · cases heq
          exact ⟨rfl, List.mem_cons_self⟩
        · exact (ih h).imp_right (List.mem_cons_of_mem first)

theorem length_distinctValues (docs : List Document) (field : String) :
    (distinctValues [] (allValues docs field)).length = distinctCount docs field := by
  rw [distinctCount, <- keys_distinctValues_nil, List.length_map]

theorem mem_keys_allValues {docs : List Document} {field key : String} :
    key ∈ (allValues docs field).map keyText
      <-> exists doc, doc ∈ docs ∧ ((doc.values field).map keyText).contains key = true := by
  simp only [allValues, List.map_flatMap, List.mem_flatMap, List.contains_iff_mem]

theorem termBuckets_eq (spec : Request.Terms) (docs : List Document) :
    termBuckets spec docs
      = (distinctValues [] (allValues docs spec.field)).map (fun entry =>
          termBucket entry.2 (docsWith docs spec.field entry.1)) := by
  unfold termBuckets docsWith
  dsimp only
  refine List.map_congr_left (fun entry _ => ?_)
  rw [List.filter_map, List.map_map]
  exact congrArg (termBucket entry.2) (List.map_id _)

/-!
# Tuples of values
-/

def valueTuples : List String -> List Document -> List (List Json)
  | [], _ => [[]]
  | field :: fields, docs =>
      (distinctValues [] (allValues docs field)).flatMap (fun entry =>
        (valueTuples fields (docsWith docs field entry.1)).map (fun tuple => entry.2 :: tuple))

def tupleKeys (tuple : List Json) : List String :=
  tuple.map keyText

end Store
end Rollup
