import Rollup.Json.Decode
import Rollup.Proofs.FieldMap

/-!
# Reading written values back

A writer and a reader of JSON values belong together if the reader gives back what the
writer was given. Lists, maps and the fields of records inherit this from what they hold.
-/

namespace Rollup
namespace Json

variable {alpha beta : Type}

/-- The reader gives back the written value. It is not written as `null`, which would stand
for nothing at all. -/
structure ReadsBack (write : alpha -> Json) (read? : Json -> Option alpha) (value : alpha) :
    Prop where
  read : read? (write value) = some value
  isNull : (write value).isNull = false

theorem bind_of_some {found? : Option alpha} {next : alpha -> Option beta} {found : alpha}
    {result : beta} (hfound : found? = some found) (hnext : next found = some result) :
    (found? >>= next) = some result := by
  rw [hfound]
  exact hnext

/-!
# Leaves
-/

theorem readsBack_str (text : String) : ReadsBack .str toString? text :=
  ⟨rfl, rfl⟩

theorem natBelow?_ofNat {limit n : Nat} (h : n < limit) : natBelow? limit (ofNat n) = some n := by
  rw [natBelow?, ofNat, toNat?, if_pos (Int.natCast_nonneg n), Int.toNat_natCast]
  exact if_pos h

theorem readsBack_natBelow {limit n : Nat} (h : n < limit) :
    ReadsBack ofNat (natBelow? limit) n :=
  ⟨natBelow?_ofNat h, rfl⟩

theorem readsBack_float {x : Float} (h : x.isFinite = true) : ReadsBack ofFloat toFloat? x := by
  have hwritten : ofFloat x = .float x := if_pos h
  constructor
  · rw [hwritten]
    rfl
  · rw [hwritten]
    rfl

/-!
# Lists and maps
-/

theorem mapM_map_eq_some {read? : beta -> Option alpha} {write : alpha -> beta}
    {values : List alpha} (h : forall value, value ∈ values -> read? (write value) = some value) :
    (values.map write).mapM read? = some values := by
  induction values with
  | nil => rfl
  | cons value rest ih =>
      rw [List.map_cons, List.mapM_cons]
      apply bind_of_some (h value List.mem_cons_self)
      exact bind_of_some (ih (fun other hother => h other (List.mem_cons_of_mem value hother))) rfl

theorem readsBack_list {write : alpha -> Json} {read? : Json -> Option alpha} {values : List alpha}
    (h : forall value, value ∈ values -> ReadsBack write read? value) :
    ReadsBack (fun values => .arr (values.map write)) (list? read?) values :=
  ⟨mapM_map_eq_some (fun value hvalue => (h value hvalue).read), rfl⟩

theorem map?_ofFields {write : alpha -> Json} {read? : Json -> Option alpha}
    {entries : List (String × alpha)} (hkeys : Ascending entries)
    (h : forall entry, entry ∈ entries -> read? (write entry.2) = some entry.2) :
    map? read? (ofFields (entries.map (fun entry => (entry.1, write entry.2)))) = some entries := by
  rw [ofFields, fieldMap_map_snd, hkeys.fieldMap_eq]
  apply mapM_map_eq_some
  intro entry hentry
  show (read? (write entry.2)).map (fun value => (entry.1, value)) = some entry
  rw [h entry hentry]
  rfl

theorem readsBack_map {write : alpha -> Json} {read? : Json -> Option alpha}
    {entries : List (String × alpha)} (hkeys : Ascending entries)
    (h : forall entry, entry ∈ entries -> ReadsBack write read? entry.2) :
    ReadsBack (fun entries => ofFields (entries.map (fun entry => (entry.1, write entry.2))))
      (map? read?) entries :=
  ⟨map?_ofFields hkeys (fun entry hentry => (h entry hentry).read), rfl⟩

/-!
# Records

A record is written as an object of those fields that are present, under names that differ.
-/

def present (entries : List (String × Option Json)) : List (String × Json) :=
  entries.filterMap (fun entry => entry.2.map (fun value => (entry.1, value)))

theorem keys_present_sublist (entries : List (String × Option Json)) :
    ((present entries).map Prod.fst).Sublist (entries.map Prod.fst) := by
  induction entries with
  | nil => exact .slnil
  | cons entry rest ih =>
      rcases entry with ⟨name, _ | value⟩
      · exact ih.cons name
      · exact ih.cons_cons name

theorem lookup_present {entries : List (String × Option Json)}
    (hnames : (entries.map Prod.fst).Nodup) {name : String} {value? : Option Json}
    (h : entries.lookup name = some value?) :
    (present entries).lookup name = value? := by
  induction entries with
  | nil => cases h
  | cons entry rest ih =>
      rw [List.map_cons, List.nodup_cons] at hnames
      rw [lookup_cons_ite] at h
      rcases entry with ⟨other, _ | value⟩
      · show (present rest).lookup name = value?
        split at h
        · rename_i heq
          cases h
          apply lookup_eq_none_of_not_mem
          intro hmem
          rw [heq] at hmem
          exact hnames.left ((keys_present_sublist rest).subset hmem)
        · exact ih hnames.right h
      · show ((other, value) :: present rest).lookup name = value?
        rw [lookup_cons_ite]
        split at h
        · rename_i heq
          cases h
          exact if_pos heq
        · rename_i hne
          rw [if_neg hne]
          exact ih hnames.right h

def presentFields (entries : List (String × Option Json)) : List (String × Json) :=
  fieldMap (present entries)

theorem record?_ofPresent (short : Bool) (names : List String)
    (entries : List (String × Option Json)) :
    record? short names (ofPresent entries) = some (presentFields entries) :=
  rfl

theorem lookup_presentFields {entries : List (String × Option Json)}
    (hnames : (entries.map Prod.fst).Nodup) {name : String} {value? : Option Json}
    (h : entries.lookup name = some value?) : (presentFields entries).lookup name = value? := by
  rw [presentFields, lookup_fieldMap ((keys_present_sublist entries).nodup hnames)]
  exact lookup_present hnames h

section

variable {entries : List (String × Option Json)} {name : String}

theorem required?_presentFields {read? : Json -> Option alpha} {json : Json} {value : alpha}
    (hnames : (entries.map Prod.fst).Nodup) (h : entries.lookup name = some (some json))
    (hread : read? json = some value) :
    required? read? name (presentFields entries) = some value := by
  rw [required?, lookup_presentFields hnames h]
  exact hread

theorem nullable?_of_not_null {read? : Json -> Option alpha} {json : Json}
    (h : json.isNull = false) : nullable? read? json = (read? json).map some := by
  cases json with
  | null => cases h
  | _ => rfl

theorem optional?_presentFields {write : alpha -> Json} {read? : Json -> Option alpha}
    {value? : Option alpha} (hnames : (entries.map Prod.fst).Nodup)
    (h : entries.lookup name = some (value?.map write))
    (hread : forall value, value? = some value -> ReadsBack write read? value) :
    optional? read? name (presentFields entries) = some value? := by
  rw [optional?, lookup_presentFields hnames h]
  cases value? with
  | none => rfl
  | some value =>
      have hvalue := hread value rfl
      show nullable? read? (write value) = some (some value)
      rw [nullable?_of_not_null hvalue.isNull, hvalue.read]
      rfl

theorem lookup_presentFields_eq_none (h : name ∉ entries.map Prod.fst) :
    (presentFields entries).lookup name = none := by
  rw [presentFields, lookup_fieldMap_reverse]
  apply lookup_eq_none_of_not_mem
  intro hmem
  rw [List.map_reverse, List.mem_reverse] at hmem
  exact h ((keys_present_sublist entries).subset hmem)

end

/-!
# Nesting

What is inside a value nests less deep than the value.
-/

theorem depth_lt_of_mem {item : Json} {items : List Json} (h : item ∈ items) :
    item.depth < (Json.arr items).depth := by
  rw [depth]
  apply Nat.lt_succ_of_le
  induction items with
  | nil => cases h
  | cons first rest ih =>
      rw [depth.depthItems]
      rcases List.mem_cons.mp h with rfl | h
      · exact Nat.le_max_left _ _
      · exact Nat.le_trans (ih h) (Nat.le_max_right _ _)

theorem depth_lt_of_lookup {key : String} {value : Json} {fields : List (String × Json)}
    (h : fields.lookup key = some value) : value.depth < (Json.obj fields).depth := by
  rw [depth]
  apply Nat.lt_succ_of_le
  induction fields with
  | nil => cases h
  | cons first rest ih =>
      rcases first with ⟨other, content⟩
      rw [depth.depthFields]
      rw [lookup_cons_ite] at h
      split at h
      · cases h
        exact Nat.le_max_left _ _
      · exact Nat.le_trans (ih h) (Nat.le_max_right _ _)

end Json
end Rollup
