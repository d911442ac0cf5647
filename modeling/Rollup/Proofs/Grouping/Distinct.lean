import Mathlib.Data.Finset.Card
import Mathlib.Order.Fin.Basic
import Rollup.Proofs.Grouping.Tabulation

/-!
# Distinct values and their buckets

The buckets of a field can be gathered one document after another: each distinct value
of a document opens a bucket or adds the document to the one it opened before. Counting
the distinct values of all documents at once gives the number of these buckets.

Documents are told apart by their position, as two of them can be equal.
-/

namespace Rollup
namespace Store

open Calendar (Instant)
open Request (Terms)

def Document.keyTexts (doc : Document) (field : String) : List String :=
  (doc.values field).map keyText

/-!
# Gathering
-/

/-- A bucket that is being gathered: its key, the value that opened it and its documents. -/
structure Gathered where
  key : String
  value : Json
  docs : List Document

namespace Gathered

def opened (doc : Document) (entry : String × Json) : Gathered :=
  { key := entry.1, value := entry.2, docs := [doc] }

def take (doc : Document) (keys : List String) (group : Gathered) : Gathered :=
  if group.key ∈ keys then { group with docs := group.docs ++ [doc] } else group

def bucket (group : Gathered) : Bucket :=
  termBucket group.value group.docs

variable {doc : Document} {keys : List String} {group : Gathered}

@[simp] theorem key_take : (group.take doc keys).key = group.key := by
  unfold take
  split <;> rfl

theorem take_of_notMem (h : group.key ∉ keys) : group.take doc keys = group :=
  if_neg h

theorem take_cons_of_ne {key : String} (h : group.key ≠ key) :
    group.take doc (key :: keys) = group.take doc keys := by
  simp only [take, List.mem_cons, h, false_or]

theorem take_take {key : String} (h : key ∉ keys) :
    (group.take doc [key]).take doc keys = group.take doc (key :: keys) := by
  by_cases hkey : group.key = key
  · have hgone : (group.take doc [key]).key ∉ keys := by
      rw [key_take, hkey]
      exact h
    rw [take_of_notMem hgone]
    simp only [take, hkey, List.mem_cons, true_or, if_true]
  · rw [take_cons_of_ne hkey, take_cons_of_ne hkey, take_of_notMem List.not_mem_nil]

theorem map_take_of_notMem {groups : List Gathered}
    (h : forall group, group ∈ groups -> group.key ∉ keys) :
    groups.map (take doc keys) = groups := by
  refine (List.map_congr_left (fun group hgroup => ?_)).trans groups.map_id
  exact take_of_notMem (h group hgroup)

end Gathered

def addValue (doc : Document) : List Gathered -> String × Json -> List Gathered
  | [], entry => [Gathered.opened doc entry]
  | group :: groups, entry =>
      if group.key = entry.1 then
        group.take doc [entry.1] :: groups
      else
        group :: addValue doc groups entry

def addDocument (field : String) (groups : List Gathered) (doc : Document) : List Gathered :=
  (distinctValues [] (doc.values field)).foldl (addValue doc) groups

def gather (field : String) (docs : List Document) : List Gathered :=
  docs.foldl (addDocument field) []

section

variable {doc : Document} {groups : List Gathered} {entry : String × Json}

theorem addValue_of_mem (hnodup : (groups.map Gathered.key).Nodup)
    (h : entry.1 ∈ groups.map Gathered.key) :
    addValue doc groups entry = groups.map (Gathered.take doc [entry.1]) := by
  induction groups with
  | nil => cases h
  | cons group groups ih =>
      rw [List.map_cons, List.nodup_cons] at hnodup
      rw [addValue, List.map_cons]
      by_cases hkey : group.key = entry.1
      · have hothers : groups.map (Gathered.take doc [entry.1]) = groups := by
          refine Gathered.map_take_of_notMem (fun other hother hsame => hnodup.left ?_)
          rw [hkey, <- List.mem_singleton.mp hsame]
          exact List.mem_map_of_mem hother
        rw [if_pos hkey, hothers]
      · have hlater : entry.1 ∈ groups.map Gathered.key :=
          (List.mem_cons.mp h).resolve_left (fun heq => hkey heq.symm)
        rw [if_neg hkey, ih hnodup.right hlater, Gathered.take_of_notMem (by simpa using hkey)]

theorem addValue_of_notMem (h : entry.1 ∉ groups.map Gathered.key) :
    addValue doc groups entry = groups ++ [Gathered.opened doc entry] := by
  induction groups with
  | nil => rfl
  | cons group groups ih =>
      rw [List.map_cons, List.mem_cons, not_or] at h
      rw [addValue, if_neg (fun heq => h.left heq.symm), ih h.right, List.cons_append]

end

theorem foldl_addValue {doc : Document} {groups : List Gathered} {entries : List (String × Json)}
    (hgroups : (groups.map Gathered.key).Nodup) (hentries : (entries.map Prod.fst).Nodup) :
    entries.foldl (addValue doc) groups
      = groups.map (Gathered.take doc (entries.map Prod.fst))
        ++ (entries.filter (fun entry => entry.1 ∉ groups.map Gathered.key)).map
            (Gathered.opened doc) := by
  induction entries generalizing groups with
  | nil =>
      rw [List.map_nil, Gathered.map_take_of_notMem (fun _ _ => List.not_mem_nil)]
      exact (List.append_nil groups).symm
  | cons entry entries ih =>
      rw [List.map_cons, List.nodup_cons] at hentries
      rw [List.foldl_cons, List.map_cons]
      by_cases hmem : entry.1 ∈ groups.map Gathered.key
      · have hkeys : (groups.map (Gathered.take doc [entry.1])).map Gathered.key
            = groups.map Gathered.key := by
          simp only [List.map_map, Function.comp_def, Gathered.key_take]
        rw [addValue_of_mem hgroups hmem, ih (hkeys ▸ hgroups) hentries.right, hkeys, List.map_map,
          List.filter_cons_of_neg (by simpa using hmem)]
        congr 1
        exact List.map_congr_left (fun group _ => Gathered.take_take hentries.left)
      · have hkeys : (groups ++ [Gathered.opened doc entry]).map Gathered.key
            = groups.map Gathered.key ++ [entry.1] :=
          List.map_append
        have hnodup : (groups.map Gathered.key ++ [entry.1]).Nodup :=
          List.concat_eq_append ▸ hgroups.concat hmem
        have hnew : (Gathered.opened doc entry).take doc (entries.map Prod.fst)
            = Gathered.opened doc entry :=
          Gathered.take_of_notMem hentries.left
        rw [addValue_of_notMem hmem, ih (hkeys ▸ hnodup) hentries.right, hkeys, List.map_append,
          List.map_singleton, hnew, List.append_assoc, List.singleton_append,
          List.filter_cons_of_pos (by simpa using hmem), List.map_cons]
        congr 1
        · refine List.map_congr_left (fun group hgroup => (Gathered.take_cons_of_ne ?_).symm)
          exact fun heq => hmem (heq ▸ List.mem_map_of_mem hgroup)
        · congr 2
          refine List.filter_congr (fun other hother => ?_)
          have hne : other.1 ≠ entry.1 :=
            fun heq => hentries.left (heq ▸ List.mem_map_of_mem hother)
          simp only [List.mem_append, List.mem_singleton, hne, or_false]

/-!
# Values of one document after another
-/

section

variable {seen : List String} {value : Json}

theorem distinctValues_of_mem (h : keyText value ∈ seen) (rest : List Json) :
    distinctValues seen (value :: rest) = distinctValues seen rest :=
  if_pos (List.contains_iff_mem.mpr h)

theorem distinctValues_of_notMem (h : keyText value ∉ seen) (rest : List Json) :
    distinctValues seen (value :: rest)
      = (keyText value, value) :: distinctValues (keyText value :: seen) rest :=
  if_neg (fun hmem => h (List.contains_iff_mem.mp hmem))

theorem distinctValues_congr {known : List String} (h : forall key, key ∈ seen <-> key ∈ known)
    (values : List Json) : distinctValues seen values = distinctValues known values := by
  induction values generalizing seen known with
  | nil => rfl
  | cons value rest ih =>
      by_cases hseen : keyText value ∈ seen
      · rw [distinctValues_of_mem hseen, distinctValues_of_mem ((h _).mp hseen), ih h]
      · have hmore : forall key, key ∈ keyText value :: seen <-> key ∈ keyText value :: known := by
          intro key
          rw [List.mem_cons, List.mem_cons, h]
        rw [distinctValues_of_notMem hseen,
          distinctValues_of_notMem (fun hknown => hseen ((h _).mpr hknown)), ih hmore]

theorem distinctValues_seen_cons {key : String} (h : key ∈ seen) (values : List Json) :
    distinctValues (key :: seen) values = distinctValues seen values := by
  refine distinctValues_congr (fun other => ?_) values
  rw [List.mem_cons]
  exact or_iff_right_of_imp (fun heq => heq ▸ h)

theorem distinctValues_seen_middle (known : List String) (key : String) (values : List Json) :
    distinctValues (known ++ key :: seen) values = distinctValues (key :: (known ++ seen)) values :=
  distinctValues_congr (fun _ => List.perm_middle.mem_iff) values

end

/-- Values with a key among `known` can be left out before or after. -/
theorem filter_distinctValues (known seen : List String) (values : List Json) :
    (distinctValues seen values).filter (fun entry => entry.1 ∉ known)
      = distinctValues (known ++ seen) values := by
  induction values generalizing seen with
  | nil => rfl
  | cons value rest ih =>
      by_cases hseen : keyText value ∈ seen
      · rw [distinctValues_of_mem hseen,
          distinctValues_of_mem (List.mem_append_right known hseen), ih]
      rw [distinctValues_of_notMem hseen]
      by_cases hknown : keyText value ∈ known
      · have hmem : keyText value ∈ known ++ seen := List.mem_append_left seen hknown
        rw [distinctValues_of_mem hmem, List.filter_cons_of_neg (by simpa using hknown), ih,
          distinctValues_seen_middle, distinctValues_seen_cons hmem]
      · have hnew : keyText value ∉ known ++ seen := by
          rw [List.mem_append]
          exact not_or.mpr ⟨hknown, hseen⟩
        rw [distinctValues_of_notMem hnew, List.filter_cons_of_pos (by simpa using hknown), ih,
          distinctValues_seen_middle]

theorem distinctValues_append (seen : List String) (values more : List Json) :
    distinctValues seen (values ++ more)
      = distinctValues seen values ++ distinctValues (values.map keyText ++ seen) more := by
  induction values generalizing seen with
  | nil => rfl
  | cons value rest ih =>
      rw [List.cons_append, List.map_cons, List.cons_append]
      by_cases hseen : keyText value ∈ seen
      · rw [distinctValues_of_mem hseen, distinctValues_of_mem hseen, ih,
          distinctValues_seen_cons (List.mem_append_right _ hseen)]
      · rw [distinctValues_of_notMem hseen, distinctValues_of_notMem hseen, ih, List.cons_append,
          distinctValues_seen_middle]

theorem mem_keys_distinctValues {key : String} {values : List Json} :
    key ∈ (distinctValues [] values).map Prod.fst <-> key ∈ values.map keyText := by
  rw [keys_distinctValues_nil, List.mem_eraseDups]

/-!
# Documents of a key
-/

section

variable {docs : List Document} {field key : String}

theorem mem_docsWith {doc : Document} :
    doc ∈ docsWith docs field key <-> doc ∈ docs ∧ key ∈ doc.keyTexts field := by
  rw [docsWith, List.mem_filter, List.contains_iff_mem]
  rfl

theorem docsWith_append (more : List Document) :
    docsWith (docs ++ more) field key = docsWith docs field key ++ docsWith more field key :=
  List.filter_append ..

theorem docsWith_concat_of_mem {doc : Document} (h : key ∈ doc.keyTexts field) :
    docsWith (docs ++ [doc]) field key = docsWith docs field key ++ [doc] := by
  rw [docsWith_append]
  exact congrArg _ (List.filter_cons_of_pos (List.contains_iff_mem.mpr h))

theorem docsWith_concat_of_notMem {doc : Document} (h : key ∉ doc.keyTexts field) :
    docsWith (docs ++ [doc]) field key = docsWith docs field key := by
  have hlast : docsWith [doc] field key = [] :=
    List.filter_cons_of_neg (fun hmem => h (List.contains_iff_mem.mp hmem))
  rw [docsWith_append, hlast, List.append_nil]

theorem docsWith_eq_nil (h : key ∉ (allValues docs field).map keyText) :
    docsWith docs field key = [] := by
  refine List.eq_nil_iff_forall_not_mem.mpr (fun doc hdoc => h ?_)
  rcases mem_docsWith.mp hdoc with ⟨hmem, hkey⟩
  exact mem_keys_allValues.mpr ⟨doc, hmem, List.contains_iff_mem.mpr hkey⟩

end

def Gathered.complete (docs : List Document) (field : String) (entry : String × Json) : Gathered :=
  { key := entry.1, value := entry.2, docs := docsWith docs field entry.1 }

theorem take_complete (docs : List Document) (field : String) (doc : Document)
    (entry : String × Json) :
    (Gathered.complete docs field entry).take doc
        ((distinctValues [] (doc.values field)).map Prod.fst)
      = Gathered.complete (docs ++ [doc]) field entry := by
  by_cases h : entry.1 ∈ doc.keyTexts field
  · have hmem : (Gathered.complete docs field entry).key
        ∈ (distinctValues [] (doc.values field)).map Prod.fst := mem_keys_distinctValues.mpr h
    rw [Gathered.take, if_pos hmem]
    unfold Gathered.complete
    rw [docsWith_concat_of_mem h]
  · have hnot : (Gathered.complete docs field entry).key
        ∉ (distinctValues [] (doc.values field)).map Prod.fst :=
      fun hmem => h (mem_keys_distinctValues.mp hmem)
    rw [Gathered.take_of_notMem hnot]
    unfold Gathered.complete
    rw [docsWith_concat_of_notMem h]

theorem gather_eq (field : String) (docs : List Document) :
    gather field docs
      = (distinctValues [] (allValues docs field)).map (Gathered.complete docs field) := by
  induction docs using List.reverseRecOn with
  | nil => rfl
  | append_singleton docs doc ih =>
      have hstep : gather field (docs ++ [doc]) = addDocument field (gather field docs) doc :=
        List.foldl_concat ..
      have hvalues :
          allValues (docs ++ [doc]) field = allValues docs field ++ doc.values field := by
        simp only [allValues, List.flatMap_append, List.flatMap_singleton]
      have hkeys : ((distinctValues [] (allValues docs field)).map
          (Gathered.complete docs field)).map Gathered.key
            = (distinctValues [] (allValues docs field)).map Prod.fst :=
        List.map_map
      have hnodup := (nodup_keys_distinctValues [] (allValues docs field)).left
      rw [hstep, ih, addDocument,
        foldl_addValue (hkeys ▸ hnodup) (nodup_keys_distinctValues [] _).left, hkeys, hvalues,
        distinctValues_append, List.map_append, List.map_map]
      congr 1
      · exact List.map_congr_left (fun entry _ => take_complete docs field doc entry)
      · have hseen : forall key, key ∈ (distinctValues [] (allValues docs field)).map Prod.fst ++ []
            <-> key ∈ (allValues docs field).map keyText ++ [] := by
          intro key
          rw [List.append_nil, List.append_nil, mem_keys_distinctValues]
        rw [filter_distinctValues, distinctValues_congr hseen]
        refine List.map_congr_left (fun entry hentry => ?_)
        -- A value that opens a bucket is in no document before.
        have hfresh := (nodup_keys_distinctValues _ _).right _ (List.mem_map_of_mem hentry)
        rw [List.append_nil] at hfresh
        have hmem : entry.1 ∈ doc.keyTexts field := by
          rcases mem_distinctValues hentry with ⟨hkey, hvalue⟩
          rw [<- hkey]
          exact List.mem_map_of_mem hvalue
        unfold Gathered.opened Gathered.complete
        rw [docsWith_concat_of_mem hmem, docsWith_eq_nil hfresh, List.nil_append]

theorem termBuckets_eq_gather (spec : Terms) (docs : List Document) :
    termBuckets spec docs = (gather spec.field docs).map Gathered.bucket := by
  rw [termBuckets_eq, gather_eq, List.map_map]
  rfl

/-!
# Places of documents
-/

def placesOf (docs : List Document) (field key : String) : List (Fin docs.length) :=
  (List.finRange docs.length).filter (fun place => key ∈ (docs.get place).keyTexts field)

theorem mem_placesOf {docs : List Document} {field key : String} {place : Fin docs.length} :
    place ∈ placesOf docs field key <-> key ∈ (docs.get place).keyTexts field := by
  rw [placesOf, List.mem_filter, decide_eq_true_eq]
  exact and_iff_right (List.mem_finRange place)

theorem map_get_placesOf (docs : List Document) (field key : String) :
    (placesOf docs field key).map docs.get = docsWith docs field key := by
  have hfilter : docsWith docs field key = docs.filter (fun doc => key ∈ doc.keyTexts field) := by
    refine List.filter_congr (fun doc _ => ?_)
    rw [Bool.eq_iff_iff, decide_eq_true_eq, List.contains_iff_mem]
    rfl
  calc (placesOf docs field key).map docs.get
      = ((List.finRange docs.length).map docs.get).filter
          (fun doc => key ∈ doc.keyTexts field) := by
        rw [List.filter_map]
        rfl
    _ = docsWith docs field key := by rw [List.map_get_finRange, hfilter]

/-- The places list the documents that have a value: there is one, and they are listed once each
in stored order. -/
structure IsListing (docs : List Document) (field : String) (value : Json)
    (places : List (Fin docs.length)) : Prop where
  nonempty : places ≠ []
  ascending : places.Pairwise (fun a b => a < b)
  mem_iff : forall place, place ∈ places <-> keyText value ∈ (docs.get place).keyTexts field

theorem isListing_placesOf {docs : List Document} {field : String} {entry : String × Json}
    (h : entry ∈ distinctValues [] (allValues docs field)) :
    IsListing docs field entry.2 (placesOf docs field entry.1) := by
  rcases mem_distinctValues h with ⟨hkey, hvalue⟩
  refine ⟨?_, ?_, ?_⟩
  · rcases List.mem_flatMap.mp hvalue with ⟨doc, hdoc, hmem⟩
    rcases List.mem_iff_get.mp hdoc with ⟨place, rfl⟩
    have hplace : keyText entry.2 ∈ (docs.get place).keyTexts field := List.mem_map_of_mem hmem
    exact List.ne_nil_of_mem (mem_placesOf.mpr (hkey ▸ hplace))
  · exact (List.pairwise_lt_finRange docs.length).filter _
  · intro place
    rw [hkey]
    exact mem_placesOf

theorem countP_distinctValues (docs : List Document) (field : String) (place : Fin docs.length) :
    (distinctValues [] (allValues docs field)).countP
        (fun entry => entry.1 ∈ (docs.get place).keyTexts field)
      = ((docs.get place).keyTexts field).toFinset.card := by
  have hnodup := (nodup_keys_distinctValues [] (allValues docs field)).left
  have hkeys : (((distinctValues [] (allValues docs field)).map Prod.fst).filter
      (fun key => key ∈ (docs.get place).keyTexts field)).toFinset
        = ((docs.get place).keyTexts field).toFinset := by
    ext key
    rw [List.mem_toFinset, List.mem_toFinset, List.mem_filter, decide_eq_true_eq,
      mem_keys_distinctValues]
    refine and_iff_right_of_imp (fun hkey => mem_keys_allValues.mpr ?_)
    exact ⟨docs.get place, List.get_mem docs place, List.contains_iff_mem.mpr hkey⟩
  rw [<- hkeys, List.toFinset_card_of_nodup (hnodup.filter _), <- List.countP_eq_length_filter,
    List.countP_map]
  rfl

/-- The distinct count of a field is the number of its buckets, which are gathered document by
document. Each bucket lists the documents with its value, and a document is listed in as many
buckets as it has distinct keys. -/
theorem formBuckets_listsDistinct (now : Instant) (spec : Terms) (docs : List Document) :
    exists groups : List (Json × List (Fin docs.length)),
      formBuckets now (.terms spec) docs = .ok ((gather spec.field docs).map Gathered.bucket)
      ∧ (gather spec.field docs).map Gathered.bucket
          = groups.map (fun group => termBucket group.1 (group.2.map docs.get))
      ∧ evaluateMetric (.cardinality spec.field) docs = .ok (.count groups.length)
      ∧ (forall group, group ∈ groups -> IsListing docs spec.field group.1 group.2)
      ∧ forall place, groups.countP (fun group => place ∈ group.2)
          = ((docs.get place).keyTexts spec.field).toFinset.card := by
  refine ⟨(distinctValues [] (allValues docs spec.field)).map (fun entry =>
    (entry.2, placesOf docs spec.field entry.1)), ?_, ?_, ?_, ?_, ?_⟩
  · rw [<- termBuckets_eq_gather]
    rfl
  · rw [<- termBuckets_eq_gather, termBuckets_eq, List.map_map]
    refine List.map_congr_left (fun entry _ => ?_)
    rw [Function.comp_apply, map_get_placesOf]
  · rw [List.length_map, length_distinctValues]
    rfl
  · intro group hgroup
    rcases List.mem_map.mp hgroup with ⟨entry, hentry, rfl⟩
    exact isListing_placesOf hentry
  · intro place
    rw [List.countP_map, <- countP_distinctValues]
    refine List.countP_congr (fun entry _ => ?_)
    rw [Function.comp_apply, decide_eq_true_eq, decide_eq_true_eq]
    exact mem_placesOf

end Store
end Rollup
