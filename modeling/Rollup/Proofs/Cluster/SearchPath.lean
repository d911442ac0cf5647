import Mathlib.Data.List.Basic
import Mathlib.Order.Basic
import Rollup.Cluster.Search
import Rollup.Proofs.Text.Percent
import Rollup.Proofs.Text.Split

/-!
# Search paths

The path of a search is that of the cluster, with a segment behind it for the index, for the
type if there is one, and for `_search`. A name becomes a segment that decodes to it unless
the name is one of those that a path resolves or holds a character that a URL ignores. Where
all names become segments, the path tells requests with different targets apart.
-/

namespace Rollup
namespace Cluster

open Request (Search)

namespace Url

/-!
# Segments of a path
-/

/-- The path as what segments are put behind. The root has one empty segment, which does not
count. -/
def grounded (path : List String) : List String :=
  if path = [""] then [] else path

theorem appendSegment_eq (path : List String) (segment : String) :
    appendSegment path segment = grounded path ++ [segment] := by
  unfold appendSegment grounded
  by_cases hnil : path = []
  · rw [hnil]
    rfl
  · by_cases hroot : path = [""]
    · rw [hroot]
      rfl
    · simp [hnil, hroot]

theorem grounded_append {path : List String} {segment : String}
    (h : segment ≠ "" ∨ path ≠ []) : grounded (path ++ [segment]) = path ++ [segment] := by
  refine if_neg (fun heq => ?_)
  have happend : path ++ [segment] = [] ++ [""] := heq
  rcases List.append_inj' happend rfl with ⟨hpath, hsegment⟩
  rcases h with h | h
  · exact h (List.singleton_inj.mp hsegment)
  · exact h hpath

theorem length_grounded_le (path : List String) : (grounded path).length <= path.length := by
  unfold grounded
  split
  · exact Nat.zero_le _
  · exact Nat.le_refl _

theorem length_grounded_dropLast_le (path : List String) :
    (grounded (path.dropLast ++ [""])).length <= (grounded path).length := by
  by_cases hroot : path = [] ∨ path = [""]
  · rcases hroot with rfl | rfl <;> exact Nat.le_refl _
  · rw [not_or] at hroot
    have hsame : grounded path = path := if_neg hroot.right
    have hpositive := List.length_pos_of_ne_nil hroot.left
    have hbound := length_grounded_le (path.dropLast ++ [""])
    rw [List.length_append, List.length_dropLast, List.length_singleton] at hbound
    rw [hsame]
    omega

/-- A name that a path keeps, and as it is. -/
structure IsSegment (name : String) : Prop where
  here : name ≠ "."
  above : name ≠ ".."
  kept : forall c, c ∈ name.toList -> isIgnored c = false

instance (name : String) : Decidable (IsSegment name) :=
  decidable_of_iff
    (name ≠ "." ∧ name ≠ ".." ∧ name.toList.all (fun c => !isIgnored c) = true)
    (by
      simp only [List.all_eq_true, Bool.not_eq_true']
      exact ⟨fun h => ⟨h.1, h.2.1, h.2.2⟩, fun h => ⟨h.here, h.above, h.kept⟩⟩)

def segment (scheme name : String) : String :=
  encodeText (segmentChars scheme) name.toList

theorem percentDecode_encodeText (scheme : String) (cs : List Char) :
    Text.percentDecode (encodeText (segmentChars scheme) cs).toList = Text.utf8 cs := by
  rw [encodeText, String.toList_ofList]
  exact Text.percentDecode_percentEncode (by simp [segmentChars]) cs

theorem slash_not_mem_segment (scheme name : String) : '/' ∉ (segment scheme name).toList := by
  rw [segment, encodeText, String.toList_ofList]
  exact Text.slash_not_mem_percentEncode (by simp [segmentChars]) name.toList

theorem segment_injective {scheme name other : String}
    (h : segment scheme name = segment scheme other) : name = other := by
  have hbytes := congrArg (fun text : String => Text.percentDecode text.toList) h
  dsimp only [segment] at hbytes
  rw [percentDecode_encodeText, percentDecode_encodeText] at hbytes
  exact String.toList_injective (Text.utf8_injective hbytes)

theorem segment_ne_empty {scheme name : String} (h : name ≠ "") : segment scheme name ≠ "" := by
  have hempty : segment scheme "" = "" := rfl
  exact fun heq => h (segment_injective (heq.trans hempty.symm))

/-!
# Names put behind a path
-/

theorem push_of_isSegment {name : String} (h : IsSegment name) (scheme : String)
    (path : List String) : push scheme path name = grounded path ++ [segment scheme name] := by
  have hall : name.toList.filter (fun c => !isIgnored c) = name.toList := by
    rw [List.filter_eq_self]
    intro c hc
    rw [h.kept c hc]
    rfl
  have hhere : name.toList ≠ ['.'] := fun heq => h.here (String.toList_injective heq)
  have habove : name.toList ≠ ['.', '.'] := fun heq => h.above (String.toList_injective heq)
  unfold push
  simp only [h.here, h.above, hall, hhere, habove, decide_false, Bool.or_false, Bool.false_eq_true,
    if_false]
  exact appendSegment_eq path (segment scheme name)

/-- A name is put behind a path as one more segment, which decodes to the name only if the name
is a segment. Otherwise the path does not become longer. -/
theorem push_cases (scheme : String) (path : List String) (name : String) :
    (exists last, push scheme path name = grounded path ++ [last]
        ∧ (Text.percentDecode last.toList = Text.utf8 name.toList -> IsSegment name))
      ∨ (grounded (push scheme path name)).length <= (grounded path).length := by
  by_cases hpoint : name = "." ∨ name = ".."
  · right
    have hpush : push scheme path name = path := by
      simp [push, hpoint]
    rw [hpush]
  · rw [not_or] at hpoint
    have hpush : push scheme path name
        = if name.toList.filter (fun c => !isIgnored c) = ['.', '.'] then path.dropLast ++ [""]
          else if name.toList.filter (fun c => !isIgnored c) = ['.'] then appendSegment path ""
          else appendSegment path
            (encodeText (segmentChars scheme) (name.toList.filter (fun c => !isIgnored c))) := by
      simp [push, hpoint.left, hpoint.right]
    rw [hpush]
    split
    · exact Or.inr (length_grounded_dropLast_le path)
    · left
      split
      · rename_i hdot
        refine ⟨"", appendSegment_eq path "", fun hdecoded => ?_⟩
        have hnil : name.toList = [] := Text.utf8_injective hdecoded.symm
        rw [hnil] at hdot
        cases hdot
      · refine ⟨_, appendSegment_eq path _, fun hdecoded => ⟨hpoint.left, hpoint.right, ?_⟩⟩
        rw [percentDecode_encodeText] at hdecoded
        have hall := List.filter_eq_self.mp (Text.utf8_injective hdecoded)
        intro c hc
        simpa using hall c hc

theorem foldl_push {names : List String} (hnames : forall name, name ∈ names -> IsSegment name)
    (scheme : String) {path : List String} (hground : grounded path ≠ [] ∨ names.head? ≠ some "") :
    grounded (names.foldl (push scheme) path) = grounded path ++ names.map (segment scheme) := by
  induction names generalizing path with
  | nil => exact (List.append_nil _).symm
  | cons name rest ih =>
      have hpush := push_of_isSegment (hnames name List.mem_cons_self) scheme path
      have hfirst : segment scheme name ≠ "" ∨ grounded path ≠ [] := by
        refine hground.symm.imp (fun hhead => segment_ne_empty fun heq => ?_) id
        exact hhead (congrArg some heq)
      have hgrounded :
          grounded (push scheme path name) = grounded path ++ [segment scheme name] := by
        rw [hpush, grounded_append hfirst]
      rw [List.foldl_cons, ih (fun other hother => hnames other (List.mem_cons_of_mem _ hother)),
        hgrounded, List.append_assoc]
      · rfl
      · rw [hgrounded]
        exact Or.inl (List.append_ne_nil_of_right_ne_nil _ (List.cons_ne_nil _ _))

theorem length_grounded_push_le (scheme : String) (path : List String) (name : String) :
    (grounded (push scheme path name)).length <= (grounded path).length + 1 := by
  rcases push_cases scheme path name with ⟨last, hpush, _⟩ | hshort
  · rw [hpush]
    exact (length_grounded_le _).trans (by simp)
  · omega

theorem length_grounded_foldl_le (scheme : String) (names path : List String) :
    (grounded (names.foldl (push scheme) path)).length
      <= (grounded path).length + names.length := by
  induction names generalizing path with
  | nil => exact Nat.le_refl _
  | cons name rest ih =>
      have hfirst := length_grounded_push_le scheme path name
      have hrest := ih (push scheme path name)
      rw [List.foldl_cons, List.length_cons]
      omega

def Decodes (segments names : List String) : Prop :=
  segments.map (fun segment => Text.percentDecode segment.toList)
    = names.map (fun name => Text.utf8 name.toList)

theorem decodes_segments (scheme : String) (names : List String) :
    Decodes (names.map (segment scheme)) names := by
  rw [Decodes, List.map_map]
  apply List.map_congr_left
  intro name _
  rw [Function.comp_apply, segment, percentDecode_encodeText]

theorem exists_segments_of_grows {scheme : String} {names path : List String}
    (h : (grounded path).length + names.length
      <= (grounded (names.foldl (push scheme) path)).length) :
    exists segments, grounded (names.foldl (push scheme) path) = grounded path ++ segments
      ∧ (Decodes segments names ->
          (forall name, name ∈ names -> IsSegment name)
            ∧ (grounded path ≠ [] ∨ names.head? ≠ some "")) := by
  induction names generalizing path with
  | nil =>
      refine ⟨[], (List.append_nil _).symm, fun _ => ⟨fun _ hname => ?_, Or.inr fun hhead => ?_⟩⟩
      · cases hname
      · cases hhead
  | cons name rest ih =>
      rw [List.foldl_cons, List.length_cons] at h
      have hbound := length_grounded_foldl_le scheme rest (push scheme path name)
      rcases push_cases scheme path name with ⟨last, hpush, hsegment⟩ | hshort
      · have hgrounded : grounded (push scheme path name) = push scheme path name := by
          refine if_neg (fun hroot => ?_)
          have hempty : (grounded (push scheme path name)).length = 0 := by
            rw [hroot]
            rfl
          omega
        have hlength : (grounded (push scheme path name)).length = (grounded path).length + 1 := by
          rw [hgrounded, hpush, List.length_append, List.length_singleton]
        rcases @ih (push scheme path name) (by omega) with ⟨segments, hsegments, hrest⟩
        refine ⟨last :: segments, ?_, fun hdecoded => ?_⟩
        · rw [List.foldl_cons, hsegments, hgrounded, hpush, List.append_assoc]
          rfl
        · rw [Decodes, List.map_cons, List.map_cons] at hdecoded
          rcases List.cons.inj hdecoded with ⟨hlast, hothers⟩
          have hname := hsegment hlast
          refine ⟨List.forall_mem_cons.mpr ⟨hname, (hrest hothers).left⟩, ?_⟩
          rw [or_iff_not_imp_left, not_not]
          intro hnil hhead
          cases Option.some.inj hhead
          have hroot := push_of_isSegment hname scheme path
          rw [hnil] at hroot
          rw [hroot] at hgrounded
          cases hgrounded
      -- A name that adds nothing cannot be made up for by those behind it.
      · omega

/-!
# Paths as texts
-/

def slashed (segments : List String) : List Char :=
  segments.flatMap (fun segment => '/' :: segment.toList)

theorem toList_pathText (url : Url) : url.pathText.toList = slashed url.path := by
  rw [pathText, String.toList_join, List.flatMap_map]
  apply List.flatMap_congr
  intro segment _
  exact String.toList_append

theorem head_slashed {segments : List String} {c : Char} (h : (slashed segments).head? = some c) :
    ¬ c ≠ '/' := by
  cases segments with
  | nil => cases h
  | cons segment segments =>
      cases h
      exact not_not_intro rfl

theorem slashed_injective {segments others : List String}
    (hsegments : forall segment, segment ∈ segments -> '/' ∉ segment.toList)
    (hothers : forall segment, segment ∈ others -> '/' ∉ segment.toList)
    (h : slashed segments = slashed others) : segments = others := by
  induction segments generalizing others with
  | nil =>
      cases others with
      | nil => rfl
      | cons other others => cases h
  | cons segment segments ih =>
      cases others with
      | nil => cases h
      | cons other others =>
          rw [List.forall_mem_cons] at hsegments hothers
          have hrest : segment.toList ++ slashed segments = other.toList ++ slashed others :=
            (List.cons.inj h).right
          rcases Text.append_inj_of_stops (fun c => c ≠ '/')
            (fun c hc heq => hsegments.left (heq ▸ hc)) (fun c hc heq => hothers.left (heq ▸ hc))
            (fun _ => head_slashed) (fun _ => head_slashed) hrest with ⟨hsegment, hmore⟩
          rw [String.toList_injective hsegment, ih hsegments.right hothers.right hmore]

end Url

/-!
# Requests and their paths
-/

def baseSegments (cluster : Cluster) : List String :=
  Url.grounded (Url.dropEmptyLast cluster.url.path)

/-- Every name of the request becomes a segment. An empty index does not at the root. -/
structure IsAddressable (cluster : Cluster) (request : Search) : Prop where
  names : forall name, name ∈ targetNames request -> Url.IsSegment name
  index : cluster.baseSegments ≠ [] ∨ request.index ≠ ""

/-- The path of the search is that of the cluster, with the segments of the index, of the type
if there is one, and of `_search` behind it. -/
def Addresses (cluster : Cluster) (request : Search) : Prop :=
  exists segments, (cluster.searchUrl request).path = cluster.baseSegments ++ segments
    ∧ Url.Decodes segments (targetNames request)

theorem targetNames_injective {request other : Search}
    (h : targetNames request = targetNames other) :
    request.index = other.index ∧ request.docType = other.docType := by
  unfold targetNames at h
  have hnames := List.append_cancel_right h
  rcases List.cons.inj hnames with ⟨hindex, htypes⟩
  exact ⟨hindex, by simpa using congrArg List.head? htypes⟩

theorem path_searchUrl (cluster : Cluster) (request : Search) :
    (cluster.searchUrl request).path
      = Url.grounded ((targetNames request).foldl (Url.push cluster.url.scheme)
          (Url.dropEmptyLast cluster.url.path)) := by
  have hsearch : Url.IsSegment "_search" := by decide
  have hpush := Url.push_of_isSegment hsearch cluster.url.scheme
  unfold searchUrl targetNames
  dsimp only
  rw [List.foldl_append, List.foldl_cons, List.foldl_nil, hpush, Url.grounded_append]
  exact Or.inl (Url.segment_ne_empty (by decide))

section

variable {cluster : Cluster} {request other : Search}

theorem IsAddressable.path_eq (h : cluster.IsAddressable request) :
    (cluster.searchUrl request).path
      = cluster.baseSegments ++ (targetNames request).map (Url.segment cluster.url.scheme) := by
  rw [path_searchUrl, Url.foldl_push h.names]
  · rfl
  · exact h.index.imp id (fun hindex heq => hindex (Option.some.inj heq))

theorem addresses_iff : cluster.Addresses request <-> cluster.IsAddressable request := by
  constructor
  · rintro ⟨segments, hpath, hdecoded⟩
    have hlength : segments.length = (targetNames request).length := by
      simpa using congrArg List.length hdecoded
    rw [path_searchUrl] at hpath
    have hgrows := congrArg List.length hpath
    rw [List.length_append, hlength] at hgrows
    rcases Url.exists_segments_of_grows (Nat.le_of_eq hgrows.symm) with ⟨found, hfound, hnames⟩
    have hsame : found = segments := List.append_cancel_left (hfound.symm.trans hpath)
    rw [hsame] at hnames
    rcases hnames hdecoded with ⟨hall, hindex⟩
    exact ⟨hall, hindex.imp id (fun hhead heq => hhead (congrArg some heq))⟩
  · intro h
    exact ⟨_, h.path_eq, Url.decodes_segments cluster.url.scheme (targetNames request)⟩

theorem IsAddressable.target_eq (hrequest : cluster.IsAddressable request)
    (hother : cluster.IsAddressable other)
    (h : (cluster.searchUrl request).pathText = (cluster.searchUrl other).pathText) :
    request.index = other.index ∧ request.docType = other.docType := by
  have htext := congrArg String.toList h
  rw [Url.toList_pathText, Url.toList_pathText, hrequest.path_eq, hother.path_eq, Url.slashed,
    Url.slashed, List.flatMap_append, List.flatMap_append] at htext
  have hslash : forall names : List String, forall segment,
      segment ∈ names.map (Url.segment cluster.url.scheme) -> '/' ∉ segment.toList := by
    intro names segment hsegment
    rcases List.mem_map.mp hsegment with ⟨name, _, rfl⟩
    exact Url.slash_not_mem_segment cluster.url.scheme name
  have hsegments := Url.slashed_injective (hslash _) (hslash _) (List.append_cancel_left htext)
  have hinjective : Function.Injective (Url.segment cluster.url.scheme) :=
    fun _ _ => Url.segment_injective
  exact targetNames_injective (hinjective.list_map hsegments)

end

/-- A search is addressed to its index and type exactly if their names become segments, and
searches that are so addressed have different paths if their targets differ. -/
theorem addresses_searchUrl (cluster : Cluster) (request : Search) :
    (cluster.Addresses request <-> cluster.IsAddressable request)
      ∧ forall other, cluster.IsAddressable request -> cluster.IsAddressable other ->
          (request.index, request.docType) ≠ (other.index, other.docType) ->
          (cluster.searchUrl request).pathText ≠ (cluster.searchUrl other).pathText := by
  refine ⟨addresses_iff, fun other hrequest hother hdifferent hsame => hdifferent ?_⟩
  rcases hrequest.target_eq hother hsame with ⟨hindex, hdocType⟩
  rw [hindex, hdocType]

def proxied : Cluster :=
  { url := { scheme := "http", host := some "localhost", port := some 9200, path := ["es", ""] } }

def searchOf (index : String) (docType : Option String) : Search :=
  { index := index, docType := docType, body := {} }

theorem addresses_searchUrl_encodedNames :
    proxied.Addresses (searchOf "logs#2024" (some "a b/c"))
      ∧ (proxied.searchUrl (searchOf "logs#2024" (some "a b/c"))).pathText
        = "/es/logs%232024/a%20b%2Fc/_search"
      ∧ (proxied.searchUrl (searchOf "logs#2024" (some "a b/c"))).pathText
        ≠ (proxied.searchUrl (searchOf "logs#2024" none)).pathText := by
  have htyped : proxied.IsAddressable (searchOf "logs#2024" (some "a b/c")) :=
    ⟨by decide, by decide⟩
  have huntyped : proxied.IsAddressable (searchOf "logs#2024" none) := ⟨by decide, by decide⟩
  rcases addresses_searchUrl proxied (searchOf "logs#2024" (some "a b/c")) with
    ⟨haddresses, hdifferent⟩
  refine ⟨haddresses.mpr htyped, by decide +kernel, ?_⟩
  exact hdifferent (searchOf "logs#2024" none) htyped huntyped (by decide)

/-- A tab in the name of an index is dropped, so that another index is searched. -/
theorem searchUrl_tabbedIndex :
    (searchOf "a\tb" none).index ≠ (searchOf "ab" none).index
      ∧ (proxied.searchUrl (searchOf "a\tb" none)).pathText
        = (proxied.searchUrl (searchOf "ab" none)).pathText
      ∧ ¬ proxied.Addresses (searchOf "a\tb" none) := by
  refine ⟨by decide, by decide +kernel, fun haddresses => ?_⟩
  have hsegment := (addresses_iff.mp haddresses).names "a\tb" List.mem_cons_self
  exact absurd hsegment (by decide)

end Cluster
end Rollup
