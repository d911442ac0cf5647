import Rollup.Proofs.Answer.Mirror

/-!
# Answers that follow the request

A response to a request with aggregations either cannot be read or gives a row that follows
the request. The row has the names that were asked for, selectors apart, with values of the
form that belongs to each kind. A list of buckets has one entry for each bucket of the
response, in order, whose own row follows what was asked for inside.

Entries of the response that nobody asked for are ignored. A bucket keeps its own fields as
they are, so this holds unless an aggregation takes the name of such a field.
-/

namespace Rollup
namespace Answer

open Request (Aggregation Kinds Search)

/-!
# Forms of values
-/

inductive Shape where
  | number
  | stats
  | percentiles
  | hits
  | buckets
deriving DecidableEq, Repr

def Value.shape : Value -> Shape
  | .missing => .number
  | .number _ => .number
  | .stats _ => .stats
  | .percentiles _ => .percentiles
  | .hits _ => .hits
  | .buckets _ => .buckets

/-- The form of the results of a node. Of several kinds buckets come first, and then the
metrics that are more than a number. -/
def shapeOf (kinds : Kinds) : Shape :=
  if kinds.bucketing?.isSome then .buckets
  else if kinds.stats.isSome then .stats
  else if kinds.percentiles.isSome then .percentiles
  else if kinds.topHits.isSome then .hits
  else .number

def Value.rows : Value -> List (BucketHead × Row)
  | .buckets rows => rows
  | _ => []

/-!
# Rows that follow the request
-/

def requested (aggs : List (String × Aggregation)) : List (String × Aggregation) :=
  aggs.filter (fun sub => sub.2.kinds.selector.isNone)

/-- What a bucket says of itself. -/
structure IsHeadOf (bucket : Json) (head : BucketHead) : Prop where
  key : bucket.field? "key" = some head.key
  docCount : (bucket.field? "doc_count").bind Json.toNat? = some head.docCount
  keyText : (bucket.field? "key_as_string").bind Json.toString? = head.keyText
  low : bucket.field? "from" = head.low
  high : bucket.field? "to" = head.high

/-- The value is what a part of the response holds. Buckets have a head for each bucket of the
part, in order. -/
def Shows (part : Json) : Value -> Prop
  | .missing => part.field? "value" = some .null
  | .number x => floatAt "value" part = some x
  | .stats stats =>
      (part.field? "count").bind Json.toNat? = some stats.count
        ∧ floatAt "min" part = stats.min
        ∧ floatAt "max" part = stats.max
        ∧ floatAt "avg" part = stats.avg
        ∧ (floatAt "sum" part).getD 0 = stats.sum
  | .percentiles values =>
      exists fields, (part.field? "values").bind Json.toFields? = some fields
        ∧ fields.map (fun field => (field.1, field.2.toFloat?)) = values
  | .hits sources =>
      exists hits, ((part.field? "hits").bind (Json.field? "hits")).bind Json.toList? = some hits
        ∧ hits.map sourceOf = sources
  | .buckets rows =>
      exists buckets, (part.field? "buckets").bind Json.toList? = some buckets
        ∧ List.Forall₂ IsHeadOf buckets (rows.map Prod.fst)

/-- The row has the requested names, each with what the response holds under it in the form of
the requested kind, and the rows of buckets follow what is requested inside them. -/
inductive Follows : List (String × Aggregation) -> Json -> Row -> Prop
  | intro {aggs : List (String × Aggregation)} {raw : Json} {row : Row}
      (names : row.map Prod.fst = (requested aggs).map Prod.fst)
      (values : forall sub entry, (sub, entry) ∈ (requested aggs).zip row ->
        entry.2.shape = shapeOf sub.2.kinds
          ∧ exists part, raw.field? sub.1 = some part ∧ Shows part entry.2)
      (inner : forall sub entry bucket inside, (sub, entry) ∈ (requested aggs).zip row ->
        (bucket, inside) ∈ (listedBuckets sub.1 raw).zip entry.2.rows ->
        Follows sub.2.subs bucket inside.2) : Follows aggs raw row

/-!
# What is read, part by part
-/

theorem readHead_eq_ok_iff {name : String} {bucket : Json} {head : BucketHead} :
    readHead name bucket = .ok head <-> IsHeadOf bucket head := by
  constructor
  · intro h
    rcases bind_eq_ok_iff.mp h with ⟨key, hkey, h⟩
    rcases bind_eq_ok_iff.mp h with ⟨count, hcount, heq⟩
    cases heq
    exact ⟨orMalformed_eq_ok_iff.mp hkey, orMalformed_eq_ok_iff.mp hcount, rfl, rfl, rfl⟩
  · rintro ⟨hkey, hcount, htext, hlow, hhigh⟩
    rw [readHead, orMalformed_eq_ok_iff.mpr hkey, ok_bind, orMalformed_eq_ok_iff.mpr hcount,
      ok_bind, htext, hlow, hhigh]
    rfl

theorem readGroup_eq_ok_iff {name : String} {subs : List (String × Aggregation)} {bucket : Json}
    {inside : BucketHead × Row} :
    readGroup name subs bucket = .ok inside
      <-> IsHeadOf bucket inside.1 ∧ readRow bucket subs = .ok inside.2 := by
  rw [<- @readHead_eq_ok_iff name]
  constructor
  · intro h
    rcases bind_eq_ok_iff.mp h with ⟨head, hhead, h⟩
    rcases bind_eq_ok_iff.mp h with ⟨row, hrow, heq⟩
    cases heq
    exact ⟨hhead, hrow⟩
  · rintro ⟨hhead, hrow⟩
    rw [readGroup, hhead, ok_bind, hrow]
    rfl

theorem readNumber_eq_ok_iff {name : String} {part : Json} {value : Value} :
    readNumber name part = .ok value <-> value.shape = .number ∧ Shows part value := by
  unfold readNumber
  cases hfield : part.field? "value" with
  | none => cases value <;> simp [Value.shape, Shows, floatAt, hfield]
  | some found =>
      cases found <;> cases value <;> simp [Value.shape, Shows, floatAt, hfield, Json.toFloat?]

theorem readStats_eq_ok_iff {name : String} {part : Json} {value : Value} :
    readStats name part = .ok value <-> value.shape = .stats ∧ Shows part value := by
  constructor
  · intro h
    rcases bind_eq_ok_iff.mp h with ⟨count, hcount, heq⟩
    cases heq
    exact ⟨rfl, orMalformed_eq_ok_iff.mp hcount, rfl, rfl, rfl, rfl⟩
  · rintro ⟨hshape, hshows⟩
    cases value with
    | stats stats =>
        rcases hshows with ⟨hcount, hmin, hmax, havg, hsum⟩
        rw [readStats, orMalformed_eq_ok_iff.mpr hcount, ok_bind, hmin, hmax, havg, hsum]
        rfl
    | _ => cases hshape

theorem readPercentiles_eq_ok_iff {name : String} {part : Json} {value : Value} :
    readPercentiles name part = .ok value <-> value.shape = .percentiles ∧ Shows part value := by
  constructor
  · intro h
    rcases bind_eq_ok_iff.mp h with ⟨fields, hfields, heq⟩
    cases heq
    exact ⟨rfl, fields, orMalformed_eq_ok_iff.mp hfields, rfl⟩
  · rintro ⟨hshape, hshows⟩
    cases value with
    | percentiles values =>
        rcases hshows with ⟨fields, hfields, rfl⟩
        rw [readPercentiles, orMalformed_eq_ok_iff.mpr hfields]
        rfl
    | _ => cases hshape

theorem readTopHits_eq_ok_iff {name : String} {part : Json} {value : Value} :
    readTopHits name part = .ok value <-> value.shape = .hits ∧ Shows part value := by
  constructor
  · intro h
    rcases bind_eq_ok_iff.mp h with ⟨hits, hhits, heq⟩
    cases heq
    exact ⟨rfl, hits, orMalformed_eq_ok_iff.mp hhits, rfl⟩
  · rintro ⟨hshape, hshows⟩
    cases value with
    | hits sources =>
        rcases hshows with ⟨hits, hhits, rfl⟩
        rw [readTopHits, orMalformed_eq_ok_iff.mpr hhits]
        rfl
    | _ => cases hshape

theorem readMetric_eq_ok_iff {name : String} {kinds : Kinds} (h : kinds.bucketing?.isSome = false)
    {part : Json} {value : Value} :
    readMetric name kinds part = .ok value <-> value.shape = shapeOf kinds ∧ Shows part value := by
  unfold readMetric shapeOf
  rw [h, if_neg Bool.false_ne_true]
  split
  · exact readStats_eq_ok_iff
  · split
    · exact readPercentiles_eq_ok_iff
    · split
      · exact readTopHits_eq_ok_iff
      · exact readNumber_eq_ok_iff

theorem readValue_eq (name : String) (part : Json) (node : Aggregation) :
    readValue name part node
      = if node.kinds.bucketing?.isSome then do
          let buckets <- bucketList name part
          let rows <- buckets.mapM (readGroup name node.subs)
          return .buckets rows
        else
          readMetric name node.kinds part := by
  obtain ⟨kinds, subs⟩ := node
  cases subs <;> rw [readValue] <;> rfl

theorem mapM_readGroup_eq_ok_iff {name : String} {subs : List (String × Aggregation)}
    {buckets : List Json} {rows : List (BucketHead × Row)} :
    buckets.mapM (readGroup name subs) = .ok rows
      <-> List.Forall₂ IsHeadOf buckets (rows.map Prod.fst)
        ∧ forall bucket inside, (bucket, inside) ∈ buckets.zip rows ->
            readRow bucket subs = .ok inside.2 := by
  rw [mapM_eq_ok_iff, List.forall₂_map_right_iff, List.forall₂_iff_zip, List.forall₂_iff_zip]
  simp only [readGroup_eq_ok_iff]
  constructor
  · rintro ⟨hlength, hread⟩
    exact ⟨⟨hlength, fun hmem => (hread hmem).left⟩, fun _ _ hmem => (hread hmem).right⟩
  · rintro ⟨⟨hlength, hheads⟩, hrows⟩
    exact ⟨hlength, fun hmem => ⟨hheads hmem, hrows _ _ hmem⟩⟩

theorem readValue_eq_ok_iff {name : String} {part : Json} {node : Aggregation} {value : Value} :
    readValue name part node = .ok value
      <-> value.shape = shapeOf node.kinds
        ∧ Shows part value
        ∧ forall bucket inside,
            (bucket, inside)
                ∈ (((part.field? "buckets").bind Json.toList?).getD []).zip value.rows ->
              readRow bucket node.subs = .ok inside.2 := by
  rw [readValue_eq]
  cases hbucketing : node.kinds.bucketing?.isSome with
  | true =>
      have hshapeOf : shapeOf node.kinds = .buckets := by
        rw [shapeOf, hbucketing]
        rfl
      rw [if_pos rfl, hshapeOf]
      constructor
      · intro h
        rcases bind_eq_ok_iff.mp h with ⟨buckets, hbuckets, h⟩
        rcases bind_eq_ok_iff.mp h with ⟨rows, hrows, heq⟩
        cases heq
        have hlist := bucketList_eq_ok_iff.mp hbuckets
        rcases mapM_readGroup_eq_ok_iff.mp hrows with ⟨hheads, hinner⟩
        rw [hlist]
        exact ⟨rfl, ⟨buckets, hlist, hheads⟩, hinner⟩
      · rintro ⟨hshape, hshows, hinner⟩
        cases value with
        | buckets rows =>
            rcases hshows with ⟨buckets, hlist, hheads⟩
            rw [hlist] at hinner
            rw [bucketList_eq_ok_iff.mpr hlist, ok_bind,
              mapM_readGroup_eq_ok_iff.mpr ⟨hheads, hinner⟩]
            rfl
        | _ => cases hshape
  | false =>
      rw [if_neg Bool.false_ne_true, readMetric_eq_ok_iff hbucketing]
      have hrows : value.shape = shapeOf node.kinds -> value.rows = [] := by
        intro hshape
        cases value with
        | buckets rows =>
            have hnot : shapeOf node.kinds ≠ .buckets := by
              unfold shapeOf
              rw [hbucketing, if_neg Bool.false_ne_true]
              split_ifs <;> exact Shape.noConfusion
            exact absurd hshape.symm hnot
        | _ => rfl
      constructor
      · rintro ⟨hshape, hshows⟩
        refine ⟨hshape, hshows, fun bucket inside hmem => ?_⟩
        rw [hrows hshape, List.zip_nil_right] at hmem
        cases hmem
      · rintro ⟨hshape, hshows, _⟩
        exact ⟨hshape, hshows⟩

/-!
# Whole rows
-/

theorem sizeOf_subs_lt {aggs : List (String × Aggregation)} {sub : String × Aggregation}
    (h : sub ∈ aggs) : sizeOf sub.2.subs < sizeOf aggs := by
  have hmem := List.sizeOf_lt_of_mem h
  obtain ⟨name, kinds, subs⟩ := sub
  cases subs with
  | none =>
      simp only [Prod.mk.sizeOf_spec, Aggregation.node.sizeOf_spec] at hmem
      simp only [Aggregation.subs, List.nil.sizeOf_spec]
      omega
  | some subs =>
      simp only [Prod.mk.sizeOf_spec, Aggregation.node.sizeOf_spec, Option.some.sizeOf_spec] at hmem
      simp only [Aggregation.subs]
      omega

theorem map_induction {motive : List (String × Aggregation) -> Prop}
    (step : forall aggs, (forall sub, sub ∈ aggs -> motive sub.2.subs) -> motive aggs)
    (aggs : List (String × Aggregation)) : motive aggs :=
  step aggs (fun sub _ => map_induction step sub.2.subs)
termination_by sizeOf aggs
decreasing_by
  exact sizeOf_subs_lt ‹_›

theorem listedBuckets_eq {name : String} {raw part : Json} (h : raw.field? name = some part) :
    listedBuckets name raw = ((part.field? "buckets").bind Json.toList?).getD [] := by
  rw [listedBuckets, h]
  rfl

theorem readRow_eq_ok_iff_follows (aggs : List (String × Aggregation)) :
    forall {raw : Json} {row : Row}, readRow raw aggs = .ok row <-> Follows aggs raw row := by
  induction aggs using map_induction with
  | step aggs ih =>
      intro raw row
      have inside : forall {sub : String × Aggregation} {entry : String × Value},
          (sub, entry) ∈ (requested aggs).zip row -> sub ∈ aggs :=
        fun hmem => List.mem_of_mem_filter (List.of_mem_zip hmem).left
      rw [readRow_eq_ok_iff]
      constructor
      · intro h
        have hnames := keys_eq_of_forall₂ h (fun _ _ hrel => hrel.left)
        rw [List.forall₂_iff_zip] at h
        refine .intro hnames (fun sub entry hmem => ?_)
          (fun sub entry bucket inner hmem hinner => ?_)
        · rcases h.right hmem with ⟨_, part, hpart, hvalue⟩
          rcases readValue_eq_ok_iff.mp hvalue with ⟨hshape, hshows, _⟩
          exact ⟨hshape, part, hpart, hshows⟩
        · rcases h.right hmem with ⟨_, part, hpart, hvalue⟩
          rw [listedBuckets_eq hpart] at hinner
          have hread := (readValue_eq_ok_iff.mp hvalue).right.right bucket inner hinner
          exact (ih sub (inside hmem)).mp hread
      · rintro ⟨hnames, hvalues, hinner⟩
        rw [<- List.forall₂_eq_eq_eq, List.forall₂_map_left_iff, List.forall₂_map_right_iff]
          at hnames
        have hkeys := List.forall₂_iff_zip.mp hnames.flip
        rw [List.forall₂_iff_zip]
        refine ⟨hkeys.left, fun {sub entry} hmem => ⟨hkeys.right hmem, ?_⟩⟩
        rcases hvalues sub entry hmem with ⟨hshape, part, hpart, hshows⟩
        refine ⟨part, hpart, readValue_eq_ok_iff.mpr ⟨hshape, hshows, fun bucket inner hmore => ?_⟩⟩
        rw [<- listedBuckets_eq hpart] at hmore
        exact (ih sub (inside hmem)).mpr (hinner sub entry bucket inner hmem hmore)

/-!
# Entries that nobody asked for
-/

def changeField (key : String) (change : Json -> Json) : Json -> Json
  | .obj fields =>
      .obj (fields.map (fun field => (field.1, if field.1 = key then change field.2 else field.2)))
  | other => other

def changeItem (position : Nat) (change : Json -> Json) : Json -> Json
  | .arr items => .arr (items.modify position change)
  | other => other

def addField (name : String) (value : Json) : Json -> Json
  | .obj fields => .obj (insertField name value fields)
  | other => other

/-- The part of a response with a change in a bucket. The path gives for each level the name of
the buckets and a position among them. -/
def changeAt (change : Json -> Json) : List (String × Nat) -> Json -> Json
  | [], raw => change raw
  | step :: path, raw =>
      changeField step.1 (changeField "buckets" (changeItem step.2 (changeAt change path))) raw

def withEntry (path : List (String × Nat)) (name : String) (value response : Json) : Json :=
  changeField "aggregations" (changeAt (addField name value) path) response

/-- What is requested of the buckets that a path leads to. -/
inductive RequestedAt :
    List (String × Aggregation) -> List (String × Nat) -> List (String × Aggregation) -> Prop
  | here (aggs : List (String × Aggregation)) : RequestedAt aggs [] aggs
  | inside {aggs there : List (String × Aggregation)} {name : String} {node : Aggregation}
      {position : Nat} {path : List (String × Nat)} (hnode : (name, node) ∈ requested aggs)
      (hbuckets : node.kinds.bucketing?.isSome = true) (hpath : RequestedAt node.subs path there) :
      RequestedAt aggs ((name, position) :: path) there

def bucketFields : List String :=
  ["key", "key_as_string", "doc_count", "from", "to"]

def keptFields : List String :=
  ["key", "from", "to"]

/-- Nobody asks for the name where the path leads, and it is not a bucket's own. The buckets on
the way do not stand in a field that the bucket around them keeps. -/
structure IsForeign (aggs : List (String × Aggregation)) (path : List (String × Nat))
    (name : String) : Prop where
  unrequested : forall there, RequestedAt aggs path there -> name ∉ (requested there).map Prod.fst
  unowned : name ∉ bucketFields
  apart : forall step, step ∈ path.tail -> step.1 ∉ keptFields

theorem field?_changeField (key : String) (change : Json -> Json) (raw : Json) (other : String) :
    (changeField key change raw).field? other
      = (raw.field? other).map (fun value => if other = key then change value else value) := by
  cases raw with
  | obj fields =>
      rw [changeField, Json.field?, Json.field?]
      induction fields with
      | nil => rfl
      | cons field rest ih =>
          rw [List.map_cons, lookup_cons_ite, lookup_cons_ite, ih]
          by_cases hother : other = field.1
          · rw [if_pos hother, if_pos hother, hother]
            rfl
          · rw [if_neg hother, if_neg hother]
  | _ => rfl

theorem field?_changeField_ne {key other : String} (h : other ≠ key) (change : Json -> Json)
    (raw : Json) : (changeField key change raw).field? other = raw.field? other := by
  rw [field?_changeField]
  simp [h]

theorem field?_addField {name other : String} (h : other ≠ name) (value raw : Json) :
    (addField name value raw).field? other = raw.field? other := by
  cases raw with
  | obj fields =>
      rw [addField, Json.field?, lookup_insertField, if_neg h]
      rfl
  | _ => rfl

theorem readMetric_changeField (name : String) (kinds : Kinds) (change : Json -> Json)
    (part : Json) :
    readMetric name kinds (changeField "buckets" change part) = readMetric name kinds part := by
  have hfield : forall key, key ≠ "buckets" ->
      (changeField "buckets" change part).field? key = part.field? key :=
    fun key hkey => field?_changeField_ne hkey change part
  have hfloat : forall key, key ≠ "buckets" ->
      floatAt key (changeField "buckets" change part) = floatAt key part :=
    fun key hkey => congrArg (fun found => found.bind Json.toFloat?) (hfield key hkey)
  have hstats : readStats name (changeField "buckets" change part) = readStats name part := by
    unfold readStats
    rw [hfield "count" (by decide), hfloat "min" (by decide), hfloat "max" (by decide),
      hfloat "avg" (by decide), hfloat "sum" (by decide)]
  have hpercentiles : readPercentiles name (changeField "buckets" change part)
      = readPercentiles name part := by
    unfold readPercentiles
    rw [hfield "values" (by decide)]
  have hhits : readTopHits name (changeField "buckets" change part) = readTopHits name part := by
    unfold readTopHits
    rw [hfield "hits" (by decide)]
  have hnumber : readNumber name (changeField "buckets" change part) = readNumber name part := by
    unfold readNumber
    rw [hfield "value" (by decide)]
  unfold readMetric
  rw [hstats, hpercentiles, hhits, hnumber]

theorem mapM_modify {f : Json -> Except Malformed (BucketHead × Row)} {change : Json -> Json}
    (h : forall item, f (change item) = f item) (items : List Json) (position : Nat) :
    (items.modify position change).mapM f = items.mapM f := by
  induction items generalizing position with
  | nil => rw [List.modify_nil]
  | cons item rest ih =>
      cases position with
      | zero => rw [List.modify_zero_cons, List.mapM_cons, List.mapM_cons, h]
      | succ position => rw [List.modify_succ_cons, List.mapM_cons, List.mapM_cons, ih]

theorem readValue_changeItem {name : String} {node : Aggregation} {change : Json -> Json}
    (h : node.kinds.bucketing?.isSome = true ->
      forall bucket, readGroup name node.subs (change bucket) = readGroup name node.subs bucket)
    (position : Nat) (part : Json) :
    readValue name (changeField "buckets" (changeItem position change) part) node
      = readValue name part node := by
  rw [readValue_eq, readValue_eq, readMetric_changeField]
  split
  · rename_i hbuckets
    have hlist : bucketList name (changeField "buckets" (changeItem position change) part)
        = (bucketList name part).map (fun items => items.modify position change) := by
      unfold bucketList
      rw [field?_changeField]
      cases part.field? "buckets" with
      | none => rfl
      | some found => cases found <;> rfl
    rw [hlist]
    cases bucketList name part with
    | error cause => rfl
    | ok items =>
        simp only [Except.map, ok_bind, mapM_modify (h hbuckets)]
  · rfl

theorem readRow_congr {raw other : Json} {aggs : List (String × Aggregation)}
    (h : forall sub, sub ∈ requested aggs ->
      (other.field? sub.1).map (fun part => readValue sub.1 part sub.2)
        = (raw.field? sub.1).map (fun part => readValue sub.1 part sub.2)) :
    readRow other aggs = readRow raw aggs := by
  induction aggs with
  | nil => rfl
  | cons sub rest ih =>
      obtain ⟨name, node⟩ := sub
      rw [readRow, readRow]
      cases hselector : node.kinds.selector with
      | some selector =>
          rw [requested, List.filter_cons_of_neg (by simp [hselector])] at h
          exact ih h
      | none =>
          rw [requested, List.filter_cons_of_pos (by simp [hselector]), List.forall_mem_cons] at h
          rw [ih h.right]
          have hfirst := h.left
          cases hother : other.field? name with
          | none =>
              cases hraw : raw.field? name with
              | none => rfl
              | some part =>
                  rw [hother, hraw] at hfirst
                  cases hfirst
          | some found =>
              cases hraw : raw.field? name with
              | none =>
                  rw [hother, hraw] at hfirst
                  cases hfirst
              | some part =>
                  rw [hother, hraw] at hfirst
                  have hvalue : readValue name found node = readValue name part node :=
                    Option.some.inj hfirst
                  show (readValue name found node >>= _) = (readValue name part node >>= _)
                  rw [hvalue]

/-!
# The same answer
-/

theorem bind_field?_changeField {alpha : Type} {read? : Json -> Option alpha}
    (h : forall fields others, read? (.obj fields) = read? (.obj others)) (key inner : String)
    (change : Json -> Json) (raw : Json) (other : String) :
    ((changeField key (changeField inner change) raw).field? other).bind read?
      = (raw.field? other).bind read? := by
  rw [field?_changeField]
  cases raw.field? other with
  | none => rfl
  | some value =>
      show read? (if other = key then changeField inner change value else value) = read? value
      split
      · cases value with
        | obj fields => exact h _ _
        | _ => rfl
      · rfl

theorem readHead_changeAt {path : List (String × Nat)} {name : String}
    (hname : name ∉ bucketFields) (hpath : forall step, step ∈ path.head? -> step.1 ∉ keptFields)
    (owner : String) (value bucket : Json) :
    readHead owner (changeAt (addField name value) path bucket) = readHead owner bucket := by
  unfold readHead
  cases path with
  | nil =>
      have hfield : forall key, key ∈ bucketFields ->
          (addField name value bucket).field? key = bucket.field? key := by
        intro key hkey
        refine field?_addField (fun heq => hname ?_) value bucket
        rw [<- heq]
        exact hkey
      rw [changeAt, hfield "key" (by decide), hfield "key_as_string" (by decide),
        hfield "doc_count" (by decide), hfield "from" (by decide), hfield "to" (by decide)]
  | cons step path =>
      have hkept : forall key, key ∈ keptFields -> forall change,
          (changeField step.1 change bucket).field? key = bucket.field? key := by
        intro key hkey change
        refine field?_changeField_ne (fun heq => hpath step rfl ?_) change bucket
        rw [<- heq]
        exact hkey
      -- A count is a number and a text is a string, and neither has buckets to change.
      rw [changeAt, hkept "key" (by decide), bind_field?_changeField (fun _ _ => rfl),
        bind_field?_changeField (fun _ _ => rfl), hkept "from" (by decide), hkept "to" (by decide)]

theorem IsForeign.inner {aggs : List (String × Aggregation)} {step : String × Nat}
    {path : List (String × Nat)} {name : String} (h : IsForeign aggs (step :: path) name)
    {node : Aggregation} (hnode : (step.1, node) ∈ requested aggs)
    (hbuckets : node.kinds.bucketing?.isSome = true) : IsForeign node.subs path name where
  unrequested := fun there hthere => h.unrequested there (.inside hnode hbuckets hthere)
  unowned := h.unowned
  apart := fun other hother => h.apart other (List.mem_of_mem_tail hother)

theorem readRow_changeAt {path : List (String × Nat)} {name : String} (value : Json)
    {aggs : List (String × Aggregation)} (h : IsForeign aggs path name) (raw : Json) :
    readRow (changeAt (addField name value) path raw) aggs = readRow raw aggs := by
  induction path generalizing aggs raw with
  | nil =>
      apply readRow_congr
      intro sub hsub
      have hne : sub.1 ≠ name := by
        intro heq
        exact h.unrequested aggs (.here aggs) (List.mem_map.mpr ⟨sub, hsub, heq⟩)
      rw [changeAt, field?_addField hne]
  | cons step path ih =>
      apply readRow_congr
      rintro ⟨key, node⟩ hsub
      by_cases hkey : key = step.1
      · subst hkey
        have hgroup : node.kinds.bucketing?.isSome = true -> forall bucket,
            readGroup step.1 node.subs (changeAt (addField name value) path bucket)
              = readGroup step.1 node.subs bucket := by
          intro hbuckets bucket
          have hinner := h.inner hsub hbuckets
          rw [readGroup, readGroup, ih hinner, readHead_changeAt h.unowned]
          intro next hnext
          exact h.apart next (List.mem_of_mem_head? hnext)
        rw [changeAt, field?_changeField, Option.map_map]
        refine congrArg (fun f => Option.map f (raw.field? step.1)) (funext fun part => ?_)
        show readValue step.1 (if step.1 = step.1 then _ else part) node = _
        rw [if_pos rfl]
        exact readValue_changeItem hgroup step.2 part
      · rw [changeAt, field?_changeField_ne hkey]

section

variable {request : Search} {aggs : List (String × Aggregation)}
  (haggs : request.body.aggs = some aggs) (response : Json)

include haggs

theorem readWhole_aggregations :
    readWhole request response
      = orMalformed (response.field? "aggregations") .noAggregations >>= fun raw =>
          readRow raw aggs >>= fun row => .ok (.aggregations row) := by
  rw [readWhole, haggs]
  rfl

theorem readWhole_eq_ok_iff {answer : Answer} :
    readWhole request response = .ok answer
      <-> exists raw row, response.field? "aggregations" = some raw ∧ Follows aggs raw row
        ∧ .aggregations row = answer := by
  rw [readWhole_aggregations haggs, bind_eq_ok_iff]
  simp only [orMalformed_eq_ok_iff, bind_eq_ok_iff, readRow_eq_ok_iff_follows, Except.ok.injEq]
  constructor
  · rintro ⟨raw, hraw, row, hrow, heq⟩
    exact ⟨raw, row, hraw, hrow, heq⟩
  · rintro ⟨raw, row, hraw, hrow, heq⟩
    exact ⟨raw, hraw, row, hrow, heq⟩

theorem readWhole_withEntry {path : List (String × Nat)} {name : String}
    (h : IsForeign aggs path name) (value : Json) :
    readWhole request (withEntry path name value response) = readWhole request response := by
  rw [readWhole_aggregations haggs, readWhole_aggregations haggs, withEntry, field?_changeField]
  cases response.field? "aggregations" with
  | none => rfl
  | some raw =>
      show (readRow (changeAt (addField name value) path raw) aggs >>= _) = (readRow raw aggs >>= _)
      rw [readRow_changeAt value h]

end

/-- Either the response is malformed, or it gives a row that follows the request. An entry that
is foreign to the request makes no difference. -/
theorem read_follows {request : Search} {aggs : List (String × Aggregation)}
    (haggs : request.body.aggs = some aggs) (response : Json) :
    ((exists cause, read request response = .error (.backend (.malformed cause)))
        ∨ exists row, read request response = .ok (.aggregations row))
      ∧ (forall row, read request response = .ok (.aggregations row)
          <-> exists raw, response.field? "aggregations" = some raw ∧ Follows aggs raw row)
      ∧ forall path name value, IsForeign aggs path name ->
          read request (withEntry path name value response) = read request response := by
  refine ⟨?_, fun row => ⟨fun h => ?_, ?_⟩, fun path name value h => ?_⟩
  · unfold read
    cases hwhole : readWhole request response with
    | error cause => exact Or.inl ⟨cause, rfl⟩
    | ok answer =>
        rcases (readWhole_eq_ok_iff haggs response).mp hwhole with ⟨_, row, _, _, rfl⟩
        exact Or.inr ⟨row, rfl⟩
  · rcases (readWhole_eq_ok_iff haggs response).mp (readWhole_of_read h) with
      ⟨raw, _, hraw, hrow, heq⟩
    cases heq
    exact ⟨raw, hraw, hrow⟩
  · rintro ⟨raw, hraw, hrow⟩
    rw [read, (readWhole_eq_ok_iff haggs response).mpr ⟨raw, row, hraw, hrow, rfl⟩]
  · rw [read, read, readWhole_withEntry haggs response h]

def citiesAnd (field : String) : List (String × Aggregation) :=
  [ ("city", .node (Kinds.ofBucketing (.terms { field := "city" }))
      (some
        [ (field, .node (Kinds.ofBucketing (.terms { field := field }))
            (some [("n", .node (Kinds.ofMetric (.valueCount "_index")) none)])) ])) ]

def requestOf (aggs : List (String × Aggregation)) : Search :=
  { index := "people", docType := none, body := { size := some 0, aggs := some aggs } }

theorem eq_of_requestedAt_citiesAnd {field : String} {first second : Nat}
    {there : List (String × Aggregation)}
    (h : RequestedAt (citiesAnd field) [("city", first), (field, second)] there) :
    there = [("n", .node (Kinds.ofMetric (.valueCount "_index")) none)] := by
  cases h with
  | inside hcity _ h =>
      cases List.mem_singleton.mp (List.mem_of_mem_filter hcity)
      cases h with
      | inside hfield _ h =>
          cases List.mem_singleton.mp (List.mem_of_mem_filter hfield)
          cases h
          rfl

theorem read_follows_taggedCities :
    exists raw row, read (requestOf (citiesAnd "tags")) taggedCities = .ok (.aggregations row)
      ∧ Follows (citiesAnd "tags") raw row
      ∧ read (requestOf (citiesAnd "tags"))
          (withEntry [("city", 0), ("tags", 1)] "note" .null taggedCities)
        = .ok (.aggregations row) := by
  have hok : (read (requestOf (citiesAnd "tags")) taggedCities).isOk = true := by decide +kernel
  have hforeign : IsForeign (citiesAnd "tags") [("city", 0), ("tags", 1)] "note" := by
    refine ⟨fun there hthere => ?_, by decide, by decide⟩
    rw [eq_of_requestedAt_citiesAnd hthere]
    decide
  have haggs : (requestOf (citiesAnd "tags")).body.aggs = some (citiesAnd "tags") := rfl
  rcases read_follows haggs taggedCities with ⟨⟨cause, hread⟩ | ⟨row, hread⟩, hfollows, hsame⟩
  · rw [hread] at hok
    cases hok
  · rcases (hfollows row).mp hread with ⟨raw, _, hrow⟩
    exact ⟨raw, row, hread, hrow, (hsame _ _ _ hforeign).trans hread⟩

/-- A city whose buckets of `key` stand where the city's own key would. -/
def keyedCity : Json :=
  .obj
    [ ("aggregations", .obj
        [ ("city", .obj
            [ ("buckets", .arr
                [ .obj
                    [ ("doc_count", .int 1)
                    , ("key", .obj
                        [("buckets",
                          .arr [bucketWith "vip" 1 "n" (.obj [("value", .int 1)])])]) ] ])
            ]) ]) ]

/-- Nobody asks for the entry, and it is not a bucket's own, but it shows in the key of the city. -/
theorem read_keyedCity :
    (forall there, RequestedAt (citiesAnd "key") [("city", 0), ("key", 0)] there ->
        "note" ∉ there.map Prod.fst)
      ∧ "note" ∉ bucketFields
      ∧ read (requestOf (citiesAnd "key"))
          (withEntry [("city", 0), ("key", 0)] "note" .null keyedCity)
        ≠ read (requestOf (citiesAnd "key")) keyedCity := by
  refine ⟨fun there hthere => ?_, by decide, fun hsame => ?_⟩
  · rw [eq_of_requestedAt_citiesAnd hthere]
    decide
  · have hshown := congrArg (fun answer => answer.toOption.map (fun found => found.json.text)) hsame
    revert hshown
    decide +kernel

end Answer
end Rollup
