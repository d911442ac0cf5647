import Rollup.Proofs.Sql.Shape
import Rollup.Proofs.Text.Case
import Rollup.Proofs.Text.Split

/-!
# Canonical names of calls

The canonical name of a call writes its arguments one after another, without quotes, and
its function in capitals. Calls with the same canonical name are alike if nothing in them
can be taken for something else: a name for a star, a parameter, a number or a distinct
field, a text for a field or a number, or a letter for a capital of another one.
-/

namespace Rollup
namespace Sql

/-!
# Plain calls
-/

/-- A piece between commas that neither gives a parameter its value nor is a number. -/
def Continues (piece : List Char) : Prop :=
  '=' ∉ piece ∧ ¬ Number.IsNumeral piece

/-- A field name that cannot be taken for another argument. -/
structure IsPlainName (name : String) : Prop where
  ne_empty : name ≠ ""
  ne_star : name ≠ "*"
  indistinct : ¬ "DISTINCT ".toList <+: name.toList
  pieces : forall piece, piece ∈ name.toList.splitOn ',' -> Continues piece

/-- A parameter that cannot be taken for several arguments, or for part of another. -/
structure IsPlainParameter (parameter : String × Literal) : Prop where
  undivided : ',' ∉ parameter.1.toList
  key : '=' ∉ parameter.1.toList
  value : forall piece, piece ∈ (parameter.2.render.toList.splitOn ',').tail -> Continues piece

namespace AggregateCall

/-- Nothing in the call can be taken for something else in its canonical name. -/
structure IsPlain (call : AggregateCall) : Prop where
  function : forall c, c ∈ call.function.toList -> c.toNat < 128 ∧ c ≠ '('
  distinct : call.distinct = true -> exists name, call.argument = some (.field name)
  field : forall name, call.argument = some (.field name) -> IsPlainName name
  parameter : forall parameter, parameter ∈ call.parameters -> IsPlainParameter parameter
  positional : forall value, value ∈ call.positional -> exists raw, value = .number raw

/-- The calls compute the same: at most the alias, the case of the function and how the values
of parameters are quoted differ. -/
structure IsAlike (call other : AggregateCall) : Prop where
  function : Text.lower call.function = Text.lower other.function
  argument : call.argument = other.argument
  distinct : call.distinct = other.distinct
  parameters : List.Forall₂ (fun own its => own.1 = its.1 ∧ own.2.render = its.2.render)
    call.parameters other.parameters
  positional : call.positional = other.positional

end AggregateCall

/-!
# Pieces of a canonical name
-/

def parameterText (parameter : String × Literal) : String :=
  parameter.1 ++ "=" ++ parameter.2.render

def textPieces (text : String) : List (List Char) :=
  text.toList.splitOn ','

theorem textPieces_injective {text other : String} (h : textPieces text = textPieces other) :
    text = other := by
  have hjoined : forall cs : List Char, [','].intercalate (cs.splitOn ',') = cs :=
    fun cs => List.intercalate_splitOn ','
  rw [<- String.toList_inj, <- hjoined text.toList, <- hjoined other.toList]
  exact congrArg _ h

theorem textPieces_numeral {text : String} (h : Number.IsNumeral text.toList) :
    textPieces text = [text.toList] :=
  List.splitOn_eq_singleton (fun hc => Number.not_isNumeral_of_mem hc (by decide) h)

theorem textPieces_append {start : String} (h : ',' ∉ start.toList) (text : String) :
    exists first more, textPieces text = first :: more
      ∧ textPieces (start ++ text) = (start.toList ++ first) :: more := by
  rcases List.exists_cons_of_ne_nil (List.splitOn_ne_nil ',' text.toList) with ⟨first, more, hsplit⟩
  refine ⟨first, more, hsplit, ?_⟩
  rw [textPieces, String.toList_append, Text.splitOn_append_of_notMem h, hsplit]
  rfl

/-!
# Pieces of parameters
-/

theorem textPieces_parameterText {parameter : String × Literal} (h : IsPlainParameter parameter) :
    exists first more, textPieces parameter.2.render = first :: more
      ∧ textPieces (parameterText parameter) = (parameter.1.toList ++ '=' :: first) :: more
      ∧ forall piece, piece ∈ more -> Continues piece := by
  have hstart : ',' ∉ (parameter.1 ++ "=").toList := by
    simpa using h.undivided
  rcases textPieces_append hstart parameter.2.render with ⟨first, more, hsplit, hpieces⟩
  refine ⟨first, more, hsplit, ?_, fun piece hpiece => h.value piece ?_⟩
  · rw [parameterText, hpieces]
    simp
  · rw [textPieces] at hsplit
    rw [hsplit]
    exact hpiece

theorem isPlainParameter_of_notMem {parameter : String × Literal}
    (hkey : ',' ∉ parameter.1.toList ∧ '=' ∉ parameter.1.toList)
    (hvalue : ',' ∉ parameter.2.render.toList) : IsPlainParameter parameter where
  undivided := hkey.left
  key := hkey.right
  value := by
    rw [List.splitOn_eq_singleton hvalue]
    exact fun _ h => (nomatch h)

def parameterPieces (parameters : List (String × Literal)) : List (List Char) :=
  parameters.flatMap (fun parameter => textPieces (parameterText parameter))

section

variable {parameters others : List (String × Literal)}
  (h : forall parameter, parameter ∈ parameters -> IsPlainParameter parameter)
  (hothers : forall parameter, parameter ∈ others -> IsPlainParameter parameter)

include h

theorem head_parameterPieces {rest : List (List Char)}
    (hrest : forall piece, rest.head? = some piece -> ¬ Continues piece) :
    forall piece, (parameterPieces parameters ++ rest).head? = some piece -> ¬ Continues piece := by
  cases parameters with
  | nil => exact hrest
  | cons parameter others =>
      rcases textPieces_parameterText (h parameter List.mem_cons_self) with
        ⟨first, more, _, hpieces, _⟩
      intro piece hpiece hcontinues
      rw [parameterPieces, List.flatMap_cons, hpieces] at hpiece
      cases hpiece
      exact hcontinues.left (List.mem_append_right _ List.mem_cons_self)

theorem not_isNumeral_parameterPieces {piece : List Char}
    (hpiece : piece ∈ parameterPieces parameters) : ¬ Number.IsNumeral piece := by
  rcases List.mem_flatMap.mp hpiece with ⟨parameter, hparameter, hmem⟩
  rcases textPieces_parameterText (h parameter hparameter) with ⟨first, more, _, hpieces, hmore⟩
  rw [hpieces] at hmem
  rcases List.mem_cons.mp hmem with rfl | hmem
  · exact Number.not_isNumeral_of_mem (List.mem_append_right _ List.mem_cons_self) (by decide)
  · exact (hmore piece hmem).right

include hothers

theorem parameters_of_pieces (heq : parameterPieces parameters = parameterPieces others) :
    List.Forall₂ (fun own its => own.1 = its.1 ∧ own.2.render = its.2.render)
      parameters others := by
  induction parameters generalizing others with
  | nil =>
      cases others with
      | nil => exact .nil
      | cons other others =>
          rcases textPieces_parameterText (hothers other List.mem_cons_self) with
            ⟨first, more, _, hpieces, _⟩
          rw [parameterPieces, parameterPieces, List.flatMap_cons, hpieces] at heq
          cases heq
  | cons parameter parameters ih =>
      rcases textPieces_parameterText (h parameter List.mem_cons_self) with
        ⟨first, more, hvalue, hpieces, hmore⟩
      cases others with
      | nil =>
          rw [parameterPieces, parameterPieces, List.flatMap_cons, hpieces] at heq
          cases heq
      | cons other others =>
          have hplain := fun next hnext => h next (List.mem_cons_of_mem parameter hnext)
          have hplains := fun next hnext => hothers next (List.mem_cons_of_mem other hnext)
          rcases textPieces_parameterText (hothers other List.mem_cons_self) with
            ⟨start, rest, hits, hpiecesOther, hrest⟩
          rw [parameterPieces, parameterPieces, List.flatMap_cons, List.flatMap_cons, hpieces,
            hpiecesOther] at heq
          injection heq with hhead htail
          rcases Text.append_cons_inj (h parameter List.mem_cons_self).key
            (hothers other List.mem_cons_self).key hhead with ⟨hkey, rfl⟩
          have hend : forall piece : List Char, [].head? = some piece -> ¬ Continues piece := by
            rintro piece ⟨⟩
          have hstop := head_parameterPieces hplain hend
          have hstops := head_parameterPieces hplains hend
          rw [List.append_nil] at hstop hstops
          rcases Text.append_inj_of_stops Continues hmore hrest hstop hstops htail with ⟨rfl, hnext⟩
          refine .cons ⟨String.toList_inj.mp hkey, ?_⟩ (ih hplain hplains hnext)
          exact textPieces_injective (hvalue.trans hits.symm)

end

namespace AggregateCall

variable {call other : AggregateCall}

def parts (call : AggregateCall) : List String :=
  call.argumentNames ++ call.parameters.map parameterText ++ call.positional.map Literal.render

theorem toList_canonicalName (call : AggregateCall) :
    call.canonicalName.toList = (Text.upper call.function).toList
      ++ '(' :: ([','].intercalate (call.parts.map String.toList) ++ [')']) := by
  have hname : call.canonicalName
      = Text.upper call.function ++ "(" ++ String.intercalate "," call.parts ++ ")" := rfl
  rw [hname]
  simp [String.toList_intercalate]

theorem mem_argumentNames_cases {name : String} (h : name ∈ call.argumentNames) :
    (call.argument = some .star ∧ name = "*")
      ∨ exists field, call.argument = some (.field field)
          ∧ ((call.distinct = false ∧ name = field)
            ∨ (call.distinct = true ∧ name = "DISTINCT " ++ field)) := by
  unfold argumentNames at h
  split at h
  · rename_i hargument
    exact Or.inl ⟨hargument, List.mem_singleton.mp h⟩
  · rename_i field hargument
    refine Or.inr ⟨field, hargument, ?_⟩
    cases hdistinct : call.distinct with
    | false =>
        rw [hdistinct] at h
        exact Or.inl ⟨rfl, List.mem_singleton.mp h⟩
    | true =>
        rw [hdistinct] at h
        exact Or.inr ⟨rfl, List.mem_singleton.mp h⟩
  · cases h

theorem argumentNames_cases (call : AggregateCall) :
    (call.argument = none ∧ call.argumentNames = [])
      ∨ exists name, call.argumentNames = [name] := by
  unfold argumentNames
  split
  · exact Or.inr ⟨_, rfl⟩
  · exact Or.inr ⟨_, rfl⟩
  · rename_i hnone
    exact Or.inl ⟨hnone, rfl⟩

def readArgument (name : String) : Argument × Bool :=
  if name = "*" then
    (.star, false)
  else if "DISTINCT ".toList <+: name.toList then
    (.field (String.ofList (name.toList.drop 9)), true)
  else
    (.field name, false)

namespace IsPlain

theorem continues_argument (h : call.IsPlain) {name : String} (hname : name ∈ call.argumentNames)
    {piece : List Char} (hpiece : piece ∈ textPieces name) : Continues piece := by
  rcases mem_argumentNames_cases hname with
    ⟨_, rfl⟩ | ⟨field, hfield, ⟨_, rfl⟩ | ⟨_, rfl⟩⟩
  · cases List.mem_singleton.mp hpiece
    exact ⟨by decide, Number.not_isNumeral_of_mem List.mem_cons_self (by decide)⟩
  · exact (h.field _ hfield).pieces piece hpiece
  · have hpieces : forall piece, piece ∈ textPieces field -> Continues piece :=
      (h.field field hfield).pieces
    have hstart : ',' ∉ "DISTINCT ".toList := by decide
    rcases textPieces_append hstart field with ⟨first, more, hsplit, hdistinct⟩
    rw [hsplit] at hpieces
    rw [hdistinct] at hpiece
    rcases List.mem_cons.mp hpiece with rfl | hmore
    · refine ⟨fun hmem => ?_, ?_⟩
      · rcases List.mem_append.mp hmem with hword | hfirst
        · exact absurd hword (by decide)
        · exact (hpieces first List.mem_cons_self).left hfirst
      · exact Number.not_isNumeral_of_mem (List.mem_append_left first List.mem_cons_self)
          (by decide)
    · exact hpieces piece (List.mem_cons_of_mem first hmore)

theorem readArgument_eq (h : call.IsPlain) {name : String} (hname : name ∈ call.argumentNames) :
    call.argument = some (readArgument name).1 ∧ call.distinct = (readArgument name).2 := by
  unfold readArgument
  rcases mem_argumentNames_cases hname with
    ⟨hstar, rfl⟩ | ⟨field, hfield, ⟨hplain, rfl⟩ | ⟨hdistinct, rfl⟩⟩
  · refine ⟨hstar, Bool.eq_false_iff.mpr (fun hdistinct => ?_)⟩
    rcases h.distinct hdistinct with ⟨field, hfield⟩
    cases hstar.symm.trans hfield
  · have hname := h.field _ hfield
    rw [if_neg hname.ne_star, if_neg hname.indistinct]
    exact ⟨hfield, hplain⟩
  · have hother : "DISTINCT " ++ field ≠ "*" := by
      intro heq
      have hfirst := congrArg (fun text => text.toList.head?) heq
      simp at hfirst
    rw [if_neg hother, if_pos (by simp)]
    simpa using And.intro hfield hdistinct

theorem argument_eq (h : call.IsPlain) (hother : other.IsPlain)
    (hnames : call.argumentNames = other.argumentNames) :
    call.argument = other.argument ∧ call.distinct = other.distinct := by
  have hindistinct : forall {plain : AggregateCall}, plain.IsPlain -> plain.argument = none ->
      plain.distinct = false := by
    intro plain hplain hnone
    refine Bool.eq_false_iff.mpr (fun hdistinct => ?_)
    rcases hplain.distinct hdistinct with ⟨field, hfield⟩
    cases hnone.symm.trans hfield
  rcases argumentNames_cases call with ⟨hnone, hempty⟩ | ⟨name, hname⟩
  · rcases argumentNames_cases other with ⟨hnothing, _⟩ | ⟨name, hname⟩
    · rw [hnone, hnothing, hindistinct h hnone, hindistinct hother hnothing]
      exact ⟨rfl, rfl⟩
    · cases hempty.symm.trans (hnames.trans hname)
  · have hmem : name ∈ call.argumentNames := by
      rw [hname]
      exact List.mem_singleton_self name
    have hown := h.readArgument_eq hmem
    have hits := hother.readArgument_eq (hnames ▸ hmem)
    exact ⟨hown.left.trans hits.left.symm, hown.right.trans hits.right.symm⟩

variable (h : call.IsPlain) (hsound : forall value, value ∈ call.positional -> value.IsSound)

include h hsound

theorem isNumeral_positional {value : Literal} (hvalue : value ∈ call.positional) :
    value = .number value.render ∧ Number.IsNumeral value.render.toList := by
  rcases h.positional value hvalue with ⟨raw, rfl⟩
  exact ⟨rfl, hsound _ hvalue raw rfl⟩

theorem parts_ne_empty {part : String} (hpart : part ∈ call.parts) : part ≠ "" := by
  simp only [parts, List.mem_append, List.mem_map] at hpart
  rcases hpart with (hname | ⟨parameter, _, rfl⟩) | ⟨value, hvalue, rfl⟩
  · rcases mem_argumentNames_cases hname with
      ⟨_, rfl⟩ | ⟨field, hfield, ⟨_, rfl⟩ | ⟨_, rfl⟩⟩
    · decide
    · exact (h.field _ hfield).ne_empty
    · simp
  · simp [parameterText]
  · have hnumeral := (isNumeral_positional h hsound hvalue).right
    exact fun hempty => hnumeral.ne_nil (by rw [hempty]; rfl)

theorem flatMap_parts :
    (call.parts.map String.toList).flatMap (fun part => part.splitOn ',')
      = call.argumentNames.flatMap textPieces
        ++ (parameterPieces call.parameters
          ++ call.positional.map (fun value => value.render.toList)) := by
  have hnumbers : call.positional.flatMap (fun value => textPieces value.render)
      = call.positional.map (fun value => value.render.toList) := by
    rw [List.map_eq_flatMap]
    exact List.flatMap_congr (fun value hvalue =>
      textPieces_numeral (isNumeral_positional h hsound hvalue).right)
  rw [<- hnumbers, parts, List.flatMap_map, List.flatMap_append, List.flatMap_append,
    List.flatMap_map, List.flatMap_map, List.append_assoc]
  rfl

theorem head_positional (piece : List Char)
    (hpiece : (call.positional.map (fun value => value.render.toList)).head? = some piece) :
    Number.IsNumeral piece := by
  rcases List.mem_map.mp (List.mem_of_head? hpiece) with ⟨value, hvalue, rfl⟩
  exact (isNumeral_positional h hsound hvalue).right

theorem positional_eq :
    call.positional
      = (call.positional.map (fun value => value.render.toList)).map
          (fun cs => .number (String.ofList cs)) := by
  have hsame : forall value, value ∈ call.positional ->
      Literal.number (String.ofList value.render.toList) = value := by
    intro value hvalue
    rw [String.ofList_toList]
    exact (isNumeral_positional h hsound hvalue).left.symm
  have hall := List.map_congr_left hsame
  rw [List.map_map]
  exact (hall.trans (List.map_id _)).symm

end IsPlain

theorem argumentNames_of_pieces
    (heq : call.argumentNames.flatMap textPieces = other.argumentNames.flatMap textPieces) :
    call.argumentNames = other.argumentNames := by
  have hsome : forall name, textPieces name ≠ [] :=
    fun name => List.splitOn_ne_nil ',' name.toList
  rcases argumentNames_cases call with ⟨_, hnames⟩ | ⟨name, hnames⟩
  · rcases argumentNames_cases other with ⟨_, hothers⟩ | ⟨its, hothers⟩
    · rw [hnames, hothers]
    · rw [hnames, hothers, List.flatMap_singleton] at heq
      exact absurd heq.symm (hsome its)
  · rcases argumentNames_cases other with ⟨_, hothers⟩ | ⟨its, hothers⟩
    · rw [hnames, hothers, List.flatMap_singleton] at heq
      exact absurd heq (hsome name)
    · rw [hnames, hothers, List.flatMap_singleton, List.flatMap_singleton] at heq
      rw [hnames, hothers, textPieces_injective heq]

section

variable (h : call.IsPlain) (hsound : forall value, value ∈ call.positional -> value.IsSound)
  (hother : other.IsPlain) (hsounds : forall value, value ∈ other.positional -> value.IsSound)

include h hsound hother hsounds

/-- A canonical name has the capitals of the function before its first parenthesis, and the
parts of the call between commas behind it. -/
theorem pieces_of_canonicalName (heq : call.canonicalName = other.canonicalName) :
    Text.upper call.function = Text.upper other.function
      ∧ (call.parts.map String.toList).flatMap (fun part => part.splitOn ',')
        = (other.parts.map String.toList).flatMap (fun part => part.splitOn ',') := by
  have hmark : forall {plain : AggregateCall}, plain.IsPlain ->
      '(' ∉ (Text.upper plain.function).toList := by
    intro plain hplain hmem
    rw [Text.toList_upper_of_ascii (fun c hc => (hplain.function c hc).left)] at hmem
    rcases List.mem_map.mp hmem with ⟨c, hc, hparen⟩
    exact Text.toUpper_ne_of_ascii (hplain.function c hc).left (hplain.function c hc).right hparen
  have hlists := congrArg String.toList heq
  rw [toList_canonicalName, toList_canonicalName] at hlists
  rcases Text.append_cons_inj (hmark h) (hmark hother) hlists with ⟨hfunction, hrest⟩
  have hinner := List.append_cancel_right hrest
  refine ⟨String.toList_inj.mp hfunction, ?_⟩
  have hnonempty : forall {plain : AggregateCall}, plain.IsPlain ->
      (forall value, value ∈ plain.positional -> value.IsSound) ->
      forall part, part ∈ plain.parts.map String.toList -> part ≠ [] := by
    intro plain hplain hliterals part hpart
    rcases List.mem_map.mp hpart with ⟨text, htext, rfl⟩
    simpa using hplain.parts_ne_empty hliterals htext
  by_cases hparts : call.parts.map String.toList = []
  · by_cases hothers : other.parts.map String.toList = []
    · rw [hparts, hothers]
    · rw [hparts] at hinner
      exact absurd hinner.symm (Text.intercalate_ne_nil hothers (hnonempty hother hsounds))
  · by_cases hothers : other.parts.map String.toList = []
    · rw [hothers] at hinner
      exact absurd hinner (Text.intercalate_ne_nil hparts (hnonempty h hsound))
    · rw [<- Text.splitOn_intercalate_flatMap hparts, <- Text.splitOn_intercalate_flatMap hothers,
        hinner]

theorem isAlike_of_canonicalName (heq : call.canonicalName = other.canonicalName) :
    call.IsAlike other := by
  rcases pieces_of_canonicalName h hsound hother hsounds heq with ⟨hfunction, hpieces⟩
  rw [h.flatMap_parts hsound, hother.flatMap_parts hsounds] at hpieces
  -- The argument goes up to the first key or number, and the parameters up to the first number.
  have hgoes : forall {plain : AggregateCall}, plain.IsPlain ->
      forall piece, piece ∈ plain.argumentNames.flatMap textPieces -> Continues piece := by
    intro plain hplain piece hpiece
    rcases List.mem_flatMap.mp hpiece with ⟨name, hname, hmem⟩
    exact hplain.continues_argument hname hmem
  have hstop := head_parameterPieces h.parameter
    (fun piece hpiece hcontinues => hcontinues.right (h.head_positional hsound piece hpiece))
  have hstops := head_parameterPieces hother.parameter
    (fun piece hpiece hcontinues => hcontinues.right (hother.head_positional hsounds piece hpiece))
  rcases Text.append_inj_of_stops Continues (hgoes h) (hgoes hother) hstop hstops hpieces with
    ⟨harguments, hrest⟩
  rcases Text.append_inj_of_stops (fun piece => ¬ Number.IsNumeral piece)
    (fun _ => not_isNumeral_parameterPieces h.parameter)
    (fun _ => not_isNumeral_parameterPieces hother.parameter)
    (fun piece hpiece => not_not_intro (h.head_positional hsound piece hpiece))
    (fun piece hpiece => not_not_intro (hother.head_positional hsounds piece hpiece)) hrest with
    ⟨hparameters, hnumbers⟩
  have hargument := h.argument_eq hother (argumentNames_of_pieces harguments)
  refine ⟨?_, hargument.left, hargument.right, ?_, ?_⟩
  · exact Text.lower_eq_of_upper_eq (fun c hc => (h.function c hc).left)
      (fun c hc => (hother.function c hc).left) hfunction
  · exact parameters_of_pieces h.parameter hother.parameter hparameters
  · rw [h.positional_eq hsound, hother.positional_eq hsounds, hnumbers]

end

end AggregateCall

end Sql
end Rollup
