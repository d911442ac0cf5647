import Mathlib.Algebra.Group.Nat.Even
import Mathlib.Data.List.Basic
import Mathlib.Data.List.TakeWhile
import Mathlib.Data.String.Basic
import Rollup.Calendar.Writing
import Rollup.Proofs.Numeral

/-!
# Quoted text in patterns

A text is quoted by doubling its quotes and putting it between two more. The scanner ends a
literal at the first quote, so that of a doubled quote inside the literal the first half closes
it and the second half opens the next one. The text is kept if and only if it has a character
other than a quote, and quotes only before the first and after the last of these.
-/

namespace Rollup
namespace Calendar

/-!
# Scanning
-/

def following (parts : List PatternPart) (result : Except Char (List PatternPart)) :
    Except Char (List PatternPart) :=
  result.map (fun later => parts ++ later)

theorem following_ok (parts later : List PatternPart) :
    following parts (.ok later) = .ok (parts ++ later) :=
  rfl

theorem following_following (first second : List PatternPart)
    (result : Except Char (List PatternPart)) :
    following first (following second result) = following (first ++ second) result := by
  cases result with
  | error letter => rfl
  | ok later => rw [following_ok, following_ok, following_ok, List.append_assoc]

theorem following_nil (result : Except Char (List PatternPart)) : following [] result = result := by
  cases result <;> rfl

theorem following_bind (parts : List PatternPart) (first second : Except Char (List PatternPart)) :
    (following parts first >>= fun earlier => following earlier second)
      = following parts (first >>= fun earlier => following earlier second) := by
  cases first with
  | error letter => rfl
  | ok earlier => exact (following_following parts earlier second).symm

section Equations

variable {c : Char} {rest : List Char}

theorem patternParts_nil : patternParts [] = .ok [] := by
  rw [patternParts]

theorem patternParts_doubled :
    patternParts ('\'' :: '\'' :: rest) = following [.literal '\''] (patternParts rest) := by
  rw [patternParts]
  rfl

theorem patternParts_quote {text : List Char} (hne : text ≠ []) (htext : '\'' ∉ text) :
    patternParts ('\'' :: (text ++ '\'' :: rest))
      = following (text.map literalPart) (patternParts rest) := by
  have hclass : forall d, d ∈ text -> (d != '\'') = true := by
    intro d hd
    rw [bne_iff_ne]
    rintro rfl
    exact htext hd
  have hstop : forall d, ('\'' :: rest).head? = some d -> (d != '\'') = false := by
    rintro d ⟨⟩
    rfl
  rcases Number.span_append hclass hstop with ⟨htake, hdrop⟩
  rw [patternParts]
  · rw [htake, hdrop]
    rfl
  · intro tail heq
    cases text with
    | nil => exact hne rfl
    | cons d text =>
        cases heq
        exact htext List.mem_cons_self

theorem patternParts_letter (hc : c.isAlpha = true) :
    patternParts (c :: rest)
      = (fieldOf? c ((rest.takeWhile (fun d => d == c)).length + 1)).elim (.error c) (fun kind =>
          following [.field kind] (patternParts (rest.dropWhile (fun d => d == c)))) := by
  have hquote : c ≠ '\'' := by
    rintro rfl
    cases hc
  rw [patternParts, if_pos hc]
  · cases fieldOf? c ((rest.takeWhile (fun d => d == c)).length + 1) <;> rfl
  · exact fun _ heq => absurd heq hquote
  · exact fun heq => absurd heq hquote

theorem patternParts_other (hc : c.isAlpha = false) (hquote : c ≠ '\'') :
    patternParts (c :: rest) = following [literalPart c] (patternParts rest) := by
  rw [patternParts, if_neg (Bool.not_eq_true _ ▸ hc)]
  · rfl
  · exact fun _ heq => absurd heq hquote
  · exact fun heq => absurd heq hquote

end Equations

/-!
# Patterns before a quote
-/

/-- No literal is open at the end: quotes come in pairs. -/
def IsClosed (pattern : List Char) : Prop :=
  Even (pattern.count '\'')

theorem isClosed_cons_of_ne {c : Char} {rest : List Char} (h : IsClosed (c :: rest))
    (hc : c ≠ '\'') : IsClosed rest := by
  rw [IsClosed, List.count_cons_of_ne hc] at h
  exact h

theorem isClosed_of_append {text rest : List Char} (h : IsClosed (text ++ rest))
    (htext : '\'' ∉ text) : IsClosed rest := by
  rw [IsClosed, List.count_append, List.count_eq_zero_of_not_mem htext, Nat.zero_add] at h
  exact h

theorem exists_closing {rest : List Char} (h : IsClosed ('\'' :: rest)) :
    exists text later, rest = text ++ '\'' :: later ∧ '\'' ∉ text ∧ IsClosed later := by
  have hmem : '\'' ∈ rest := by
    by_contra hnot
    rw [IsClosed, List.count_cons_self, List.count_eq_zero_of_not_mem hnot] at h
    exact absurd h (by decide)
  rcases List.eq_append_cons_of_mem hmem with ⟨text, later, rfl, htext⟩
  refine ⟨text, later, rfl, htext, ?_⟩
  rw [IsClosed, List.count_cons_self, List.count_append, List.count_cons_self,
    List.count_eq_zero_of_not_mem htext, Nat.zero_add, Nat.add_assoc, Nat.even_add] at h
  exact h.mpr (by decide)

theorem exists_letterRun (c : Char) (rest : List Char) :
    exists run later, rest = run ++ later ∧ (forall d, d ∈ run -> d = c)
      ∧ forall d, later.head? = some d -> d ≠ c := by
  refine ⟨rest.takeWhile (fun d => d == c), rest.dropWhile (fun d => d == c),
    List.takeWhile_append_dropWhile.symm, ?_, ?_⟩
  · intro d hd
    have hclass := List.mem_takeWhile_imp hd
    exact beq_iff_eq.mp hclass
  · intro d hd
    have hnot := List.head?_dropWhile_not (fun d => d == c) rest
    rw [hd] at hnot
    simpa using hnot

theorem patternParts_run {c : Char} {run later : List Char} (hc : c.isAlpha = true)
    (hrun : forall d, d ∈ run -> d = c) (hlater : forall d, later.head? = some d -> d ≠ c) :
    patternParts (c :: (run ++ later))
      = (fieldOf? c (run.length + 1)).elim (.error c) (fun kind =>
          following [.field kind] (patternParts later)) := by
  have hclass : forall d, d ∈ run -> (d == c) = true := fun d hd => beq_iff_eq.mpr (hrun d hd)
  have hstop : forall d, later.head? = some d -> (d == c) = false :=
    fun d hd => beq_eq_false_iff_ne.mpr (hlater d hd)
  rcases Number.span_append hclass hstop with ⟨htake, hdrop⟩
  rw [patternParts_letter hc, htake, hdrop]

theorem patternParts_append {before : List Char} (h : IsClosed before) (rest : List Char) :
    patternParts (before ++ '\'' :: rest)
      = patternParts before >>= fun first => following first (patternParts ('\'' :: rest)) := by
  -- The scanner takes a literal or a run of one letter at once, so the induction is on the length.
  induction hlength : before.length using Nat.strong_induction_on generalizing before with
  | _ length ih =>
      cases before with
      | nil =>
          rw [patternParts_nil]
          exact (following_nil _).symm
      | cons c before =>
          rw [List.length_cons] at hlength
          by_cases hquote : c = '\''
          · subst hquote
            rcases exists_closing h with ⟨text, later, rfl, htext, hlater⟩
            rw [List.length_append, List.length_cons] at hlength
            have hrest := ih later.length (by omega) hlater rfl
            rw [List.cons_append, List.append_assoc, List.cons_append]
            cases text with
            | nil =>
                rw [List.nil_append, List.nil_append, patternParts_doubled, patternParts_doubled,
                  hrest, following_bind]
            | cons d text =>
                rw [patternParts_quote (List.cons_ne_nil d text) htext,
                  patternParts_quote (List.cons_ne_nil d text) htext, hrest, following_bind]
          have hclosed := isClosed_cons_of_ne h hquote
          cases hc : c.isAlpha with
          | false =>
              have hrest := ih before.length (by omega) hclosed rfl
              rw [List.cons_append, patternParts_other hc hquote, patternParts_other hc hquote,
                hrest, following_bind]
          | true =>
              rcases exists_letterRun c before with ⟨run, later, rfl, hrun, hlater⟩
              have hnot : '\'' ∉ run := fun hmem => hquote (hrun _ hmem).symm
              rw [List.length_append] at hlength
              have hrest := ih later.length (by omega) (isClosed_of_append hclosed hnot) rfl
              -- The quote after the pattern ends a run of letters as the end of the pattern does.
              have hstop : forall d, (later ++ '\'' :: rest).head? = some d -> d ≠ c := by
                intro d hd
                cases later with
                | nil =>
                    cases hd
                    exact fun heq => hquote heq.symm
                | cons e later => exact hlater d hd
              rw [List.cons_append, List.append_assoc, patternParts_run hc hrun hstop,
                patternParts_run hc hrun hlater]
              cases fieldOf? c (run.length + 1) with
              | none => rfl
              | some kind => rw [Option.elim_some, Option.elim_some, hrest, following_bind]

/-!
# Quoted text
-/

def doubled (text : List Char) : List Char :=
  text.flatMap (fun c => if c = '\'' then ['\'', '\''] else [c])

def quoted (text : List Char) : List Char :=
  '\'' :: (doubled text ++ ['\''])

/-- What the scanner makes of a text that is quoted. Inside a literal it takes a doubled quote for
the end of one literal and the start of the next, outside for a quote. -/
def heard : Bool -> List Char -> List Char
  | true, [] => []
  | false, [] => ['\'']
  | isInside, c :: text =>
      if c = '\'' then
        if isInside then heard false text else '\'' :: heard false text
      else
        c :: heard true text

section Heard

variable {isInside : Bool} {c : Char} {text : List Char}

theorem doubled_quote : doubled ('\'' :: text) = '\'' :: '\'' :: doubled text :=
  rfl

theorem doubled_cons (hc : c ≠ '\'') : doubled (c :: text) = c :: doubled text := by
  rw [doubled, List.flatMap_cons, if_neg hc]
  rfl

theorem heard_inside_quote : heard true ('\'' :: text) = heard false text :=
  rfl

theorem heard_outside_quote : heard false ('\'' :: text) = '\'' :: heard false text :=
  rfl

theorem heard_cons (hc : c ≠ '\'') : heard isInside (c :: text) = c :: heard true text := by
  cases isInside <;> exact if_neg hc

end Heard

/-- The scanner before the quotes of a text, and inside a literal with some text already. -/
theorem patternParts_heard (text after : List Char) :
    patternParts ('\'' :: (doubled text ++ '\'' :: after))
        = following ((heard false text).map literalPart) (patternParts after)
      ∧ forall earlier, earlier ≠ [] -> '\'' ∉ earlier ->
        patternParts ('\'' :: (earlier ++ (doubled text ++ '\'' :: after)))
          = following ((earlier ++ heard true text).map literalPart) (patternParts after) := by
  have hliteral : literalPart '\'' = .literal '\'' := by decide
  induction text with
  | nil =>
      constructor
      · exact patternParts_doubled
      · intro earlier hne hquote
        exact (List.append_nil earlier).symm ▸ patternParts_quote hne hquote
  | cons c text ih =>
      by_cases hc : c = '\''
      · subst hc
        rw [doubled_quote, heard_inside_quote, heard_outside_quote]
        constructor
        · rw [List.cons_append, List.cons_append, patternParts_doubled, ih.left,
            following_following, List.map_cons, hliteral]
          rfl
        · intro earlier hne hquote
          rw [List.cons_append, List.cons_append, patternParts_quote hne hquote, ih.left,
            following_following, List.map_append]
      · rw [doubled_cons hc, heard_cons hc, heard_cons hc]
        constructor
        · exact ih.right [c] (List.cons_ne_nil c []) (by simpa using Ne.symm hc)
        · intro earlier hne hquote
          have hmore := ih.right (earlier ++ [c]) (by simp) (by simp [hquote, Ne.symm hc])
          rw [List.append_assoc, List.append_assoc] at hmore
          exact hmore

theorem patternParts_quoted (text after : List Char) :
    patternParts (quoted text ++ after)
      = following ((heard false text).map literalPart) (patternParts after) := by
  rw [quoted, List.cons_append, List.append_assoc]
  exact (patternParts_heard text after).left

/-!
# Text that is kept
-/

/-- Quotes stand only before and after the other characters, of which there is one. -/
def HasOuterQuotes (text : List Char) : Prop :=
  exists before body after, text = List.replicate before '\'' ++ (body ++ List.replicate after '\'')
    ∧ body ≠ [] ∧ '\'' ∉ body

theorem heard_replicate (count : Nat) (text : List Char) :
    heard false (List.replicate count '\'' ++ text)
      = List.replicate count '\'' ++ heard false text := by
  induction count with
  | zero => rfl
  | succ count ih =>
      rw [List.replicate_succ, List.cons_append, heard_outside_quote, ih, List.cons_append]

theorem heard_append {isInside : Bool} {body : List Char} (hne : body ≠ []) (hbody : '\'' ∉ body)
    (text : List Char) : heard isInside (body ++ text) = body ++ heard true text := by
  induction body generalizing isInside with
  | nil => exact absurd rfl hne
  | cons c body ih =>
      rw [List.mem_cons, not_or] at hbody
      rw [List.cons_append, heard_cons (Ne.symm hbody.left), List.cons_append]
      cases body with
      | nil => rfl
      | cons d body => rw [ih (List.cons_ne_nil d body) hbody.right]

theorem heard_trailing (count : Nat) :
    heard true (List.replicate count '\'') = List.replicate count '\'' := by
  cases count with
  | zero => rfl
  | succ count =>
      have houtside := heard_replicate count []
      rw [List.append_nil] at houtside
      rw [List.replicate_succ, heard_inside_quote, houtside, <- List.replicate_succ,
        List.replicate_succ']
      rfl

theorem HasOuterQuotes.heard_eq {text : List Char} (h : HasOuterQuotes text) :
    heard false text = text := by
  rcases h with ⟨before, body, after, rfl, hne, hbody⟩
  rw [heard_replicate, heard_append hne hbody, heard_trailing]

theorem eq_replicate_of_heard {text : List Char} (h : heard false text = '\'' :: text) :
    exists count, text = List.replicate count '\'' := by
  induction text with
  | nil => exact ⟨0, rfl⟩
  | cons c text ih =>
      by_cases hc : c = '\''
      · subst hc
        rw [heard_outside_quote] at h
        rcases ih (List.tail_eq_of_cons_eq h) with ⟨count, rfl⟩
        exact ⟨count + 1, rfl⟩
      · rw [heard_cons hc] at h
        exact absurd (List.head_eq_of_cons_eq h) hc

theorem exists_body_of_heard {text : List Char} (h : heard true text = text) :
    exists body count, text = body ++ List.replicate count '\'' ∧ '\'' ∉ body := by
  induction text with
  | nil => exact ⟨[], 0, rfl, List.not_mem_nil⟩
  | cons c text ih =>
      by_cases hc : c = '\''
      · subst hc
        rcases eq_replicate_of_heard h with ⟨count, rfl⟩
        exact ⟨[], count + 1, rfl, List.not_mem_nil⟩
      · rw [heard_cons hc] at h
        rcases ih (List.tail_eq_of_cons_eq h) with ⟨body, count, rfl, hbody⟩
        exact ⟨c :: body, count, rfl, by simp [hbody, Ne.symm hc]⟩

theorem hasOuterQuotes_of_heard {text : List Char} (h : heard false text = text) :
    HasOuterQuotes text := by
  induction text with
  | nil => cases h
  | cons c text ih =>
      by_cases hc : c = '\''
      · subst hc
        rw [heard_outside_quote] at h
        rcases ih (List.tail_eq_of_cons_eq h) with ⟨before, body, after, rfl, hne, hbody⟩
        exact ⟨before + 1, body, after, rfl, hne, hbody⟩
      · rw [heard_cons hc] at h
        rcases exists_body_of_heard (List.tail_eq_of_cons_eq h) with ⟨body, count, rfl, hbody⟩
        exact ⟨0, c :: body, count, rfl, List.cons_ne_nil c body, by simp [hbody, Ne.symm hc]⟩

theorem literalPart_injective : Function.Injective literalPart := by
  intro c d h
  unfold literalPart at h
  split at h
  · split at h <;> cases h
    rfl
  · split at h <;> cases h
    rfl

/-!
# Writing
-/

theorem write_append (instant : Instant) (first last : List PatternPart) :
    instant.write (first ++ last) = instant.write first ++ instant.write last := by
  unfold Instant.write
  rw [List.map_append, String.join_eq, String.join_eq, String.join_eq, List.map_append,
    List.flatten_append, String.ofList_append]

theorem writePart_literalPart (instant : Instant) (c : Char) :
    instant.writePart (literalPart c) = String.singleton c := by
  unfold literalPart
  split <;> rfl

theorem write_literals (instant : Instant) (text : List Char) :
    instant.write (text.map literalPart) = String.ofList text := by
  have hparts : (text.map literalPart).map instant.writePart = text.map String.singleton := by
    rw [List.map_map]
    exact List.map_congr_left (fun c _ => writePart_literalPart instant c)
  have hchars : (text.map String.singleton).map String.toList = text.map (fun c => [c]) := by
    rw [List.map_map]
    exact List.map_congr_left (fun c _ => String.toList_singleton c)
  unfold Instant.write
  rw [hparts, String.join_eq, hchars, <- List.flatMap_def, List.flatMap_singleton']

theorem format_of_patternParts (instant : Instant) {pattern : List Char} {parts : List PatternPart}
    (h : patternParts pattern = .ok parts) :
    instant.format (some (String.ofList pattern)) = .ok (instant.write parts) := by
  unfold Instant.format parsePattern
  dsimp only
  rw [String.toList_ofList, h]
  rfl

/-- The quoted text stands for itself: alone, and after any pattern that leaves no literal open and
before any other. -/
structure IsVerbatim (text : List Char) : Prop where
  alone : patternParts (quoted text) = .ok (text.map literalPart)
  between : forall before after, IsClosed before ->
    patternParts (before ++ (quoted text ++ after)) = (do
      let first <- patternParts before
      let last <- patternParts after
      return first ++ (text.map literalPart ++ last))
  written : forall (instant : Instant) (before after : List Char) (first last : List PatternPart),
    IsClosed before -> patternParts before = .ok first -> patternParts after = .ok last ->
      instant.format (some (String.ofList (before ++ (quoted text ++ after))))
        = .ok (instant.write first ++ (String.ofList text ++ instant.write last))

theorem patternParts_between {before : List Char} (h : IsClosed before) (text after : List Char) :
    patternParts (before ++ (quoted text ++ after)) = (do
      let first <- patternParts before
      let last <- patternParts after
      return first ++ ((heard false text).map literalPart ++ last)) := by
  rw [quoted, List.cons_append, patternParts_append h, <- List.cons_append, <- quoted,
    patternParts_quoted]
  cases patternParts before with
  | error letter => rfl
  | ok first =>
      cases patternParts after with
      | error letter => rfl
      | ok last => rfl

/-- Quoted text is always read as literal text. It is the text itself if and only if all quotes in
it are before or after the other characters, of which there is one. -/
theorem isVerbatim_iff (text : List Char) :
    (IsVerbatim text <-> HasOuterQuotes text)
      ∧ patternParts (quoted text) = .ok ((heard false text).map literalPart)
      ∧ forall before after, IsClosed before ->
        patternParts (before ++ (quoted text ++ after)) = (do
          let first <- patternParts before
          let last <- patternParts after
          return first ++ ((heard false text).map literalPart ++ last)) := by
  have halone : patternParts (quoted text) = .ok ((heard false text).map literalPart) := by
    have hquoted := patternParts_quoted text []
    rw [List.append_nil, patternParts_nil, following_ok, List.append_nil] at hquoted
    exact hquoted
  refine ⟨⟨?_, ?_⟩, halone, fun before after h => patternParts_between h text after⟩
  · intro h
    have hparts := Except.ok.inj (halone.symm.trans h.alone)
    exact hasOuterQuotes_of_heard (literalPart_injective.list_map hparts)
  · intro h
    refine ⟨?_, ?_, ?_⟩
    · rw [halone, h.heard_eq]
    · intro before after hbefore
      rw [patternParts_between hbefore, h.heard_eq]
    · intro instant before after first last hbefore hfirst hlast
      have hparts := patternParts_between hbefore text after
      rw [hfirst, hlast, h.heard_eq] at hparts
      rw [format_of_patternParts instant hparts, write_append, write_append, write_literals]

/-- A quote between other characters is lost, and a text of quotes alone gets one more. -/
theorem format_innerQuotes :
    quoted "o'clock".toList = "'o''clock'".toList
      ∧ ({ seconds := 0, nanos := 0 } : Instant).format (some "'o''clock'") = .ok "oclock"
      ∧ quoted "'".toList = "''''".toList
      ∧ ({ seconds := 0, nanos := 0 } : Instant).format (some "''''") = .ok "''" := by
  decide +kernel

end Calendar
end Rollup
