import Mathlib.Data.List.TakeWhile
import Rollup.Proofs.Sql.Shape

/-!
# Cutting a text into lexemes

The rules for tokens are stated apart from the scanner: a token has source forms, and a
form fits where it stands at the front of a text. The scanner takes the longest form that
fits. Main statement: a text that is cut consists of the source forms of its lexemes and of
separators, with nothing lost, and where a text cannot be cut no form fits at the place of
the error.
-/

namespace Rollup
namespace Sql

/-!
# Source forms
-/

def Comparison.spellings : Comparison -> List String
  | .eq => ["=", "=="]
  | .notEq => ["!=", "<>"]
  | .lt => ["<"]
  | .lte => ["<="]
  | .gt => [">"]
  | .gte => [">="]

inductive IsForm : Token -> List Char -> Prop
  | word {cs : List Char} (h : IsWord cs) : IsForm (.word (String.ofList cs)) cs
  | number {cs : List Char} (h : Number.IsNumeral cs) : IsForm (.number (String.ofList cs)) cs
  | quotedText (cs : List Char) :
      IsForm (.quotedText (String.ofList cs)) ('\'' :: doubleQuotes cs ++ ['\''])
  | quotedName {mark : Char} {cs : List Char} (hmark : mark = '"' ∨ mark = '`') (h : mark ∉ cs) :
      IsForm (.quotedName (String.ofList cs)) (mark :: cs ++ [mark])
  | comparison {op : Comparison} {spelling : String} (h : spelling ∈ op.spellings) :
      IsForm (.comparison op) spelling.toList
  | star : IsForm .star ['*']
  | comma : IsForm .comma [',']
  | leftParen : IsForm .leftParen ['(']
  | rightParen : IsForm .rightParen [')']
  | slash : IsForm .slash ['/']
  | semicolon : IsForm .semicolon [';']

/-- A form with `rest` behind it. A quoted text ends at the first mark that is not doubled. -/
structure Fits (token : Token) (form rest : List Char) : Prop where
  isForm : IsForm token form
  closed : forall text, token = .quotedText text -> rest.head? ≠ some '\''

/-- No form that fits at the front of the same text is longer. -/
structure IsLongest (token : Token) (form rest : List Char) : Prop where
  fits : Fits token form rest
  longest : forall other shape tail, form ++ rest = shape ++ tail -> Fits other shape tail ->
    shape.length <= form.length

/-!
# What a scan takes is a form
-/

theorem doubleQuotes_cons_of_ne {c : Char} (h : c ≠ '\'') (cs : List Char) :
    doubleQuotes (c :: cs) = c :: doubleQuotes cs := by
  rw [doubleQuotes, List.flatMap_cons, if_neg h]
  rfl

theorem scanText?_eq_some {seen cs found rest : List Char}
    (h : scanText? seen cs = some (found, rest)) :
    exists body, found = body.reverse ++ seen ∧ cs = doubleQuotes body ++ '\'' :: rest
      ∧ rest.head? ≠ some '\'' := by
  fun_induction scanText? seen cs with
  | case1 => cases h
  | case2 seen more ih =>
      rcases ih h with ⟨body, rfl, rfl, hrest⟩
      exact ⟨'\'' :: body, by simp, rfl, hrest⟩
  | case3 seen c more hdoubled hc =>
      rw [beq_iff_eq] at hc
      subst hc
      cases h
      refine ⟨[], rfl, rfl, ?_⟩
      intro hhead
      rcases List.head?_eq_some_iff.mp hhead with ⟨tail, htail⟩
      exact hdoubled tail rfl htail
  | case4 seen c more hdoubled hc ih =>
      rcases ih h with ⟨body, rfl, rfl, hrest⟩
      rw [beq_iff_eq] at hc
      refine ⟨c :: body, by simp, ?_, hrest⟩
      rw [doubleQuotes_cons_of_ne hc, List.cons_append]

theorem scanQuoted?_eq_some {mark : Char} {cs text rest : List Char}
    (h : scanQuoted? mark cs = some (text, rest)) : mark ∉ text ∧ cs = text ++ mark :: rest := by
  unfold scanQuoted? at h
  split at h
  · cases h
  · rename_i c more hdrop
    cases h
    have hc : c = mark := by
      have hhead := List.head?_dropWhile_not (fun c => c != mark) cs
      rw [hdrop] at hhead
      simpa using hhead
    constructor
    · intro hmark
      have htaken := List.mem_takeWhile_imp hmark
      simp at htaken
    · rw [hc] at hdrop
      rw [<- hdrop, List.takeWhile_append_dropWhile]

theorem append_scanFraction (cs : List Char) : (scanFraction cs).1 ++ (scanFraction cs).2 = cs := by
  unfold scanFraction
  split
  · split
    · rfl
    · rw [List.cons_append, List.takeWhile_append_dropWhile]
  · rfl

theorem append_scanNumber {cs number rest : List Char}
    (h : scanNumber? cs = some (number, rest)) : cs = number ++ rest := by
  unfold scanNumber? at h
  split at h
  rename_i sign unsigned hsplit
  dsimp only at h
  have hsign : cs = sign ++ unsigned := by
    split at hsplit
    · cases hsplit
      rfl
    · cases hsplit
      rfl
  split at h
  · cases h
  · cases h
    rw [hsign, List.append_assoc, List.append_assoc, append_scanFraction,
      List.takeWhile_append_dropWhile]

theorem isForm_scanNumeric {cs rest : List Char} {token : Token}
    (h : scanNumeric? cs = some (token, rest)) :
    exists form, cs = form ++ rest ∧ IsForm token form := by
  unfold scanNumeric? at h
  split at h
  · cases h
  · rename_i number after hnumber
    have hnumeral := isNumeral_scanNumber hnumber
    rw [append_scanNumber hnumber]
    split at h
    · cases h
      exact ⟨number, rfl, .number hnumeral⟩
    · rename_i hletters
      cases h
      refine ⟨number ++ after.takeWhile Text.isAlphabetic, ?_,
        .word (.quantity hnumeral hletters ?_)⟩
      · rw [List.append_assoc, List.takeWhile_append_dropWhile]
      · exact List.all_eq_true.mp (List.all_takeWhile ..)

theorem isForm_scanSymbol {cs rest : List Char} {token : Token}
    (h : scanSymbol? cs = some (token, rest)) :
    exists form, cs = form ++ rest ∧ IsForm token form := by
  have hop : forall {op : Comparison} (spelling : String), spelling ∈ op.spellings ->
      exists form, spelling.toList ++ rest = form ++ rest ∧ IsForm (.comparison op) form :=
    fun spelling hspelling => ⟨spelling.toList, rfl, .comparison hspelling⟩
  unfold scanSymbol? at h
  split at h <;> cases h
  · exact hop "<=" (by decide)
  · exact hop ">=" (by decide)
  · exact hop "<>" (by decide)
  · exact hop "!=" (by decide)
  · exact hop "==" (by decide)
  · exact hop "=" (by decide)
  · exact hop "<" (by decide)
  · exact hop ">" (by decide)
  · exact ⟨['*'], rfl, .star⟩
  · exact ⟨[','], rfl, .comma⟩
  · exact ⟨['('], rfl, .leftParen⟩
  · exact ⟨[')'], rfl, .rightParen⟩
  · exact ⟨['/'], rfl, .slash⟩
  · exact ⟨[';'], rfl, .semicolon⟩

theorem scan?_quote {cs rest : List Char} {token : Token}
    (h : scan? ('\'' :: cs) = some (token, rest)) :
    exists body, token = .quotedText (String.ofList body) ∧ cs = doubleQuotes body ++ '\'' :: rest
      ∧ rest.head? ≠ some '\'' := by
  change (scanText? [] cs).map _ = _ at h
  rcases Option.map_eq_some_iff.mp h with ⟨⟨found, after⟩, hscan, heq⟩
  cases heq
  rcases scanText?_eq_some hscan with ⟨body, rfl, hcs, hrest⟩
  refine ⟨body, ?_, hcs, hrest⟩
  rw [List.append_nil, List.reverse_reverse]

theorem isForm_scan {c : Char} {cs rest : List Char} {token : Token} (hc : c ≠ '\'')
    (h : scan? (c :: cs) = some (token, rest)) :
    exists form, c :: cs = form ++ rest ∧ IsForm token form := by
  rw [scan?, if_neg (by simpa using hc)] at h
  split at h
  · rename_i hmark
    rcases Option.map_eq_some_iff.mp h with ⟨⟨text, after⟩, hscan, heq⟩
    cases heq
    rcases scanQuoted?_eq_some hscan with ⟨hclosed, rfl⟩
    refine ⟨c :: text ++ [c], by simp, .quotedName ?_ hclosed⟩
    simpa using hmark
  split at h
  · rename_i found hnumeric
    cases h
    exact isForm_scanNumeric hnumeric
  split at h
  · rename_i hstart
    cases h
    refine ⟨c :: cs.takeWhile isWordChar, ?_, .word (.bare hstart ?_)⟩
    · rw [List.cons_append, List.takeWhile_append_dropWhile]
    · exact List.all_eq_true.mp (List.all_takeWhile ..)
  · exact isForm_scanSymbol h

theorem IsForm.head?_quotedText {text : String} {form : List Char}
    (h : IsForm (.quotedText text) form) : form.head? = some '\'' := by
  cases h
  rfl

theorem fits_scan {cs rest : List Char} {token : Token} (h : scan? cs = some (token, rest)) :
    exists form, cs = form ++ rest ∧ Fits token form rest := by
  cases cs with
  | nil => cases h
  | cons c cs =>
      by_cases hc : c = '\''
      · subst hc
        rcases scan?_quote h with ⟨body, rfl, rfl, hrest⟩
        exact ⟨'\'' :: doubleQuotes body ++ ['\''], by simp, .quotedText body, fun _ _ => hrest⟩
      · rcases isForm_scan hc h with ⟨form, hform, hisForm⟩
        refine ⟨form, hform, hisForm, ?_⟩
        rintro text rfl
        have hhead := congrArg List.head? hform
        rw [List.head?_append, hisForm.head?_quotedText] at hhead
        exact absurd (Option.some.inj hhead) hc

/-!
# A scan takes the longest form

A form that fits at the front of a text makes the scanner take at least as much. So where
the scanner finds nothing no form fits.
-/

theorem length_dropWhile_append_le {p : Char -> Bool} {cs : List Char}
    (h : forall c, c ∈ cs -> p c = true) (rest : List Char) :
    ((cs ++ rest).dropWhile p).length <= rest.length := by
  rw [List.dropWhile_append_of_pos h]
  exact length_dropWhile_le p rest

theorem takeWhile_append_ne_nil {p : Char -> Bool} {cs : List Char}
    (h : forall c, c ∈ cs -> p c = true) (hne : cs ≠ []) (rest : List Char) :
    (cs ++ rest).takeWhile p ≠ [] := by
  rw [List.takeWhile_append_of_pos h]
  exact List.append_ne_nil_of_left_ne_nil hne _

theorem unsigned_scanFraction {cs : List Char} (h : Number.IsUnsigned cs) (rest : List Char) :
    (cs ++ rest).takeWhile Char.isDigit ≠ []
      ∧ (scanFraction ((cs ++ rest).dropWhile Char.isDigit)).2.length <= rest.length := by
  cases h with
  | whole hdigits =>
      refine ⟨takeWhile_append_ne_nil hdigits.right hdigits.left rest, ?_⟩
      exact Nat.le_trans (scanFraction_length_le _) (length_dropWhile_append_le hdigits.right rest)
  | @fraction digits places hdigits hplaces =>
      rw [List.append_assoc, List.cons_append]
      refine ⟨takeWhile_append_ne_nil hdigits.right hdigits.left _, ?_⟩
      have hpoint : (digits ++ '.' :: (places ++ rest)).dropWhile Char.isDigit
          = '.' :: (places ++ rest) := by
        rw [List.dropWhile_append_of_pos hdigits.right]
        rfl
      have htaken := takeWhile_append_ne_nil hplaces.right hplaces.left rest
      rw [hpoint, scanFraction]
      split
      · exact absurd (by assumption) htaken
      · exact length_dropWhile_append_le hplaces.right rest

theorem scanNumber?_of_numeral {cs : List Char} (h : Number.IsNumeral cs) (rest : List Char) :
    exists number after, scanNumber? (cs ++ rest) = some (number, after)
      ∧ after.length <= rest.length := by
  cases h with
  | unsigned hcs =>
      rcases unsigned_scanFraction hcs rest with ⟨hne, hlength⟩
      rcases hcs.head_isDigit with ⟨c, more, rfl, hc⟩
      rw [scanNumber?]
      · dsimp only
        split
        · exact absurd (by assumption) hne
        · exact ⟨_, _, rfl, hlength⟩
      · intro _ heq
        rw [(List.cons.inj heq).left] at hc
        cases hc
  | negative hcs =>
      rcases unsigned_scanFraction hcs rest with ⟨hne, hlength⟩
      rw [List.cons_append, scanNumber?]
      dsimp only
      split
      · exact absurd (by assumption) hne
      · exact ⟨_, _, rfl, hlength⟩

theorem scanNumeric?_of_numeral {cs : List Char} (h : Number.IsNumeral cs) (rest : List Char) :
    exists token after, scanNumeric? (cs ++ rest) = some (token, after)
      ∧ after.length <= rest.length := by
  rcases scanNumber?_of_numeral h rest with ⟨number, after, hnumber, hlength⟩
  rw [scanNumeric?, hnumber]
  dsimp only
  split
  · exact ⟨_, _, rfl, hlength⟩
  · exact ⟨_, _, rfl, Nat.le_trans (length_dropWhile_le _ _) hlength⟩

theorem scanNumeric?_of_quantity {number letters : List Char} (hnumber : Number.IsNumeral number)
    (hne : letters ≠ []) (hletters : forall c, c ∈ letters -> Text.isAlphabetic c = true)
    (rest : List Char) :
    exists token after, scanNumeric? (number ++ letters ++ rest) = some (token, after)
      ∧ after.length <= rest.length := by
  have hstop : forall c, (letters ++ rest).head? = some c -> c.isDigit = false ∧ c ≠ '.' := by
    intro c hc
    rcases List.exists_cons_of_ne_nil hne with ⟨d, more, rfl⟩
    cases hc
    have hletter := hletters c List.mem_cons_self
    refine ⟨not_isDigit_of_isAlphabetic hletter, ?_⟩
    rintro rfl
    cases hletter
  have htaken := takeWhile_append_ne_nil hletters hne rest
  rw [scanNumeric?, List.append_assoc, scanNumber?_numeral hnumber hstop]
  dsimp only
  split
  · exact absurd (by assumption) htaken
  · exact ⟨_, _, rfl, length_dropWhile_append_le hletters rest⟩

theorem scan?_of_numeral_head {cs rest : List Char} (h : exists c more, cs = c :: more
      ∧ (c = '-' ∨ c.isDigit = true))
    (hscan : exists token after, scanNumeric? (cs ++ rest) = some (token, after)
      ∧ after.length <= rest.length) :
    exists token after, scan? (cs ++ rest) = some (token, after) ∧ after.length <= rest.length := by
  rcases h with ⟨c, more, rfl, hc⟩
  rcases hscan with ⟨token, after, hnumeric, hlength⟩
  exact ⟨token, after, scan?_numeric hc hnumeric, hlength⟩

theorem scan?_of_isWord {cs : List Char} (h : IsWord cs) (rest : List Char) :
    exists token after, scan? (cs ++ rest) = some (token, after) ∧ after.length <= rest.length := by
  cases h with
  | @bare c more start inner =>
      have hquotes : c ∉ ['\'', '"', '`'] := by
        simp only [List.mem_cons, List.not_mem_nil, or_false, not_or]
        exact ⟨ne_of_isWordStart start rfl, ne_of_isWordStart start rfl,
          ne_of_isWordStart start rfl⟩
      rw [List.cons_append, scan?_of_not_numeric hquotes (ne_of_isWordStart start rfl)
        (not_isDigit_of_isWordStart start), if_pos start]
      exact ⟨_, _, rfl, length_dropWhile_append_le inner rest⟩
  | quantity hnumber hne hletters =>
      refine scan?_of_numeral_head ?_ (scanNumeric?_of_quantity hnumber hne hletters rest)
      rcases numeral_head hnumber with ⟨c, more, rfl, hc⟩
      exact ⟨c, _, rfl, hc⟩

theorem scan?_quotedText (cs : List Char) {rest : List Char} (hrest : rest.head? ≠ some '\'') :
    scan? ('\'' :: doubleQuotes cs ++ ['\''] ++ rest)
      = some (.quotedText (String.ofList cs), rest) := by
  have hends : (Token.quotedText (String.ofList cs)).EndsAt rest := by
    intro c hc
    rw [Token.continues, beq_eq_false_iff_ne]
    rintro rfl
    exact hrest hc
  have hscan := scan?_source (Token.writable_quotedText _) hends
  rwa [Token.source, String.toList_ofList] at hscan

theorem scan?_quotedName {mark : Char} {cs : List Char} (hmark : mark = '"' ∨ mark = '`')
    (h : mark ∉ cs) (rest : List Char) :
    scan? (mark :: cs ++ [mark] ++ rest) = some (.quotedName (String.ofList cs), rest) := by
  have hscan : scan? (mark :: cs ++ [mark] ++ rest)
      = (scanQuoted? mark (cs ++ mark :: rest)).map
          (fun found => (.quotedName (String.ofList found.1), found.2)) := by
    rw [List.append_assoc, List.cons_append, List.singleton_append]
    rcases hmark with rfl | rfl <;> rfl
  rw [hscan, scanQuoted?_mark h]
  rfl

theorem exists_scan_comparison {c : Char} (hc : c ∈ ['=', '<', '>']) (rest : List Char) :
    exists found, scan? (c :: rest) = some found := by
  have hscan : scan? (c :: rest) = scanSymbol? (c :: rest) := by
    simp only [List.mem_cons, List.not_mem_nil, or_false] at hc
    rcases hc with rfl | rfl | rfl <;> rfl
  rw [hscan]
  unfold scanSymbol?
  split
  case h_15 => simp_all
  all_goals exact ⟨_, rfl⟩

theorem scan?_of_spelling {op : Comparison} {spelling : String} (h : spelling ∈ op.spellings)
    (rest : List Char) :
    exists token after, scan? (spelling.toList ++ rest) = some (token, after)
      ∧ after.length <= rest.length := by
  have hone : forall c, c ∈ ['=', '<', '>'] ->
      exists token after, scan? (c :: rest) = some (token, after)
        ∧ after.length <= rest.length := by
    intro c hc
    rcases exists_scan_comparison hc rest with ⟨⟨token, after⟩, hscan⟩
    exact ⟨token, after, hscan, Nat.le_of_lt_succ (scan?_length_lt hscan)⟩
  cases op <;> simp only [Comparison.spellings, List.mem_cons, List.not_mem_nil, or_false] at h
  case eq =>
    rcases h with rfl | rfl
    · exact hone '=' (by decide)
    · exact ⟨_, rest, rfl, Nat.le_refl _⟩
  case notEq => rcases h with rfl | rfl <;> exact ⟨_, rest, rfl, Nat.le_refl _⟩
  case lt =>
    subst h
    exact hone '<' (by decide)
  case gt =>
    subst h
    exact hone '>' (by decide)
  case lte | gte =>
    subst h
    exact ⟨_, rest, rfl, Nat.le_refl _⟩

theorem scan?_of_fits {token : Token} {form rest : List Char} (h : Fits token form rest) :
    exists found after, scan? (form ++ rest) = some (found, after)
      ∧ after.length <= rest.length := by
  rcases h with ⟨hform, hclosed⟩
  cases hform with
  | word hword => exact scan?_of_isWord hword rest
  | number hnumeral =>
      exact scan?_of_numeral_head (numeral_head hnumeral) (scanNumeric?_of_numeral hnumeral rest)
  | quotedText cs => exact ⟨_, rest, scan?_quotedText cs (hclosed _ rfl), Nat.le_refl _⟩
  | quotedName hmark hcs => exact ⟨_, rest, scan?_quotedName hmark hcs rest, Nat.le_refl _⟩
  | comparison hspelling => exact scan?_of_spelling hspelling rest
  | star | comma | leftParen | rightParen | slash | semicolon =>
      exact ⟨_, rest, rfl, Nat.le_refl _⟩

theorem isLongest_scan {cs rest : List Char} {token : Token} (h : scan? cs = some (token, rest)) :
    exists form, cs = form ++ rest ∧ IsLongest token form rest := by
  rcases fits_scan h with ⟨form, rfl, hfits⟩
  refine ⟨form, rfl, hfits, ?_⟩
  intro other shape tail htext hother
  rcases scan?_of_fits hother with ⟨found, after, hscan, hlength⟩
  rw [<- htext, h] at hscan
  cases hscan
  have htotal := congrArg List.length htext
  rw [List.length_append, List.length_append] at htotal
  omega

theorem not_fits_of_scan {cs : List Char} (h : scan? cs = none) {token : Token}
    {form rest : List Char} (htext : cs = form ++ rest) : ¬ Fits token form rest := by
  intro hfits
  rcases scan?_of_fits hfits with ⟨found, after, hscan, _⟩
  rw [<- htext, h] at hscan
  cases hscan

/-!
# Texts cut short

A token is found again if the text ends earlier, as long as its form is left.
-/

theorem scan?_isForm {token : Token} {form : List Char} (h : IsForm token form) :
    scan? form = some (token, []) := by
  have hends : forall token : Token, token.EndsAt [] := fun _ _ hc => by cases hc
  cases h with
  | word hword =>
      have hscan := scan?_word (by rwa [String.toList_ofList]) (hends (.word (String.ofList form)))
      rwa [String.toList_ofList, List.append_nil] at hscan
  | number hnumeral =>
      have hscan := scan?_number (by rwa [String.toList_ofList])
        (hends (.number (String.ofList form)))
      rwa [String.toList_ofList, List.append_nil] at hscan
  | quotedText cs =>
      have hscan := @scan?_quotedText cs [] (by simp)
      rwa [List.append_nil] at hscan
  | quotedName hmark hcs =>
      have hscan := scan?_quotedName hmark hcs []
      rwa [List.append_nil] at hscan
  | @comparison op spelling hspelling =>
      cases op <;>
      · simp only [Comparison.spellings, List.mem_cons, List.not_mem_nil, or_false] at hspelling
        rcases hspelling with rfl | rfl <;> rfl
  | star | comma | leftParen | rightParen | slash | semicolon => rfl

theorem IsForm.token_eq {token other : Token} {form : List Char} (h : IsForm token form)
    (hother : IsForm other form) : token = other := by
  have hscan := (scan?_isForm h).symm.trans (scan?_isForm hother)
  cases hscan
  rfl

theorem scan?_of_append {token : Token} {form rest more : List Char}
    (h : scan? (form ++ rest ++ more) = some (token, rest ++ more)) :
    scan? (form ++ rest) = some (token, rest) := by
  rcases isLongest_scan h with ⟨taken, htext, hfits, hlongest⟩
  rw [List.append_assoc, List.append_cancel_right_eq] at htext
  subst htext
  have hshort : Fits token form rest := by
    refine ⟨hfits.isForm, fun text htext hhead => hfits.closed text htext ?_⟩
    rw [List.head?_append, hhead]
    rfl
  by_cases hquoted : exists text, token = .quotedText text
  · rcases hquoted with ⟨text, rfl⟩
    cases hfits.isForm with
    | quotedText cs => exact scan?_quotedText cs (hshort.closed _ rfl)
  -- What the shorter text gives would also fit in the longer one, so it is no longer.
  rcases scan?_of_fits hshort with ⟨other, tail, hscan, hlength⟩
  rcases fits_scan hscan with ⟨shape, hshape, hother⟩
  have hfull : Fits other shape (tail ++ more) := by
    refine ⟨hother.isForm, ?_⟩
    rintro text rfl
    cases hother.isForm with
    | quotedText cs =>
        rw [hshape] at h
        rcases scan?_quote h with ⟨body, hbody, _⟩
        exact absurd ⟨_, hbody⟩ hquoted
  have hle := hlongest other shape (tail ++ more)
    (by rw [<- List.append_assoc, hshape, List.append_assoc]) hfull
  have htotal := congrArg List.length hshape
  rw [List.length_append, List.length_append] at htotal
  rcases List.append_inj hshape (by omega) with ⟨rfl, rfl⟩
  rw [hscan, hshort.isForm.token_eq hother.isForm]

/-!
# Positions
-/

theorem foldl_utf8Size (cs : List Char) (start : Nat) :
    cs.foldl (fun bytes c => bytes + c.utf8Size) start = start + byteLength cs := by
  induction cs generalizing start with
  | nil => rfl
  | cons c cs ih =>
      rw [byteLength, List.foldl_cons, List.foldl_cons, ih, ih, Nat.zero_add, Nat.add_assoc]

theorem byteLength_cons (c : Char) (cs : List Char) :
    byteLength (c :: cs) = c.utf8Size + byteLength cs := by
  rw [byteLength, List.foldl_cons, foldl_utf8Size, Nat.zero_add]

theorem byteLength_append (cs ds : List Char) :
    byteLength (cs ++ ds) = byteLength cs + byteLength ds := by
  rw [byteLength, List.foldl_append, foldl_utf8Size]
  rfl

theorem byteLength_eq (cs : List Char) : byteLength cs = (String.ofList cs).utf8ByteSize := by
  induction cs with
  | nil => rfl
  | cons c cs ih =>
      rw [byteLength_cons, ih, String.ofList_cons, String.utf8ByteSize_append,
        String.utf8ByteSize_singleton]

/-!
# Cuts
-/

/-- A lexeme with its source form and the separators behind it. -/
structure Piece where
  lexeme : Lexeme
  form : List Char
  gap : List Char

def Piece.text (piece : Piece) : List Char :=
  piece.form ++ piece.gap

/-- Blanks, tabs and line ends only. -/
def IsSeparation (cs : List Char) : Prop :=
  forall c, c ∈ cs -> c ∈ [' ', '\t', '\r', '\n']

theorem isSeparator_iff {c : Char} : isSeparator c = true <-> c ∈ [' ', '\t', '\r', '\n'] := by
  simp [isSeparator, or_assoc]

/-- A text behind `start` bytes, cut into separators and then pieces. Every lexeme is
written with the longest form that fits, and starts behind the bytes of all that is before. -/
structure IsCut (start : Nat) (cs : List Char) (lead : List Char) (pieces : List Piece) :
    Prop where
  text_eq : cs = lead ++ pieces.flatMap Piece.text
  separates_lead : IsSeparation lead
  separates_gap : forall piece, piece ∈ pieces -> IsSeparation piece.gap
  form_ne_nil : forall piece, piece ∈ pieces -> piece.form ≠ []
  isLongest : forall before piece after, pieces = before ++ piece :: after ->
    IsLongest piece.lexeme.token piece.form (piece.gap ++ after.flatMap Piece.text)
  start_eq : forall before piece after, pieces = before ++ piece :: after ->
    piece.lexeme.start = start + (String.ofList (lead ++ before.flatMap Piece.text)).utf8ByteSize

theorem isCut_nil (start : Nat) : IsCut start [] [] [] where
  text_eq := rfl
  separates_lead := fun _ hc => by cases hc
  separates_gap := fun _ hpiece => by cases hpiece
  form_ne_nil := fun _ hpiece => by cases hpiece
  isLongest := fun before _ _ h => by cases before <;> cases h
  start_eq := fun before _ _ h => by cases before <;> cases h

theorem IsCut.separator {start : Nat} {c : Char} {cs lead : List Char} {pieces : List Piece}
    (hc : isSeparator c = true) (h : IsCut (start + c.utf8Size) cs lead pieces) :
    IsCut start (c :: cs) (c :: lead) pieces where
  text_eq := by rw [h.text_eq, List.cons_append]
  separates_lead := by
    rw [IsSeparation, List.forall_mem_cons]
    exact ⟨isSeparator_iff.mp hc, h.separates_lead⟩
  separates_gap := h.separates_gap
  form_ne_nil := h.form_ne_nil
  isLongest := h.isLongest
  start_eq := by
    intro before piece after hpieces
    rw [h.start_eq before piece after hpieces, <- byteLength_eq, <- byteLength_eq,
      List.cons_append, byteLength_cons, Nat.add_assoc]

theorem IsCut.token {start : Nat} {token : Token} {form cs lead : List Char}
    {pieces : List Piece} (htoken : IsLongest token form cs) (hne : form ≠ [])
    (h : IsCut (start + byteLength form) cs lead pieces) :
    IsCut start (form ++ cs) []
      ({ lexeme := { token := token, start := start }, form := form, gap := lead } :: pieces) where
  text_eq := by
    rw [h.text_eq, List.nil_append, List.flatMap_cons, Piece.text, List.append_assoc]
  separates_lead := fun _ hc => by cases hc
  separates_gap := by
    rw [List.forall_mem_cons]
    exact ⟨h.separates_lead, h.separates_gap⟩
  form_ne_nil := by
    rw [List.forall_mem_cons]
    exact ⟨hne, h.form_ne_nil⟩
  isLongest := by
    intro before piece after hpieces
    cases before with
    | nil =>
        cases hpieces
        rw [<- h.text_eq]
        exact htoken
    | cons first before =>
        cases hpieces
        exact h.isLongest before piece after rfl
  start_eq := by
    intro before piece after hpieces
    cases before with
    | nil =>
        cases hpieces
        rfl
    | cons first before =>
        cases hpieces
        rw [h.start_eq before piece after rfl, <- byteLength_eq, <- byteLength_eq,
          List.nil_append, List.flatMap_cons, Piece.text, List.append_assoc,
          byteLength_append form, Nat.add_assoc]

theorem ne_nil_of_scan {form rest : List Char} {token : Token}
    (h : scan? (form ++ rest) = some (token, rest)) : form ≠ [] := by
  rintro rfl
  exact absurd (scan?_length_lt h) (Nat.lt_irrefl _)

theorem exists_isCut {start : Nat} {cs : List Char} {found : List Lexeme}
    (h : lexemesFrom start cs = .ok found) :
    exists lead pieces, IsCut start cs lead pieces ∧ pieces.map Piece.lexeme = found := by
  fun_induction lexemesFrom start cs generalizing found with
  | case1 start =>
      cases h
      exact ⟨[], [], isCut_nil start, rfl⟩
  | case2 start c rest hseparator ih =>
      rcases ih h with ⟨lead, pieces, hcut, hfound⟩
      exact ⟨c :: lead, pieces, hcut.separator hseparator, hfound⟩
  | case3 => cases h
  | case4 start c rest hseparator token after hscan hlength lexemes hlexemes ih =>
      cases h
      rcases ih hlexemes with ⟨lead, pieces, hcut, rfl⟩
      rcases isLongest_scan hscan with ⟨form, htext, hlongest⟩
      rw [htext] at hscan hcut ⊢
      rw [byteLength_append, Nat.add_sub_cancel] at hcut
      exact ⟨[], _, hcut.token hlongest (ne_nil_of_scan hscan), rfl⟩
  | case5 => cases h

/-!
# Stops
-/

/-- A place where the text cannot be cut further: no separator stands there and no form fits,
while all that is before can be cut. -/
structure IsStop (text : String) (position : Nat) (before : List Char) (c : Char)
    (after : List Char) : Prop where
  text_eq : text.toList = before ++ c :: after
  position_eq : position = (String.ofList before).utf8ByteSize
  not_separator : c ∉ [' ', '\t', '\r', '\n']
  not_fits : forall token form rest, c :: after = form ++ rest -> ¬ Fits token form rest
  before_cut : exists found, lexemes (String.ofList before) = .ok found

theorem scan?_separator {c : Char} (h : isSeparator c = true) (rest : List Char) :
    scan? (c :: rest) = none := by
  have hc := isSeparator_iff.mp h
  simp only [List.mem_cons, List.not_mem_nil, or_false] at hc
  rcases hc with rfl | rfl | rfl | rfl <;> rfl

theorem lexemesFrom_token {start : Nat} {token : Token} {form rest : List Char}
    {found : List Lexeme} (hscan : scan? (form ++ rest) = some (token, rest))
    (hrest : lexemesFrom (start + byteLength form) rest = .ok found) :
    lexemesFrom start (form ++ rest) = .ok ({ token := token, start := start } :: found) := by
  have hbytes : byteLength (form ++ rest) - byteLength rest = byteLength form := by
    rw [byteLength_append, Nat.add_sub_cancel]
  generalize form ++ rest = cs at hscan hbytes ⊢
  cases cs with
  | nil => cases hscan
  | cons c more =>
      have hc : ¬ isSeparator c = true := by
        intro hseparator
        rw [scan?_separator hseparator] at hscan
        cases hscan
      rw [lexemesFrom, if_neg hc]
      split
      · rename_i hnone
        rw [hscan] at hnone
        cases hnone
      · rename_i other after hsome
        rw [hscan] at hsome
        cases hsome
        rw [hbytes, hrest]

theorem exists_stop {start : Nat} {cs : List Char} {e : SyntaxError}
    (h : lexemesFrom start cs = .error e) :
    exists before c after, cs = before ++ c :: after ∧ e.position = start + byteLength before
      ∧ isSeparator c = false ∧ scan? (c :: after) = none
      ∧ exists found, lexemesFrom start before = .ok found := by
  fun_induction lexemesFrom start cs with
  | case1 => cases h
  | case2 start c rest hseparator ih =>
      rcases ih h with ⟨before, d, after, rfl, hposition, hd, hscan, found, hfound⟩
      refine ⟨c :: before, d, after, rfl, ?_, hd, hscan, found, ?_⟩
      · rw [hposition, byteLength_cons, Nat.add_assoc]
      · rw [lexemesFrom, if_pos hseparator, hfound]
  | case3 start c rest hseparator hscan =>
      cases h
      refine ⟨[], c, rest, rfl, rfl, ?_, hscan, [], ?_⟩
      · simpa using hseparator
      · rw [lexemesFrom]
  | case4 => cases h
  | case5 start c rest hseparator token after hscan hlength fault hfault ih =>
      cases h
      rcases ih hfault with ⟨before, d, tail, rfl, hposition, hd, hnone, found, hfound⟩
      rcases fits_scan hscan with ⟨form, htext, _⟩
      rw [htext, byteLength_append, Nat.add_sub_cancel] at hposition hfound
      rw [htext, <- List.append_assoc] at hscan
      refine ⟨form ++ before, d, tail, ?_, ?_, hd, hnone, _,
        lexemesFrom_token (scan?_of_append hscan) hfound⟩
      · rw [htext, List.append_assoc]
      · rw [hposition, byteLength_append, Nat.add_assoc]

theorem exists_isStop {text : String} {e : SyntaxError} (h : lexemes text = .error e) :
    exists before c after, IsStop text e.position before c after := by
  rcases exists_stop h with ⟨before, c, after, htext, hposition, hc, hscan, found, hfound⟩
  refine ⟨before, c, after, htext, ?_, ?_, fun _ _ _ => not_fits_of_scan hscan, found, ?_⟩
  · rw [hposition, Nat.zero_add, byteLength_eq]
  · rw [<- isSeparator_iff, hc]
    exact Bool.false_ne_true
  · rw [lexemes, String.toList_ofList]
    exact hfound

/-- Lexemes are found with nothing lost between them, or the error is at a place where none is. -/
theorem lexemes_lossless (text : String) :
    (forall found, lexemes text = .ok found ->
      exists lead pieces, IsCut 0 text.toList lead pieces ∧ pieces.map Piece.lexeme = found)
      ∧ forall e, lexemes text = .error e ->
        exists before c after, IsStop text e.position before c after :=
  ⟨fun _ h => exists_isCut h, fun _ h => exists_isStop h⟩

theorem lexemes_lossless_quotes :
    lexemes "'é'<> 'it''s'"
        = .ok [⟨.quotedText "é", 0⟩, ⟨.comparison .notEq, 4⟩, ⟨.quotedText "it's", 7⟩]
      ∧ (exists lead pieces, IsCut 0 "'é'<> 'it''s'".toList lead pieces
        ∧ pieces.map Piece.lexeme
          = [⟨.quotedText "é", 0⟩, ⟨.comparison .notEq, 4⟩, ⟨.quotedText "it's", 7⟩])
      ∧ lexemes "n = 'it''" = .error ⟨4, .unterminatedText⟩
      ∧ exists before c after, IsStop "n = 'it''" 4 before c after := by
  have hcut : lexemes "'é'<> 'it''s'"
      = .ok [⟨.quotedText "é", 0⟩, ⟨.comparison .notEq, 4⟩, ⟨.quotedText "it's", 7⟩] := by
    decide +kernel
  have hstop : lexemes "n = 'it''" = .error ⟨4, .unterminatedText⟩ := by decide +kernel
  exact ⟨hcut, (lexemes_lossless _).left _ hcut, hstop, (lexemes_lossless _).right _ hstop⟩

end Sql
end Rollup
