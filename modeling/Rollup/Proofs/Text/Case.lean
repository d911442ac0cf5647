import Mathlib.Data.List.Basic
import Rollup.Text.Case

/-!
# Case of ASCII texts

On ASCII characters the case mappings are those of ASCII: one character for one, and
letters for letters.
-/

namespace Rollup
namespace Text

theorem mapCase_of_ascii (run : CaseRun) (runs : List CaseRun)
    (sequences : List (Nat × List Nat))
    (hruns : runs.all (fun other => decide (128 <= other.first)) = true)
    (hsequences : sequences.all (fun sequence => decide (128 <= sequence.1)) = true) {c : Char}
    (h : c.toNat < 128) :
    mapCase (run :: runs) sequences c = mapCase [run] [] c := by
  have hlookup : sequences.lookup c.toNat = none := by
    rw [List.lookup_eq_none_iff]
    intro sequence hmem
    have hfirst := of_decide_eq_true (List.all_eq_true.mp hsequences sequence hmem)
    rw [bne_iff_ne]
    omega
  have hfind : runs.find? (fun other => other.applies c.toNat) = none := by
    rw [List.find?_eq_none]
    intro other hmem happlies
    have hfirst := of_decide_eq_true (List.all_eq_true.mp hruns other hmem)
    simp only [CaseRun.applies, Bool.and_eq_true, decide_eq_true_eq] at happlies
    omega
  rw [mapCase, mapCase, hlookup, List.find?_cons, List.find?_cons, hfind]
  rfl

theorem mapCase_upper_of_ascii {c : Char} (h : c.toNat < 128) :
    mapCase upperRuns upperSequences c = [c.toUpper] := by
  have hall : forall n, n < 128 ->
      mapCase [⟨0x61, 0x7a, 1, -0x20⟩] [] (Char.ofNat n) = [(Char.ofNat n).toUpper] := by
    decide +kernel
  have hfirst := mapCase_of_ascii ⟨0x61, 0x7a, 1, -0x20⟩ upperRuns.tail upperSequences
    (by decide +kernel) (by decide +kernel) h
  exact hfirst.trans (by simpa using hall c.toNat h)

theorem mapCase_lower_of_ascii {c : Char} (h : c.toNat < 128) :
    mapCase lowerRuns lowerSequences c = [c.toUpper.toLower] := by
  have hall : forall n, n < 128 ->
      mapCase [⟨0x41, 0x5a, 1, 0x20⟩] [] (Char.ofNat n)
        = [(Char.ofNat n).toUpper.toLower] := by
    decide +kernel
  have hfirst := mapCase_of_ascii ⟨0x41, 0x5a, 1, 0x20⟩ lowerRuns.tail lowerSequences
    (by decide +kernel) (by decide +kernel) h
  exact hfirst.trans (by simpa using hall c.toNat h)

theorem toUpper_ne_of_ascii {c : Char} (h : c.toNat < 128) (hc : c ≠ '(') : c.toUpper ≠ '(' := by
  have hall : forall n, n < 128 -> (Char.ofNat n).toUpper = '(' -> Char.ofNat n = '(' := by
    decide +kernel
  intro heq
  exact hc (by simpa using hall c.toNat h (by simpa using heq))

theorem toList_upper_of_ascii {text : String} (h : forall c, c ∈ text.toList -> c.toNat < 128) :
    (upper text).toList = text.toList.map Char.toUpper := by
  rw [upper, String.toList_ofList, List.map_eq_flatMap]
  exact List.flatMap_congr (fun c hc => mapCase_upper_of_ascii (h c hc))

theorem lower_of_ascii {text : String} (h : forall c, c ∈ text.toList -> c.toNat < 128) :
    lower text = String.ofList ((text.toList.map Char.toUpper).map Char.toLower) := by
  rw [lower, List.map_map, List.map_eq_flatMap]
  exact congrArg String.ofList (List.flatMap_congr (fun c hc => mapCase_lower_of_ascii (h c hc)))

theorem lower_eq_of_upper_eq {text other : String}
    (htext : forall c, c ∈ text.toList -> c.toNat < 128)
    (hother : forall c, c ∈ other.toList -> c.toNat < 128)
    (h : upper text = upper other) : lower text = lower other := by
  rw [lower_of_ascii htext, lower_of_ascii hother, <- toList_upper_of_ascii htext,
    <- toList_upper_of_ascii hother, h]

end Text
end Rollup
