import Rollup.Text.Percent

/-!
# Percent encoding is reversible

Decoding gives back the bytes that were encoded, if the percent sign itself is among the
characters that are encoded. So texts that differ are encoded differently.
-/

namespace Rollup
namespace Text

theorem utf8_injective {cs ds : List Char} (h : utf8 cs = utf8 ds) : cs = ds := by
  have hbytes : cs.utf8Encode = ds.utf8Encode := congrArg List.toByteArray h
  rw [<- String.toByteArray_ofList, <- String.toByteArray_ofList] at hbytes
  exact String.ofList_injective (String.toByteArray_inj.mp hbytes)

/-!
# Single bytes
-/

theorem hexValue?_upperHexDigit {n : Nat} (h : n < 16) : hexValue? (upperHexDigit n) = some n := by
  revert n
  decide

theorem upperHexDigit_ne_slash {n : Nat} (h : n < 16) : upperHexDigit n ≠ '/' := by
  revert n
  decide

theorem utf8EncodeChar_ofNat {n : Nat} (h : n < 128) :
    String.utf8EncodeChar (Char.ofNat n) = [UInt8.ofNat n] := by
  revert n
  decide

theorem percentDecode_cons {c : Char} (h : c ≠ '%') (rest : List Char) :
    percentDecode (c :: rest) = String.utf8EncodeChar c ++ percentDecode rest := by
  rw [percentDecode]
  intro high low tail heq
  exact absurd heq h

theorem of_encodedIn_eq_false {chars : List Char} {byte : UInt8}
    (h : encodedIn chars byte = false) :
    byte.toNat < 128 ∧ Char.ofNat byte.toNat ∉ chars := by
  rw [encodedIn, Bool.or_eq_false_iff, isUnprintable, Bool.or_eq_false_iff,
    decide_eq_false_iff_not, decide_eq_false_iff_not] at h
  rcases h with ⟨⟨_, hupper⟩, hchars⟩
  refine ⟨by omega, fun hmem => ?_⟩
  rw [List.contains_iff_mem.mpr hmem] at hchars
  cases hchars

section

variable {chars : List Char}

theorem percentDecode_encodeByte (hpercent : '%' ∈ chars) (byte : UInt8) (rest : List Char) :
    percentDecode (encodeByte (encodedIn chars) byte ++ rest) = byte :: percentDecode rest := by
  have hbyte : byte.toNat < 256 := byte.toNat_lt
  unfold encodeByte
  split
  · have hhigh := hexValue?_upperHexDigit (n := byte.toNat / 16) (by omega)
    have hlow := hexValue?_upperHexDigit (n := byte.toNat % 16) (by omega)
    have hvalue : byte.toNat / 16 * 16 + byte.toNat % 16 = byte.toNat := by omega
    show percentDecode ('%' :: upperHexDigit (byte.toNat / 16)
      :: upperHexDigit (byte.toNat % 16) :: rest) = _
    rw [percentDecode, hhigh, hlow]
    dsimp only
    rw [hvalue, UInt8.ofNat_toNat]
  · rename_i hplain
    rcases of_encodedIn_eq_false (Bool.eq_false_iff.mpr hplain) with ⟨hascii, hfree⟩
    have hother : Char.ofNat byte.toNat ≠ '%' := fun heq => hfree (heq ▸ hpercent)
    show percentDecode (Char.ofNat byte.toNat :: rest) = _
    rw [percentDecode_cons hother, utf8EncodeChar_ofNat hascii, UInt8.ofNat_toNat]
    rfl

theorem slash_not_mem_encodeByte (hslash : '/' ∈ chars) (byte : UInt8) :
    '/' ∉ encodeByte (encodedIn chars) byte := by
  have hbyte : byte.toNat < 256 := byte.toNat_lt
  unfold encodeByte
  split
  · have hhigh := upperHexDigit_ne_slash (n := byte.toNat / 16) (by omega)
    have hlow := upperHexDigit_ne_slash (n := byte.toNat % 16) (by omega)
    simp only [List.mem_cons, List.not_mem_nil, or_false, not_or]
    exact ⟨by decide, hhigh.symm, hlow.symm⟩
  · rename_i hplain
    have hfree := (of_encodedIn_eq_false (Bool.eq_false_iff.mpr hplain)).right
    rw [List.mem_singleton]
    exact fun heq => hfree (heq ▸ hslash)

/-!
# Texts
-/

theorem percentDecode_percentEncode (hpercent : '%' ∈ chars) (cs : List Char) :
    percentDecode (percentEncode (encodedIn chars) cs) = utf8 cs := by
  unfold percentEncode
  induction utf8 cs with
  | nil => rw [List.flatMap_nil, percentDecode]
  | cons byte rest ih => rw [List.flatMap_cons, percentDecode_encodeByte hpercent, ih]

theorem slash_not_mem_percentEncode (hslash : '/' ∈ chars) (cs : List Char) :
    '/' ∉ percentEncode (encodedIn chars) cs := by
  intro hmem
  rcases List.mem_flatMap.mp hmem with ⟨byte, _, hbyte⟩
  exact slash_not_mem_encodeByte hslash byte hbyte

end

end Text
end Rollup
