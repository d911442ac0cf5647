import Rollup.Text.Hex

/-!
# Percent encoding

A byte that may not stand in a part of a URL is written as `%` and two hexadecimal
digits. Which bytes those are depends on the part.
-/

namespace Rollup
namespace Text

def utf8 (cs : List Char) : List UInt8 :=
  cs.flatMap String.utf8EncodeChar

def isUnprintable (n : Nat) : Bool :=
  n < 0x20 || 0x7e < n

def encodedIn (chars : List Char) (byte : UInt8) : Bool :=
  isUnprintable byte.toNat || chars.contains (Char.ofNat byte.toNat)

def encodeByte (isEncoded : UInt8 -> Bool) (byte : UInt8) : List Char :=
  if isEncoded byte then
    ['%', upperHexDigit (byte.toNat / 16), upperHexDigit (byte.toNat % 16)]
  else
    [Char.ofNat byte.toNat]

def percentEncode (isEncoded : UInt8 -> Bool) (cs : List Char) : List Char :=
  (utf8 cs).flatMap (encodeByte isEncoded)

/-- The bytes of a text after decoding. A `%` that begins no encoded byte stands for itself. -/
def percentDecode : List Char -> List UInt8
  | [] => []
  | '%' :: high :: low :: rest =>
      match hexValue? high, hexValue? low with
      | some high, some low => UInt8.ofNat (high * 16 + low) :: percentDecode rest
      | _, _ => String.utf8EncodeChar '%' ++ percentDecode (high :: low :: rest)
  | c :: rest => String.utf8EncodeChar c ++ percentDecode rest

end Text
end Rollup
