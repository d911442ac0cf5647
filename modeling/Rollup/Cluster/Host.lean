import Rollup.Text.Case
import Rollup.Text.Percent
import Rollup.Text.Punycode

/-!
# Hosts

The host of a URL in the form in which the URL standard writes it. A host of the web
schemes is a name in ASCII or an address; a host of any other scheme is taken as it is.
-/

namespace Rollup
namespace Cluster

def splitAt (isSeparator : Char -> Bool) : List Char -> List (List Char)
  | [] => [[]]
  | c :: rest =>
      match splitAt isSeparator rest with
      | [] => [[c]]
      | part :: parts => if isSeparator c then [] :: part :: parts else (c :: part) :: parts

/-!
# Addresses of four bytes
-/

def digitsIn? (base : Nat) (cs : List Char) : Option Nat :=
  cs.foldlM
    (fun value c =>
      match Text.hexValue? c with
      | some digit => if digit < base then some (value * base + digit) else none
      | none => none)
    0

/-- A part of an address: decimal, octal after `0`, or hexadecimal after `0x`. -/
def addressPart? (cs : List Char) : Option Nat :=
  match cs with
  | [] => none
  | '0' :: 'x' :: digits => digitsIn? 16 digits
  | '0' :: 'X' :: digits => digitsIn? 16 digits
  | '0' :: c :: digits => digitsIn? 8 (c :: digits)
  | digits => digitsIn? 10 digits

def nameParts (cs : List Char) : List (List Char) :=
  let parts := splitAt (fun c => c == '.') cs
  if parts.length > 1 && parts.getLast? = some [] then parts.dropLast else parts

/-- A name whose last part is a number can only be an address. -/
def endsInNumber (cs : List Char) : Bool :=
  match (nameParts cs).getLast? with
  | none => false
  | some [] => false
  | some last => last.all Char.isDigit || (addressPart? last).isSome

/-- The value of an address: each part but the last is a byte, the last fills up the rest. -/
def address? (cs : List Char) : Option Nat := do
  let parts := nameParts cs
  if 4 < parts.length then
    none
  else
    let values <- parts.mapM addressPart?
    let last <- values.getLast?
    let leading := values.dropLast
    if leading.any (fun value => 255 < value) || Nat.pow 256 (5 - parts.length) <= last then
      none
    else
      return leading.foldl (fun sum value => sum * 256 + value) 0 * Nat.pow 256 (5 - parts.length)
        + last

def addressText (value : Nat) : String :=
  s!"{value / 16777216 % 256}.{value / 65536 % 256}.{value / 256 % 256}.{value % 256}"

/-!
# Addresses of eight pairs of bytes
-/

def piece? (cs : List Char) : Option Nat :=
  if cs.isEmpty || 4 < cs.length then none else digitsIn? 16 cs

def plainByte? (cs : List Char) : Option Nat :=
  if cs.isEmpty || 3 < cs.length || (1 < cs.length && cs.head? = some '0') then
    none
  else do
    let value <- digitsIn? 10 cs
    if value <= 255 then some value else none

def embedded? (cs : List Char) : Option (List Nat) := do
  let bytes <- (splitAt (fun c => c == '.') cs).mapM plainByte?
  match bytes with
  | [a, b, c, d] => some [a * 256 + b, c * 256 + d]
  | _ => none

/-- Pieces divided by colons, of which the last may be an address of four bytes. -/
def pieces? : List (List Char) -> Option (List Nat)
  | [] => some []
  | [last] =>
      if last.contains '.' then embedded? last else (piece? last).map (fun value => [value])
  | part :: rest => do
      let value <- piece? part
      let values <- pieces? rest
      return value :: values

def side? (cs : List Char) : Option (List Nat) :=
  if cs.isEmpty then some [] else pieces? (splitAt (fun c => c == ':') cs)

/-- What stands before and after the first `::`. -/
def aroundGap? : List Char -> Option (List Char × List Char)
  | ':' :: ':' :: rest => some ([], rest)
  | c :: rest => (aroundGap? rest).map (fun (before, after) => (c :: before, after))
  | [] => none

/-- The eight pieces of an address; `::` stands for pieces of zero. -/
def longAddress? (cs : List Char) : Option (List Nat) :=
  match aroundGap? cs with
  | none => do
      let pieces <- side? cs
      if pieces.length = 8 then some pieces else none
  | some (before, after) => do
      let first <- if before.contains '.' then none else side? before
      let last <- side? after
      let missing := 8 - (first.length + last.length)
      if missing = 0 then none else some (first ++ List.replicate missing 0 ++ last)

/-- Start and length of the first of the longest runs of zeros, `index` being the next place. -/
def longestGap (index : Nat) : List Nat -> Nat × Nat
  | [] => (index, 0)
  | piece :: rest =>
      let here := ((piece :: rest).takeWhile (fun value => value == 0)).length
      let (start, length) := longestGap (index + 1) rest
      if length <= here then (index, here) else (start, length)

def pieceText (piece : Nat) : String :=
  String.ofList (Nat.toDigits 16 piece)

def piecesText (pieces : List Nat) : String :=
  String.intercalate ":" (pieces.map pieceText)

def longAddressText (pieces : List Nat) : String :=
  let (start, length) := longestGap 0 pieces
  if length < 2 then
    piecesText pieces
  else
    piecesText (pieces.take start) ++ "::" ++ piecesText (pieces.drop (start + length))

def bracketed? (cs : List Char) : Option String :=
  if cs.getLast? = some ']' then
    (longAddress? cs.dropLast).map (fun pieces => s!"[{longAddressText pieces}]")
  else
    none

/-!
# Names
-/

def isForbidden (c : Char) : Bool :=
  [' ', '#', '/', ':', '<', '>', '?', '@', '[', '\\', ']', '^', '|'].contains c
    || ['\x00', '\t', '\n', '\r'].contains c

def isForbiddenInName (c : Char) : Bool :=
  isForbidden c || c == '%' || c.toNat < 0x20 || c.toNat == 0x7f

/-- Characters that stand for others in a name: wide forms, other full stops, and none at all. -/
def nameChar (c : Char) : List Char :=
  let n := c.toNat
  if 0xff01 <= n && n <= 0xff5e then [Char.ofNat (n - 0xfee0)]
  else if n = 0x3002 || n = 0xff61 then ['.']
  else if n = 0xad || n = 0x200b || n = 0x2060 || n = 0xfeff then []
  else [c]

def asciiLabel (cs : List Char) : List Char :=
  if cs.all Text.Punycode.isPlain then
    cs
  else
    ['x', 'n', '-', '-'] ++ Text.Punycode.encode cs

def asciiName (cs : List Char) : List Char :=
  let lower := (Text.lower (String.ofList (cs.flatMap nameChar))).toList
  List.intercalate ['.'] ((splitAt (fun c => c == '.') lower).map asciiLabel)

def webHost? (cs : List Char) : Option String :=
  match cs with
  | '[' :: rest => bracketed? rest
  | _ => do
      let text <- String.fromUTF8? (ByteArray.mk (Text.percentDecode cs).toArray)
      let name := asciiName text.toList
      if name.isEmpty || name.any isForbiddenInName then
        none
      else if endsInNumber name then
        (address? name).map addressText
      else
        some (String.ofList name)

def opaqueHost? (cs : List Char) : Option String :=
  match cs with
  | '[' :: rest => bracketed? rest
  | _ =>
      if cs.any isForbidden then
        none
      else
        some (String.ofList (Text.percentEncode (Text.encodedIn []) cs))

end Cluster
end Rollup
