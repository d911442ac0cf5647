/-!
# Base64

Three bytes are written as four letters of six bits each; what is missing of the last
three is filled up with `=`.
-/

namespace Rollup
namespace Text

def base64Letter (n : Nat) : Char :=
  if n < 26 then Char.ofNat (65 + n)
  else if n < 52 then Char.ofNat (71 + n)
  else if n < 62 then Char.ofNat (n - 4)
  else if n = 62 then '+'
  else '/'

/-- The letter that stands `place` letters before the last one of a group. -/
def base64Place (group place : Nat) : Char :=
  base64Letter (group / Nat.pow 64 place % 64)

def base64 : List UInt8 -> List Char
  | [] => []
  | [a] =>
      let group := a.toNat * 65536
      [base64Place group 3, base64Place group 2, '=', '=']
  | [a, b] =>
      let group := a.toNat * 65536 + b.toNat * 256
      [base64Place group 3, base64Place group 2, base64Place group 1, '=']
  | a :: b :: c :: rest =>
      let group := a.toNat * 65536 + b.toNat * 256 + c.toNat
      base64Place group 3 :: base64Place group 2 :: base64Place group 1 :: base64Place group 0
        :: base64 rest

end Text
end Rollup
