import Rollup.Number.Shortest

/-!
# Writing floats

Three texts are written from one choice of digits. A layout says which sizes are
written positionally, how an exponent is marked and whether whole numbers keep a
fraction.
-/

namespace Rollup
namespace Number

/-- Decisions of a number format. `least` and `limit` bound the scientific exponents
that are written positionally. -/
structure Layout where
  tie : Tie
  least : Option Int
  limit : Option Int
  plusSign : Bool
  keepFraction : Bool

/-- Numbers in JSON text: `100.0`, `0.00001`, `1e+16`, `9.5e-6`. -/
def jsonLayout : Layout :=
  { tie := .toEven, least := some (-5), limit := some 16, plusSign := true, keepFraction := true }

/-- Numbers in bucket keys and percentile names: `20.0`, `1e-5`, `1.5e16`. -/
def keyLayout : Layout :=
  { tie := .upward, least := some (-4), limit := some 16, plusSign := false, keepFraction := true }

def messageLayout : Layout :=
  { tie := .upward, least := none, limit := none, plusSign := false, keepFraction := false }

def decimalDigits (n : Nat) : List Char :=
  Nat.toDigits 10 n

def zeros (n : Nat) : List Char :=
  List.replicate n '0'

def positional (keepFraction : Bool) (digits : List Char) (exponent : Int) : List Char :=
  if 0 <= exponent then
    digits ++ zeros exponent.toNat ++ (if keepFraction then ['.', '0'] else [])
  else
    let places := (-exponent).toNat
    if places < digits.length then
      digits.take (digits.length - places) ++ '.' :: digits.drop (digits.length - places)
    else
      '0' :: '.' :: zeros (places - digits.length) ++ digits

def signMark (negative : Bool) : List Char :=
  if negative then ['-'] else []

/-- `digits * 10 ^ exponent` with one digit before the point and `scientific` as exponent. -/
def exponential (plusSign : Bool) (digits : List Char) (scientific : Int) : List Char :=
  let fraction :=
    match digits.drop 1 with
    | [] => []
    | rest => '.' :: rest
  let mark :=
    if scientific < 0 then ['-'] else if plusSign then ['+'] else []
  digits.take 1 ++ fraction ++ 'e' :: mark ++ decimalDigits scientific.natAbs

def Layout.writesPositionally (layout : Layout) (scientific : Int) : Bool :=
  (match layout.least with
    | some least => least <= scientific
    | none => true) &&
  (match layout.limit with
    | some limit => scientific < limit
    | none => true)

def Layout.writeDecimal (layout : Layout) (c : Decimal) : List Char :=
  let digits := decimalDigits c.digits
  let scientific := c.exponent + (digits.length : Int) - 1
  if layout.writesPositionally scientific then
    positional layout.keepFraction digits c.exponent
  else
    exponential layout.plusSign digits scientific

def Layout.write (layout : Layout) (x : Float) : String :=
  match dyadic? x with
  | none => if x.isNaN then "NaN" else if x < 0 then "-inf" else "inf"
  | some d =>
      let size :=
        if d.mantissa = 0 then
          positional layout.keepFraction ['0'] 0
        else
          layout.writeDecimal (d.shortest layout.tie)
      String.ofList (signMark d.negative ++ size)

end Number
end Rollup
