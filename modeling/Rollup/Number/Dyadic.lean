/-!
# Floats as exact dyadic numbers

A finite 64-bit float is a sign, a natural mantissa and a power of two. Everything
the library asks of a float besides its arithmetic and its order (whole parts,
rounding, digits) is computed here from that exact value.
-/

namespace Rollup
namespace Number

/-- The value `mantissa * 2 ^ exponent`, negated when `negative` holds. -/
structure Dyadic where
  negative : Bool
  mantissa : Nat
  exponent : Int
deriving DecidableEq, Repr

/-- Least integer a signed 64-bit word holds. -/
def minInt64 : Int := -0x8000000000000000

/-- Greatest integer a signed 64-bit word holds. -/
def maxInt64 : Int := 0x7FFFFFFFFFFFFFFF

/-- Integers outside the signed 64-bit range go to its nearer end. -/
def clampInt64 (n : Int) : Int :=
  if n < minInt64 then minInt64 else if maxInt64 < n then maxInt64 else n

def fitsInt64 (n : Int) : Bool :=
  minInt64 <= n && n <= maxInt64

def dyadic? (x : Float) : Option Dyadic :=
  let bits : Nat := x.toBits.toNat
  let negative : Bool := 0x8000000000000000 <= bits
  let exponent : Nat := bits / 0x10000000000000 % 0x800
  let fraction : Nat := bits % 0x10000000000000
  if exponent = 0x7FF then
    none
  else if exponent = 0 then
    some { negative := negative, mantissa := fraction, exponent := -1074 }
  else
    some
      { negative := negative
        mantissa := 0x10000000000000 + fraction
        exponent := (exponent : Int) - 1075 }

namespace Dyadic

def wholePart (d : Dyadic) : Nat :=
  d.mantissa * Nat.pow 2 d.exponent.toNat / Nat.pow 2 (-d.exponent).toNat

def hasFraction (d : Dyadic) : Bool :=
  d.mantissa * Nat.pow 2 d.exponent.toNat % Nat.pow 2 (-d.exponent).toNat != 0

def signed (d : Dyadic) (size : Nat) : Int :=
  if d.negative then -(size : Int) else size

def truncate (d : Dyadic) : Int :=
  d.signed d.wholePart

def floor (d : Dyadic) : Int :=
  d.signed (if d.negative && d.hasFraction then d.wholePart + 1 else d.wholePart)

def ceil (d : Dyadic) : Int :=
  d.signed (if !d.negative && d.hasFraction then d.wholePart + 1 else d.wholePart)

/-- Nearest integer, a half going away from zero. -/
def round (d : Dyadic) : Int :=
  let scale := Nat.pow 2 (-d.exponent).toNat
  d.signed ((2 * (d.mantissa * Nat.pow 2 d.exponent.toNat) + scale) / (2 * scale))

end Dyadic

/-!
# Integers of floats

A float becomes an integer of the signed 64-bit range by one of the roundings
above. Infinities go to the ends of the range and a NaN goes to zero.
-/

/-- Converts by `rule` where the float is finite, else to an end of the range or zero. -/
def toInt64By (rule : Dyadic -> Int) (x : Float) : Int :=
  match dyadic? x with
  | some d => clampInt64 (rule d)
  | none => if x.isNaN then 0 else if x < 0 then minInt64 else maxInt64

def truncateInt64 : Float -> Int :=
  toInt64By Dyadic.truncate

def floorInt64 : Float -> Int :=
  toInt64By Dyadic.floor

def toIndex (rule : Dyadic -> Int) (x : Float) : Nat :=
  match dyadic? x with
  | some d => (rule d).toNat
  | none => if x.isNaN then 0 else if x < 0 then 0 else 0xFFFFFFFFFFFFFFFF

/-- The nearest float with an integral value; a half goes away from zero. -/
def roundFloat (x : Float) : Float :=
  match dyadic? x with
  | some d => Float.ofInt d.round
  | none => x

def isIntegral (x : Float) : Bool :=
  match dyadic? x with
  | some d => !d.hasFraction
  | none => false

end Number
end Rollup
