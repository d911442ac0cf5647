import Rollup.Number.Dyadic

/-!
# Shortest digits

The digits written for a float are the fewest that read back to it, and of those
the ones nearest to its exact value. The search compares naturals only: the
decimals that read back form an interval around the value, and for each number of
digits the two neighbours of the value on that decimal grid are tried.
-/

namespace Rollup
namespace Number

structure Decimal where
  digits : Nat
  exponent : Int
deriving DecidableEq, Repr

/-- Which of two equally near decimals is taken. -/
inductive Tie where
  | toEven
  | upward
deriving DecidableEq, Repr

def compareScaled (a : Nat) (i : Int) (n : Nat) (j : Int) : Ordering :=
  compare (a * Nat.pow 10 i.toNat * Nat.pow 2 (-j).toNat)
    (n * Nat.pow 2 j.toNat * Nat.pow 10 (-i).toNat)

namespace Dyadic

def narrowBelow (d : Dyadic) : Bool :=
  d.mantissa == 0x10000000000000 && -1074 < d.exponent

/-- The decimal lies among the numbers that round to this size, ties to even. -/
def readsBack (d : Dyadic) (c : Decimal) : Bool :=
  let low := if d.narrowBelow then 4 * d.mantissa - 1 else 4 * d.mantissa - 2
  let high := 4 * d.mantissa + 2
  let ends := d.mantissa % 2 == 0
  let below := compareScaled c.digits c.exponent low (d.exponent - 2)
  let above := compareScaled c.digits c.exponent high (d.exponent - 2)
  (below == .gt || (ends && below == .eq)) && (above == .lt || (ends && above == .eq))

def below (d : Dyadic) (k : Int) : Bool :=
  compareScaled 1 k d.mantissa d.exponent == .gt

/-- Least `k`, from `k` on upward within the given number of steps, with the size below `10 ^ k`. -/
def scaleFrom (d : Dyadic) : Nat -> Int -> Int
  | 0, k => k
  | steps + 1, k => if d.below k then k else scaleFrom d steps (k + 1)

/-- Position of the leading digit: least `k` with the size below `10 ^ k`. -/
def scale (d : Dyadic) : Int :=
  let log := (Nat.log2 d.mantissa : Int) + d.exponent
  scaleFrom d 4 (log * 30103 / 100000 - 1)

/-- Greatest multiple of `10 ^ e` that is at most the size. -/
def gridFloor (d : Dyadic) (e : Int) : Nat :=
  d.mantissa * Nat.pow 2 d.exponent.toNat * Nat.pow 10 (-e).toNat
    / (Nat.pow 10 e.toNat * Nat.pow 2 (-d.exponent).toNat)

def nearer (d : Dyadic) (tie : Tie) (e : Int) (floor : Nat) : Nat :=
  match compareScaled (2 * floor + 1) e (2 * d.mantissa) d.exponent with
  | .lt => floor + 1
  | .gt => floor
  | .eq =>
      match tie with
      | .upward => floor + 1
      | .toEven => if floor % 2 == 0 then floor else floor + 1

def onGrid? (d : Dyadic) (tie : Tie) (k : Int) (count : Nat) : Option Decimal :=
  let e := k - (count : Int)
  let floor := d.gridFloor e
  let low : Decimal := { digits := floor, exponent := e }
  let high : Decimal := { digits := floor + 1, exponent := e }
  match d.readsBack low, d.readsBack high with
  | true, true => some { digits := d.nearer tie e floor, exponent := e }
  | true, false => some low
  | false, true => some high
  | false, false => none

def exactDecimal (d : Dyadic) : Decimal :=
  { digits := d.mantissa * Nat.pow 2 d.exponent.toNat * Nat.pow 5 (-d.exponent).toNat
    exponent := if d.exponent < 0 then d.exponent else 0 }

end Dyadic

def Decimal.stripWithin : Nat -> Decimal -> Decimal
  | 0, c => c
  | steps + 1, c =>
      if c.digits != 0 && c.digits % 10 == 0 then
        stripWithin steps { digits := c.digits / 10, exponent := c.exponent + 1 }
      else
        c

/-- The shortest decimal that reads back to the size of `d`, which is not zero. -/
def Dyadic.shortest (d : Dyadic) (tie : Tie) : Decimal :=
  let k := d.scale
  match (List.range 17).findSome? (fun n => d.onGrid? tie k (n + 1)) with
  | some c => c.stripWithin 20
  | none => d.exactDecimal

end Number
end Rollup
