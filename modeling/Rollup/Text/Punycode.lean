/-!
# Punycode

An ASCII form of a text in which the plain characters come first and every other is
given by the distance to it, in digits of varying weight.
-/

namespace Rollup
namespace Text
namespace Punycode

def digitChar (digit : Nat) : Char :=
  if digit < 26 then Char.ofNat (97 + digit) else Char.ofNat (22 + digit)

def threshold (place bias : Nat) : Nat :=
  if place <= bias then 1 else if bias + 26 <= place then 26 else place - bias

theorem threshold_pos (place bias : Nat) : 0 < threshold place bias := by
  unfold threshold
  split
  case isTrue => omega
  case isFalse =>
      split <;> omega

def digits (bias place distance : Nat) : List Char :=
  let least := threshold place bias
  if distance < least then
    [digitChar distance]
  else
    digitChar (least + (distance - least) % (36 - least))
      :: digits bias (place + 36) ((distance - least) / (36 - least))
termination_by distance
decreasing_by
  have pos := threshold_pos place bias
  have small : (distance - threshold place bias) / (36 - threshold place bias)
      <= distance - threshold place bias := Nat.div_le_self _ _
  omega

def scale (distance place : Nat) : Nat × Nat :=
  if 455 < distance then scale (distance / 35) (place + 36) else (distance, place)
termination_by distance
decreasing_by
  exact Nat.div_lt_self (by omega) (by omega)

/-- The bias after a distance, `count` characters being written. -/
def adapt (first : Bool) (distance count : Nat) : Nat :=
  let start := if first then distance / 700 else distance / 2
  let (left, place) := scale (start + start / count) 0
  place + 36 * left / (left + 38)

structure State where
  distance : Nat := 0
  bias : Nat := 72
  written : Nat
  plain : Nat
  text : List Char := []

def pass (code : Nat) (state : State) (c : Char) : State :=
  if c.toNat < code then
    { state with distance := state.distance + 1 }
  else if c.toNat = code then
    { state with
      distance := 0
      bias := adapt (state.written == state.plain) state.distance (state.written + 1)
      written := state.written + 1
      text := state.text ++ digits state.bias 36 state.distance }
  else
    state

/-- Writes the code points in ascending order, `last` being the bound reached so far. -/
def passes (cs : List Char) : List Nat -> Nat -> State -> State
  | [], _, state => state
  | code :: rest, last, state =>
      let start :=
        { state with distance := state.distance + (code - last) * (state.written + 1) }
      let done := cs.foldl (pass code) start
      passes cs rest (code + 1) { done with distance := done.distance + 1 }

def isPlain (c : Char) : Bool :=
  c.toNat < 128

def encode (cs : List Char) : List Char :=
  let plain := cs.filter isPlain
  let codes :=
    (((cs.filter (fun c => !isPlain c)).map Char.toNat).eraseDups).mergeSort
      (fun a b => decide (a <= b))
  let state := passes cs codes 128 { written := plain.length, plain := plain.length }
  (if plain.isEmpty then [] else plain ++ ['-']) ++ state.text

end Punycode
end Text
end Rollup
