import Rollup.Script.Token

/-!
# Evaluating selector scripts

A script is evaluated while it is read, from left to right. Both sides of a junction
are always evaluated, so that a fault in either is reported. A comparison with a
missing value is false.
-/

namespace Rollup
namespace Script

open Sql (Comparison)

def compareBy : Comparison -> Float -> Float -> Bool
  | .eq, a, b => a == b
  | .notEq, a, b => a != b
  | .lt, a, b => a < b
  | .lte, a, b => a <= b
  | .gt, a, b => a > b
  | .gte, a, b => a >= b

abbrev Parameters := List (String × Option Float)

def operand (parameters : Parameters) : List Token -> Except Fault (Option Float × List Token)
  | .number value :: rest => .ok (some value, rest)
  | .parameter name :: rest =>
      match parameters.lookup name with
      | some value? => .ok (value?, rest)
      | none => .error (.unknownParameter name)
  | token :: _ => .error (.expectedOperand (some token))
  | [] => .error (.expectedOperand none)

def comparison (parameters : Parameters) (input : List Token) :
    Except Fault (Bool × List Token) := do
  let (left, rest) <- operand parameters input
  match rest with
  | .comparison op :: rest =>
      let (right, rest) <- operand parameters rest
      match left, right with
      | some a, some b => return (compareBy op a b, rest)
      | _, _ => return (false, rest)
  | token :: _ => throw (.expectedComparison (some token))
  | [] => throw (.expectedComparison none)

/-- Further parts after `joint`, at most `rounds` of them, joined to a value from the left. -/
def joined (joint : Token) (join : Bool -> Bool -> Bool)
    (part : List Token -> Except Fault (Bool × List Token)) :
    Nat -> Bool -> List Token -> Except Fault (Bool × List Token)
  | rounds + 1, value, token :: rest =>
      if token = joint then do
        let (other, rest) <- part rest
        joined joint join part rounds (join value other) rest
      else
        .ok (value, token :: rest)
  | _, value, rest => .ok (value, rest)

def conjunction (part : List Token -> Except Fault (Bool × List Token)) (input : List Token) :
    Except Fault (Bool × List Token) := do
  let (value, rest) <- part input
  joined .both (fun a b => a && b) part rest.length value rest

def disjunction (part : List Token -> Except Fault (Bool × List Token)) (input : List Token) :
    Except Fault (Bool × List Token) := do
  let (value, rest) <- conjunction part input
  joined .either (fun a b => a || b) (conjunction part) rest.length value rest

/-- A comparison, a negation or a parenthesis, nested up to `depth` times. -/
def part (parameters : Parameters) : Nat -> List Token -> Except Fault (Bool × List Token)
  | depth + 1, .negate :: rest => do
      let (value, rest) <- part parameters depth rest
      return (!value, rest)
  | depth + 1, .leftParen :: rest => do
      let (value, rest) <- disjunction (part parameters depth) rest
      match rest with
      | .rightParen :: rest => return (value, rest)
      | _ => throw .missingParen
  | _, input => comparison parameters input

def evaluate (script : String) (parameters : Parameters) : Except Fault Bool := do
  let input <- tokens script
  let (value, rest) <- disjunction (part parameters input.length) input
  if rest = [] then
    return value
  else
    throw (.trailingInput script)

end Script
end Rollup
