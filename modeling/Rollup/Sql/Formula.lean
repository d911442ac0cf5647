/-!
# Boolean formulas

Conditions of a query are built from leaves by conjunction, disjunction and
negation. WHERE and HAVING differ only in their leaves.
-/

namespace Rollup
namespace Sql

inductive Formula (alpha : Type) where
  | all (parts : List (Formula alpha))
  | any (parts : List (Formula alpha))
  | negation (part : Formula alpha)
  | leaf (value : alpha)
deriving Repr

namespace Formula

variable {alpha : Type}

/-!
# Meaning

A formula holds under a valuation of its leaves. The empty conjunction holds and the
empty disjunction does not.
-/

mutual

def holds (valuation : alpha -> Bool) : Formula alpha -> Bool
  | .all parts => holdsAll valuation parts
  | .any parts => holdsAny valuation parts
  | .negation part => !holds valuation part
  | .leaf value => valuation value

def holdsAll (valuation : alpha -> Bool) : List (Formula alpha) -> Bool
  | [] => true
  | part :: rest => holds valuation part && holdsAll valuation rest

def holdsAny (valuation : alpha -> Bool) : List (Formula alpha) -> Bool
  | [] => false
  | part :: rest => holds valuation part || holdsAny valuation rest

end

/-!
# Leaves
-/

mutual

def leaves : Formula alpha -> List alpha
  | .all parts => leavesOf parts
  | .any parts => leavesOf parts
  | .negation part => leaves part
  | .leaf value => [value]

def leavesOf : List (Formula alpha) -> List alpha
  | [] => []
  | part :: rest => leaves part ++ leavesOf rest

end

mutual

def traverse {beta error : Type} (f : alpha -> Except error beta) :
    Formula alpha -> Except error (Formula beta)
  | .all parts => do return .all (<- traverseAll f parts)
  | .any parts => do return .any (<- traverseAll f parts)
  | .negation part => do return .negation (<- traverse f part)
  | .leaf value => do return .leaf (<- f value)

def traverseAll {beta error : Type} (f : alpha -> Except error beta) :
    List (Formula alpha) -> Except error (List (Formula beta))
  | [] => .ok []
  | part :: rest => do
      let first <- traverse f part
      let others <- traverseAll f rest
      return first :: others

end

end Formula
end Sql
end Rollup
