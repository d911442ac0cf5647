import Rollup.Proofs.Outcome
import Rollup.Sql.Parser

/-!
# Counting the levels of a condition

The parsers of conditions go by the levels of nesting that are left. Here the same rules
count the levels they are inside, up on the way in and down on the way out, and every
rule that is entered takes a frame of a stack that can overflow. Both ways of counting
give the same outcome, and the stack they need depends on the deepest nesting only.
-/

namespace Rollup
namespace Sql

variable {alpha beta : Type}

/-- A cursor and the number of levels it is inside. -/
structure Standing where
  cursor : Cursor
  depth : Nat

inductive Halt where
  | fault (e : SyntaxError)
  | overflow

abbrev CountingParser (alpha : Type) := Standing -> Except Halt (alpha × Standing)

def lifted (depth : Nat) : Except SyntaxError (alpha × Cursor) -> Except Halt (alpha × Standing)
  | .ok (value, cur) => .ok (value, { cursor := cur, depth := depth })
  | .error e => .error (.fault e)

/-- One level further in, unless there are too many; the lexeme that opens the level is
already passed. -/
def nested (body : CountingParser alpha) (standing : Standing) :
    Except Halt (alpha × Standing) :=
  if maxNesting <= standing.depth then
    lifted standing.depth (standing.cursor.failBefore .nestedTooDeep)
  else do
    let (value, after) ← body { standing with depth := standing.depth + 1 }
    .ok (value, { after with depth := after.depth - 1 })

def repeatedWithin (isSeparator : Cursor -> Bool) (item : CountingParser alpha) :
    Nat -> CountingParser (List alpha)
  | 0, standing => do
      let (value, standing) ← item standing
      .ok ([value], standing)
  | rounds + 1, standing => do
      let (value, standing) ← item standing
      if isSeparator standing.cursor then
        let (values, standing) ←
          repeatedWithin isSeparator item rounds { standing with cursor := standing.cursor.next }
        .ok (value :: values, standing)
      else
        .ok ([value], standing)

def repeated (isSeparator : Cursor -> Bool) (item : CountingParser alpha) (standing : Standing) :
    Except Halt (List alpha × Standing) :=
  repeatedWithin isSeparator item standing.cursor.rest.length standing

/-- The rules for conditions that call each other. -/
inductive Rule where
  | part
  | conjunction
  | disjunction

namespace Rule

def parser (leaf : Parser alpha) (levels : Nat) : Rule -> Parser (Formula alpha)
  | .part => formulaPart leaf levels
  | .conjunction => Sql.conjunction (formulaPart leaf levels)
  | .disjunction => Sql.disjunction (formulaPart leaf levels)

def frames : Rule -> Nat
  | .part => 1
  | .conjunction => 2
  | .disjunction => 3

theorem frames_pos (rule : Rule) : 0 < rule.frames := by
  cases rule <;> decide

theorem frames_le (rule : Rule) : rule.frames <= 3 := by
  cases rule <;> decide

end Rule

def counted (leaf : Parser alpha) : Nat -> Rule -> CountingParser (Formula alpha)
  | 0, _, _ => .error .overflow
  | stack + 1, .disjunction, standing => do
      let (parts, standing) ←
        repeated (fun cur => cur.isAtKeyword "OR") (counted leaf stack .conjunction) standing
      .ok (joined .any parts, standing)
  | stack + 1, .conjunction, standing => do
      let (parts, standing) ←
        repeated (fun cur => cur.isAtKeyword "AND") (counted leaf stack .part) standing
      .ok (joined .all parts, standing)
  | stack + 1, .part, standing =>
      let inside := { standing with cursor := standing.cursor.next }
      if standing.cursor.isAtKeyword "NOT" then
        nested
          (fun standing => do
            let (part, standing) ← counted leaf stack .part standing
            .ok (.negation part, standing))
          inside
      else if standing.cursor.isAt .leftParen then
        nested
          (fun standing => do
            let (part, standing) ← counted leaf stack .disjunction standing
            lifted standing.depth do
              let cur ← standing.cursor.expect .rightParen
              .ok (part, cur))
          inside
      else
        lifted standing.depth do
          let (value, cur) ← leaf standing.cursor
          .ok (.leaf value, cur)

/-- Frames enough for every condition: three rules for each level and for the outermost. -/
def stackLimit : Nat := 3 * (maxNesting + 1)

/-!
# Both ways of counting agree
-/

theorem lifted_bind {depth : Nat} {x : Except SyntaxError (alpha × Cursor)}
    {f : alpha × Cursor -> Except SyntaxError (beta × Cursor)}
    {g : alpha × Standing -> Except Halt (beta × Standing)}
    (h : forall value cur,
      g (value, { cursor := cur, depth := depth }) = lifted depth (f (value, cur))) :
    (lifted depth x >>= g) = lifted depth (x >>= f) := by
  cases x with
  | error e => rfl
  | ok found => exact h found.1 found.2

theorem lifted_eq_ok {depth : Nat} {x : Except SyntaxError (alpha × Cursor)} {value : alpha}
    {after : Standing} (h : lifted depth x = .ok (value, after)) :
    after.depth = depth ∧ x = .ok (value, after.cursor) := by
  cases x with
  | error e => cases h
  | ok found =>
      cases h
      exact ⟨rfl, rfl⟩

theorem lifted_ne_overflow (depth : Nat) (x : Except SyntaxError (alpha × Cursor)) :
    lifted depth x ≠ .error .overflow := by
  intro h
  cases x with
  | error e => cases h
  | ok found => cases h

section

variable {depth : Nat}

theorem nested_eq {body : CountingParser alpha} {cur : Cursor}
    {x : Except SyntaxError (alpha × Cursor)} (hdepth : depth < maxNesting)
    (h : body { cursor := cur, depth := depth + 1 } = lifted (depth + 1) x) :
    nested body { cursor := cur, depth := depth } = lifted depth x := by
  unfold nested
  rw [if_neg (Nat.not_le.mpr hdepth), h]
  cases x with
  | error e => rfl
  | ok found => rfl

theorem nested_of_le (hdepth : maxNesting <= depth) (body : CountingParser alpha) (cur : Cursor) :
    nested body { cursor := cur, depth := depth } =
      lifted depth (cur.failBefore .nestedTooDeep) :=
  if_pos hdepth

variable {isSeparator : Cursor -> Bool} {item : CountingParser alpha} {f : Parser alpha}

theorem repeatedWithin_eq
    (h : forall cur, item { cursor := cur, depth := depth } = lifted depth (f cur))
    (rounds : Nat) (cur : Cursor) :
    repeatedWithin isSeparator item rounds { cursor := cur, depth := depth } =
      lifted depth (separatedWithin isSeparator f rounds cur) := by
  induction rounds generalizing cur with
  | zero =>
      unfold repeatedWithin separatedWithin
      rw [h cur]
      exact lifted_bind (fun _ _ => rfl)
  | succ rounds ih =>
      unfold repeatedWithin separatedWithin
      rw [h cur]
      refine lifted_bind (fun value after => ?_)
      dsimp only
      split
      · rw [ih after.next]
        exact lifted_bind (fun _ _ => rfl)
      · rfl

theorem repeated_eq
    (h : forall cur, item { cursor := cur, depth := depth } = lifted depth (f cur))
    (cur : Cursor) :
    repeated isSeparator item { cursor := cur, depth := depth } =
      lifted depth (separated isSeparator f cur) :=
  repeatedWithin_eq h cur.rest.length cur

end

theorem counted_eq (leaf : Parser alpha) {stack levels depth : Nat} {rule : Rule}
    (hdepth : depth + levels = maxNesting) (hstack : 3 * levels + rule.frames <= stack)
    (cur : Cursor) :
    counted leaf stack rule { cursor := cur, depth := depth } =
      lifted depth (rule.parser leaf levels cur) := by
  -- Every call has one frame less, and fewer levels left or a rule with fewer frames.
  induction stack generalizing levels depth rule cur with
  | zero =>
      have hframes := rule.frames_pos
      omega
  | succ stack ih =>
      cases rule with
      | disjunction =>
          have hparts : forall cur,
              counted leaf stack .conjunction { cursor := cur, depth := depth } =
                lifted depth (conjunction (formulaPart leaf levels) cur) :=
            ih hdepth (Nat.le_of_succ_le_succ hstack)
          unfold counted
          rw [repeated_eq hparts]
          exact lifted_bind (fun _ _ => rfl)
      | conjunction =>
          have hparts : forall cur,
              counted leaf stack .part { cursor := cur, depth := depth } =
                lifted depth (formulaPart leaf levels cur) :=
            ih hdepth (Nat.le_of_succ_le_succ hstack)
          unfold counted
          rw [repeated_eq hparts]
          exact lifted_bind (fun _ _ => rfl)
      | part =>
          show _ = lifted depth (formulaPart leaf levels cur)
          cases levels with
          | zero =>
              unfold counted formulaPart
              dsimp only
              split
              · exact nested_of_le (Nat.le_of_eq hdepth.symm) _ cur.next
              split
              · exact nested_of_le (Nat.le_of_eq hdepth.symm) _ cur.next
              · rfl
          | succ levels =>
              have hdeeper : depth + 1 + levels = maxNesting := by omega
              have hroom : depth < maxNesting := by omega
              have hframes : forall inner : Rule, 3 * levels + inner.frames <= stack := by
                intro inner
                have hmost := inner.frames_le
                rw [Rule.frames] at hstack
                omega
              unfold counted formulaPart
              dsimp only
              split
              · refine nested_eq hroom ?_
                rw [ih hdeeper (hframes .part)]
                exact lifted_bind (fun _ _ => rfl)
              split
              · refine nested_eq hroom ?_
                rw [ih hdeeper (hframes .disjunction)]
                exact lifted_bind (fun _ _ => rfl)
              · rfl

theorem counted_stackLimit (leaf : Parser alpha) (rule : Rule) {depth : Nat}
    (h : depth <= maxNesting) (cur : Cursor) :
    counted leaf stackLimit rule { cursor := cur, depth := depth } =
      lifted depth (rule.parser leaf (maxNesting - depth) cur) := by
  have hmost := rule.frames_le
  refine counted_eq leaf (by omega) ?_ cur
  rw [stackLimit]
  omega

end Sql
end Rollup
