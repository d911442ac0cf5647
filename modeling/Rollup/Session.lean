import Rollup.Client

/-!
# Sessions

A session keeps a store and planning options from one command to the next. A command
that fails changes nothing.
-/

namespace Rollup

structure Session where
  store : Store := {}
  options : Plan.Options := {}
deriving Repr

namespace Session

inductive Command where
  | add (index : String) (docType : Option String) (sources : List Json)
  | setNow (now : Calendar.Instant)
  | setOptions (options : Plan.Options)
  | explain (sql : String)
  | query (sql : String)
  | table (sql : String)
  | search (request : Request.Search)
deriving Repr

inductive Outcome where
  | stored (count : Nat)
  | now (now : Calendar.Instant)
  | options (options : Plan.Options)
  | plan (plan : Plan)
  | answer (answer : Answer)
  | table (table : Table)
  | response (response : Store.Response)
deriving Repr

def answerQuery (session : Session) (sql : String) : Except Error (Plan × Answer) := do
  let plan <- Plan.ofText session.options sql
  let answer <- session.store.answer plan
  return (plan, answer)

def step (session : Session) : Command -> Except Error (Session × Outcome)
  | .add index docType sources =>
      let store := session.store.insert index docType sources
      .ok ({ session with store := store }, .stored store.docs.length)
  | .setNow now => .ok ({ session with store := { session.store with now := now } }, .now now)
  | .setOptions options => .ok ({ session with options := options }, .options options)
  | .explain sql => do
      let plan <- Plan.ofText session.options sql
      return (session, .plan plan)
  | .query sql => do
      let (_, answer) <- session.answerQuery sql
      return (session, .answer answer)
  | .table sql => do
      let (plan, answer) <- session.answerQuery sql
      return (session, .table (answer.table plan.columns))
  | .search request =>
      match session.store.search request with
      | .ok response => .ok (session, .response response)
      | .error error => .error (.backend error)

def run (session : Session) (command : Command) : Session × Except Error Outcome :=
  match session.step command with
  | .ok (next, outcome) => (next, .ok outcome)
  | .error error => (session, .error error)

end Session
end Rollup
