import Rollup.Answer.Table
import Rollup.Store.Basic

/-!
# The client

A client plans a query, has a backend run the request, and reads the response. Errors
that may pass are answered by calling the backend again, a limited number of times.
-/

namespace Rollup
namespace Client

abbrev Backend := Nat -> Request.Search -> Except BackendError Json

/-- A computation that calls a backend, with the requests sent so far as its state. -/
abbrev Sending := StateM (List Request.Search)

def send (backend : Backend) (request : Request.Search) : Sending (Except BackendError Json) := do
  let sent <- get
  set (sent ++ [request])
  return backend sent.length request

/-- Calls the backend, again up to `retries` times while it may help. -/
def sendUpTo (backend : Backend) (request : Request.Search) :
    Nat -> Sending (Except BackendError Json)
  | 0 => send backend request
  | retries + 1 => do
      match <- send backend request with
      | .ok response => return .ok response
      | .error error =>
          if error.isRetryable then
            sendUpTo backend request retries
          else
            return .error error

def execute (backend : Backend) (retries : Nat) (plan : Plan) : Sending (Except Error Answer) := do
  match <- sendUpTo backend plan.request retries with
  | .ok response => return Answer.read plan.request response
  | .error error => return .error (.backend error)

def queryAs {alpha : Type} (shown : Plan -> Answer -> alpha) (options : Plan.Options)
    (backend : Backend) (retries : Nat) (sql : String) : Sending (Except Error alpha) :=
  match Plan.ofText options sql with
  | .error error => return .error error
  | .ok plan => do
      let answer <- execute backend retries plan
      return answer.map (shown plan)

def run (backend : Backend) (retries : Nat) (plan : Plan) : Except Error Answer × Nat :=
  let (result, sent) := (execute backend retries plan).run []
  (result, sent.length)

def queryTable (options : Plan.Options) (backend : Backend) (retries : Nat) (sql : String) :
    Except Error Table × Nat :=
  let (result, sent) :=
    (queryAs (fun plan answer => answer.table plan.columns) options backend retries sql).run []
  (result, sent.length)

end Client

namespace Store

def answer (store : Store) (plan : Plan) : Except Error Answer :=
  match store.search plan.request with
  | .ok response => Answer.read plan.request response.json
  | .error error => .error (.backend error)

end Store
end Rollup
