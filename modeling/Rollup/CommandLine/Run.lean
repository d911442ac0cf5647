import Rollup.Client
import Rollup.Cluster.Search
import Rollup.CommandLine.Help
import Rollup.Json.Printer

/-!
# Running a command

A command either finishes by itself or has a question for a cluster, whose answer
concludes it. Nothing here touches files or connections: what a command needs of the
outside is given to it, and what it leaves there is part of its outcome.
-/

namespace Rollup
namespace CommandLine

structure Surroundings where
  lookup : String -> Option String
  file : String -> Option String
  input : String
  home : Option String

structure Outcome where
  code : Nat
  output : String := ""
  complaint : String := ""
  written : Option (String × String) := none
deriving DecidableEq, Repr

def Outcome.done (output : String) : Outcome :=
  { code := 0, output := output }

def Outcome.failed (message : String) : Outcome :=
  { code := 1, complaint := s!"Error: {message}\n" }

def Outcome.misused : Outcome :=
  { code := 2, complaint := s!"Usage: {Scope.usage .root}\n" }

/-- A question for a cluster, and how its answer is to be printed. -/
structure Question where
  cluster : Cluster
  plan : Plan
  timeout : Nat
  retries : Nat
  format : Format

inductive Action where
  | finish (outcome : Outcome)
  | ask (question : Question)

def urlVariable : String := "SQLAGG_URL"

def queryText (surroundings : Surroundings) (argument : String) : String :=
  if argument = "-" then surroundings.input else argument

def explainText (plan : Plan) (pretty : Bool) : String :=
  let value :=
    Json.ofFields
      [ ("path", .str plan.request.path)
      , ("body", plan.request.body.json)
      , ("columns", .arr (plan.columns.map (fun column => .str column.name))) ]
  (if pretty then value.pretty else value.text) ++ "\n"

def explainQuery (config : Config) (sql : String) (pretty : Bool) : Outcome :=
  match Plan.ofText config.planning sql with
  | .ok plan => .done (explainText plan pretty)
  | .error error => .failed error.message

/-- The question of a query. The address is looked at before the query. -/
def question (config : Config) (sql : String) (format : Format) : Except String Question :=
  match Cluster.ofConfig? config with
  | none => .error (BackendError.http s!"invalid URL '{config.url}'").message
  | some cluster =>
      match Plan.ofText config.planning sql with
      | .error error => .error error.message
      | .ok plan =>
          .ok
            { cluster := cluster
              plan := plan
              timeout := config.timeout
              retries := config.retries
              format := format }

/-- Writes the default settings, over an existing file only by force. -/
def writeDefaults (surroundings : Surroundings) (path : String) (force : Bool) : Outcome :=
  if (surroundings.file path).isSome && !force then
    .failed s!"Config {path} already exists, use --force to overwrite"
  else
    { code := 0
      output := s!"Wrote {path}\n"
      written := some (path, ({} : Config).text) }

def settings? (surroundings : Surroundings) (path : String) : Option Config :=
  let stored :=
    match surroundings.file path with
    | some text => Config.ofText? text
    | none => some {}
  stored.map (Config.withVariables surroundings.lookup)

def Command.act (surroundings : Surroundings) (path : String) (config : Config) :
    Command -> Action
  | .explain sql pretty => .finish (explainQuery config (queryText surroundings sql) pretty)
  | .query sql url format =>
      let aimed := { config with url := url.getD config.url }
      match question aimed (queryText surroundings sql) format with
      | .ok question => .ask question
      | .error message => .finish (.failed message)
  | .showConfig => .finish (.done config.masked.text)
  | .initConfig force => .finish (writeDefaults surroundings path force)

def configPath? (home : Option String) (given : Option String) : Option String :=
  Config.expandHome? home (given.getD (Config.defaultPath home))

def Invocation.act (surroundings : Surroundings) : Invocation -> Action
  | .version => .finish (.done versionText)
  | .help scope long => .finish (.done (helpText (surroundings.lookup urlVariable) scope long))
  | .run given command =>
      match configPath? surroundings.home given with
      | none => .finish (.failed "Cannot determine home directory")
      | some path =>
          match settings? surroundings path with
          | none => .finish (.failed s!"Invalid config {path}")
          | some config => command.act surroundings path config

def act (surroundings : Surroundings) (arguments : List String) : Action :=
  match Invocation.parse? (surroundings.lookup urlVariable) arguments with
  | some invocation => invocation.act surroundings
  | none => .finish .misused

/-!
# Answers
-/

def Format.render (format : Format) (table : Table) : String :=
  match format with
  | .table => table.render
  | .json => table.json.pretty ++ "\n"

def Question.conclude (question : Question) (answer : Except Error Answer) : Outcome :=
  match answer with
  | .ok answer => .done (question.format.render (answer.table question.plan.columns))
  | .error error => .failed error.message

def run (surroundings : Surroundings) (backend : Cluster -> Client.Backend)
    (arguments : List String) : Outcome :=
  match act surroundings arguments with
  | .finish outcome => outcome
  | .ask question =>
      question.conclude (Client.run (backend question.cluster) question.retries question.plan).1

end CommandLine
end Rollup
