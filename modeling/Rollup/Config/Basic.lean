import Rollup.Config.TomlReader
import Rollup.Config.TomlWriter
import Rollup.Json.Decode
import Rollup.Plan.Basic

/-!
# Configuration

Settings for the cluster, for planning and for logging. A configuration file may leave
out any of them, and may hold others, which are ignored. Variables of the environment
win over the file.
-/

namespace Rollup

structure Config where
  url : String := "http://localhost:9200"
  timeout : Nat := 30000
  username : Option String := none
  password : Option String := none
  /-- Further calls after failures that may pass. -/
  retries : Nat := 2
  planning : Plan.Options := {}
  logLevel : String := "warn,sqlagg=info"
  logFormat : String := "pretty"
deriving DecidableEq, Repr

namespace Config

/-!
# Reading
-/

def fieldOr? {alpha : Type} (item? : Json -> Option alpha) (default : alpha) (name : String)
    (fields : List (String × Json)) : Option alpha :=
  match fields.lookup name with
  | some value => item? value
  | none => some default

def table? (name : String) (fields : List (String × Json)) : Option (List (String × Json)) :=
  fieldOr? Json.toFields? [] name fields

def ofFields? (fields : List (String × Json)) : Option Config := do
  let default : Config := {}
  let backend <- table? "backend" fields
  let compiler <- table? "compiler" fields
  let logging <- table? "logging" fields
  let planning : Plan.Options := {
    bucketSize :=
      <- fieldOr? Json.size? default.planning.bucketSize "default_bucket_size" compiler
    searchSize :=
      <- fieldOr? Json.size? default.planning.searchSize "default_search_size" compiler }
  return {
    url := <- fieldOr? Json.toString? default.url "url" backend
    timeout := <- fieldOr? Json.size? default.timeout "timeout_ms" backend
    username := <- Json.optional? Json.toString? "username" backend
    password := <- Json.optional? Json.toString? "password" backend
    retries := <- fieldOr? Json.size? default.retries "retries" backend
    planning := planning
    logLevel := <- fieldOr? Json.toString? default.logLevel "level" logging
    logFormat := <- fieldOr? Json.toString? default.logFormat "format" logging }

def ofText? (text : String) : Option Config := do
  let fields <- Toml.parse? text
  ofFields? (Toml.Value.jsonFields fields)

/-!
# Writing
-/

def optionalEntry (key : String) : Option String -> List (String × String)
  | some value => [(key, Toml.quote value)]
  | none => []

def text (config : Config) : String :=
  let backend :=
    [("url", Toml.quote config.url), ("timeout_ms", toString config.timeout)]
      ++ optionalEntry "username" config.username
      ++ optionalEntry "password" config.password
      ++ [("retries", toString config.retries)]
  let compiler :=
    [ ("default_bucket_size", toString config.planning.bucketSize)
    , ("default_search_size", toString config.planning.searchSize) ]
  let logging :=
    [("level", Toml.quote config.logLevel), ("format", Toml.quote config.logFormat)]
  String.intercalate "\n"
    [ Toml.tableText "backend" backend
    , Toml.tableText "compiler" compiler
    , Toml.tableText "logging" logging ]

def masked (config : Config) : Config :=
  { config with password := config.password.map (fun _ => "********") }

/-!
# Environment
-/

/-- The settings with those of the environment, where `lookup` finds a variable. -/
def withVariables (lookup : String -> Option String) (config : Config) : Config :=
  { config with
    url := (lookup "SQLAGG_URL").getD config.url
    username := lookup "SQLAGG_USERNAME" <|> config.username
    password := lookup "SQLAGG_PASSWORD" <|> config.password }

def joinPath (directory path : String) : String :=
  if path.startsWith "/" then path
  else if directory.endsWith "/" then directory ++ path
  else directory ++ "/" ++ path

/-- A path with `~` in front replaced by the home directory, which has to be known then. -/
def expandHome? (home? : Option String) (path : String) : Option String :=
  match path.toList with
  | ['~'] => home?
  | '~' :: '/' :: rest => home?.map (fun home => joinPath home (String.ofList rest))
  | _ => some path

/-- Where the configuration file is unless another place is given. -/
def defaultPath (home? : Option String) : String :=
  joinPath (home?.getD ".") ".sqlagg/config.toml"

end Config
end Rollup
