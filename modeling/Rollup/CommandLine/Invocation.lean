/-!
# Command lines

A command line names a command and gives it switches and values. Switches have a long
name and mostly a short one; short ones may stand together, and a value may follow its
switch directly, after `=`, or as the next argument.
-/

namespace Rollup
namespace CommandLine

inductive Format where
  | table
  | json
deriving DecidableEq, Repr

inductive Command where
  | explain (sql : String) (pretty : Bool)
  | query (sql : String) (url : Option String) (format : Format)
  | showConfig
  | initConfig (force : Bool)
deriving DecidableEq, Repr

/-- Where switches are allowed: before the command, or after one. -/
inductive Scope where
  | root
  | explain
  | query
  | showConfig
  | initConfig
deriving DecidableEq, Repr

inductive Switch where
  | config
  | pretty
  | url
  | format
  | force
  | help
  | version
deriving DecidableEq, Repr

inductive Invocation where
  | run (configPath : Option String) (command : Command)
  | help (scope : Scope) (long : Bool)
  | version
deriving DecidableEq, Repr

namespace Scope

def switches : Scope -> List Switch
  | .root => [.config, .help, .version]
  | .explain => [.config, .pretty, .help]
  | .query => [.config, .url, .format, .help]
  | .showConfig => [.config, .help]
  | .initConfig => [.config, .force, .help]

/-- How many plain values may be given. -/
def room : Scope -> Nat
  | .explain => 1
  | .query => 1
  | _ => 0

def ofName? : String -> Option Scope
  | "explain" => some .explain
  | "query" => some .query
  | "show-config" => some .showConfig
  | "init-config" => some .initConfig
  | _ => none

end Scope

namespace Switch

def long : Switch -> String
  | .config => "config"
  | .pretty => "pretty"
  | .url => "url"
  | .format => "format"
  | .force => "force"
  | .help => "help"
  | .version => "version"

def short? : Switch -> Option Char
  | .config => some 'c'
  | .pretty => some 'p'
  | .format => some 'f'
  | .help => some 'h'
  | .version => some 'V'
  | _ => none

def takesValue : Switch -> Bool
  | .config => true
  | .url => true
  | .format => true
  | _ => false

end Switch

def Format.ofName? : String -> Option Format
  | "table" => some .table
  | "json" => some .json
  | _ => none

/-!
# Reading arguments
-/

/-- What was given so far: switches with their values, and plain values. -/
structure Given where
  switches : List (Switch × String) := []
  values : List String := []
deriving Repr

namespace Given

def value? (given : Given) (switch : Switch) : Option String :=
  given.switches.lookup switch

def has (given : Given) (switch : Switch) : Bool :=
  (given.value? switch).isSome

def admits (switch : Switch) (value : String) : Bool :=
  match switch with
  | .config => !value.isEmpty
  | .format => (Format.ofName? value).isSome
  | _ => true

def add? (given : Given) (switch : Switch) (value : String) : Option Given :=
  if given.has switch || !admits switch value then
    none
  else
    some { given with switches := (switch, value) :: given.switches }

def addValue? (scope : Scope) (given : Given) (value : String) : Option Given :=
  if given.values.length < scope.room then
    some { given with values := given.values ++ [value] }
  else
    none

end Given

inductive Step where
  | next (given : Given)
  | await (given : Given) (switch : Switch)
  | help (long : Bool)
  | version
  | wrong

def Step.ofGiven? : Option Given -> Step
  | some given => .next given
  | none => .wrong

def isSwitch (argument : String) : Bool :=
  match argument.toList with
  | '-' :: _ :: _ => true
  | _ => false

/-- A long switch: its name, and its value if one follows after `=`. -/
def longStep (scope : Scope) (given : Given) (cs : List Char) : Step :=
  let name := String.ofList (cs.takeWhile (fun c => c != '='))
  let value? :=
    match cs.dropWhile (fun c => c != '=') with
    | [] => none
    | _ :: value => some (String.ofList value)
  match scope.switches.find? (fun switch => switch.long == name) with
  | none => .wrong
  | some switch =>
      if switch.takesValue then
        match value? with
        | some value => Step.ofGiven? (given.add? switch value)
        | none => .await given switch
      else if value?.isSome then
        .wrong
      else
        match switch with
        | .help => .help true
        | .version => .version
        | _ => Step.ofGiven? (given.add? switch "")

def shortStep (scope : Scope) (given : Given) : List Char -> Step
  | [] => .next given
  | c :: rest =>
      match scope.switches.find? (fun switch => switch.short? == some c) with
      | none => .wrong
      | some .help => .help false
      | some .version => .version
      | some switch =>
          if switch.takesValue then
            match rest with
            | [] => .await given switch
            | '=' :: value => Step.ofGiven? (given.add? switch (String.ofList value))
            | value => Step.ofGiven? (given.add? switch (String.ofList value))
          else
            match given.add? switch "" with
            | some given => shortStep scope given rest
            | none => .wrong

def step (scope : Scope) (given : Given) (argument : String) : Step :=
  match argument.toList with
  | '-' :: '-' :: cs => longStep scope given cs
  | '-' :: cs => shortStep scope given cs
  | _ => .wrong

def command? (urlVariable : Option String) (scope : Scope) (given : Given) : Option Command :=
  match scope, given.values with
  | .explain, [sql] => some (.explain sql (given.has .pretty))
  | .query, [sql] =>
      let format := ((given.value? .format).bind Format.ofName?).getD .table
      some (.query sql (given.value? .url <|> urlVariable) format)
  | .showConfig, [] => some .showConfig
  | .initConfig, [] => some (.initConfig (given.has .force))
  | _, _ => none

/-- Reads the arguments after the name of a command. After `--` all of them are plain values. -/
def commandArguments (scope : Scope) : Given -> List String -> Option (Given ⊕ Bool)
  | given, [] => some (.inl given)
  | given, argument :: rest =>
      if argument = "--" then
        (rest.foldlM (Given.addValue? scope) given).map .inl
      else if isSwitch argument then
        match step scope given argument, rest with
        | .next given, rest => commandArguments scope given rest
        | .await given switch, value :: rest =>
            if isSwitch value then
              none
            else
              match given.add? switch value with
              | some given => commandArguments scope given rest
              | none => none
        | .help long, _ => some (.inr long)
        | _, _ => none
      else
        match given.addValue? scope argument with
        | some given => commandArguments scope given rest
        | none => none

def helpCommand? : List String -> Option Invocation
  | [] => some (.help .root true)
  | [name] => (Scope.ofName? name).map (fun scope => .help scope true)
  | _ => none

def named? (urlVariable outerPath : Option String) (name : String) (arguments : List String) :
    Option Invocation :=
  if name = "help" then
    helpCommand? arguments
  else do
    let scope <- Scope.ofName? name
    match (<- commandArguments scope {} arguments) with
    | .inr long => return .help scope long
    | .inl given =>
        let command <- command? urlVariable scope given
        return .run (given.value? .config <|> outerPath) command

def rootArguments (urlVariable : Option String) : Given -> List String -> Option Invocation
  | _, [] => none
  | given, argument :: rest =>
      if argument = "--" then
        none
      else if isSwitch argument then
        match step .root given argument, rest with
        | .next given, rest => rootArguments urlVariable given rest
        | .await given switch, value :: rest =>
            if isSwitch value then
              none
            else
              match given.add? switch value with
              | some given => rootArguments urlVariable given rest
              | none => none
        | .help long, _ => some (.help .root long)
        | .version, _ => some .version
        | _, _ => none
      else
        named? urlVariable (given.value? .config) argument rest

def Invocation.parse? (urlVariable : Option String) (arguments : List String) : Option Invocation :=
  rootArguments urlVariable {} arguments

end CommandLine
end Rollup
