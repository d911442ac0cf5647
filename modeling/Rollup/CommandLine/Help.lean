import Rollup.CommandLine.Invocation

/-!
# Help

The text that explains a command, and the version.
-/

namespace Rollup
namespace CommandLine

def versionText : String := "sqlagg 0.3.0\n"

namespace Scope

def about : Scope -> String
  | .root => "Run SQL aggregations against Elasticsearch"
  | .explain => "Print the search request a query compiles to"
  | .query => "Execute a query and print the result table"
  | .showConfig => "Print the effective configuration"
  | .initConfig => "Write a default configuration file"

def usage : Scope -> String
  | .root => "sqlagg [OPTIONS] <COMMAND>"
  | .explain => "sqlagg explain [OPTIONS] <SQL>"
  | .query => "sqlagg query [OPTIONS] <SQL>"
  | .showConfig => "sqlagg show-config [OPTIONS]"
  | .initConfig => "sqlagg init-config [OPTIONS]"

end Scope

def helpLine (width : Nat) (left right : String) : String :=
  "  " ++ left ++ String.ofList (List.replicate (width - left.length) ' ') ++ "  " ++ right ++ "\n"

def commandLines : String :=
  String.join
    [ "Commands:\n"
    , helpLine 11 "explain" (Scope.about .explain)
    , helpLine 11 "query" (Scope.about .query)
    , helpLine 11 "show-config" (Scope.about .showConfig)
    , helpLine 11 "init-config" (Scope.about .initConfig)
    , helpLine 11 "help" "Print this message or the help of the given subcommand(s)"
    , "\n" ]

def argumentLines (scope : Scope) : String :=
  if scope.room = 0 then
    ""
  else
    "Arguments:\n" ++ helpLine 5 "<SQL>" "SQL statement, or - to read it from stdin" ++ "\n"

def Switch.label : Switch -> String
  | .config => "-c, --config <CONFIG>"
  | .pretty => "-p, --pretty"
  | .url => "    --url <URL>"
  | .format => "-f, --format <FORMAT>"
  | .force => "    --force"
  | .help => "-h, --help"
  | .version => "-V, --version"

def Switch.about (scope : Scope) (urlVariable : String) : Switch -> String
  | .config => "Configuration file path (default: ~/.sqlagg/config.toml)"
  | .pretty => "Pretty-print the request"
  | .url => s!"Cluster URL, overrides the config file [env: SQLAGG_URL={urlVariable}]"
  | .format => "[default: table] [possible values: table, json]"
  | .force => "Overwrite an existing file"
  | .help => if scope = .query then "Print help (see more with '--help')" else "Print help"
  | .version => "Print version"

def switchLines (scope : Scope) (urlVariable : String) : String :=
  "Options:\n"
    ++ String.join
      (scope.switches.map (fun switch =>
        helpLine 21 switch.label (switch.about scope urlVariable)))

def queryParagraphs (urlVariable : String) : String :=
  let gap := "          "
  String.join
    [ "Arguments:\n"
    , "  <SQL>\n"
    , gap ++ "SQL statement, or - to read it from stdin\n\n"
    , "Options:\n"
    , "  -c, --config <CONFIG>\n"
    , gap ++ "Configuration file path (default: ~/.sqlagg/config.toml)\n\n"
    , "      --url <URL>\n"
    , gap ++ "Cluster URL, overrides the config file\n"
    , gap ++ "\n"
    , gap ++ s!"[env: SQLAGG_URL={urlVariable}]\n\n"
    , "  -f, --format <FORMAT>\n"
    , gap ++ "Possible values:\n"
    , gap ++ "- table: Aligned text table\n"
    , gap ++ "- json:  JSON array with one object per row\n"
    , gap ++ "\n"
    , gap ++ "[default: table]\n\n"
    , "  -h, --help\n"
    , gap ++ "Print help (see a summary with '-h')\n" ]

def helpText (urlVariable : Option String) (scope : Scope) (long : Bool) : String :=
  let variableText := urlVariable.getD ""
  scope.about ++ "\n\nUsage: " ++ scope.usage ++ "\n\n"
    ++ (if scope = .query && long then
          queryParagraphs variableText
        else
          (if scope = .root then commandLines else "")
            ++ argumentLines scope ++ switchLines scope variableText)

end CommandLine
end Rollup
