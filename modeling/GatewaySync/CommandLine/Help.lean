import GatewaySync.CommandLine.Options
import GatewaySync.Text.Terminal

/-!
# Help texts

The names of options are in bold letters.  No terminal reads a help text, so the styles are taken
out again, and with them those that come from the environment.
-/

namespace GatewaySync.CommandLine

open Text.Terminal (bold plain)

def programName : String := "gitkube-controller"

/-- What help can be asked about. -/
inductive Topic where
  | program
  | run
  | version
  | help
deriving DecidableEq, Repr

namespace Topic

def ofName? (s : String) : Option Topic :=
  if s = "run" then some .run
  else if s = "version" then some .version
  else if s = "help" then some .help
  else none

def about : Topic → String
  | .program => "Kubernetes controller that keeps the gitkube gateway in sync with Remote resources"
  | .run => "Run the controller"
  | .version => "Show version information"
  | .help => "Print this message or the help of the given subcommand(s)"

def usage : Topic → String
  | .program => programName ++ " <COMMAND>"
  | .run => programName ++ " run [OPTIONS]"
  | .version => programName ++ " version"
  | .help => programName ++ " help [COMMAND]..."

end Topic

def helpIndent : String := "          "

/-- A text of several lines, of which all but the first are moved to the right. -/
def indented (s : String) : String :=
  String.ofList (s.toList.flatMap fun c => if c = '\n' then '\n' :: helpIndent.toList else [c])

/-- An option's two lines: how it is written, and what it does and where it gets its value. -/
def optionHelp (environment : String → Option String) (o : Opt) : List String :=
  let default :=
    match o.default with
    | none => ""
    | some value => " [default: " ++ value ++ "]"
  ["      " ++ bold ("--" ++ o.name) ++ o.displayedValue,
    helpIndent ++ o.help ++ " [env: " ++ o.envName ++ "=" ++
      indented ((environment o.envName).getD "") ++ "]" ++ default]

/-- What follows the usage line. -/
def sections (environment : String → Option String) : Topic → List String
  | .program => [
      "Commands:",
      "  run      " ++ Topic.run.about,
      "  version  " ++ Topic.version.about,
      "  help     " ++ Topic.help.about,
      "",
      "Options:",
      "  -h, --help     Print help",
      "  -V, --version  Print version"]
  | .run =>
    "Options:" :: Opt.all.flatMap (optionHelp environment) ++
      ["  " ++ bold "-h" ++ ", " ++ bold "--help", helpIndent ++ "Print help"]
  | .version => ["Options:", "  -h, --help  Print help"]
  | .help => ["Arguments:", "  [COMMAND]...  Print help for the subcommand(s)"]

def helpText (environment : String → Option String) (t : Topic) : String :=
  let lines := [t.about, "", "Usage: " ++ t.usage, ""] ++ sections environment t
  plain (String.join (lines.map (· ++ "\n")))

end GatewaySync.CommandLine
