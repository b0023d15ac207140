import GatewaySync.CommandLine.Arguments
import GatewaySync.CommandLine.Help
import GatewaySync.Endpoints
import GatewaySync.Json.Block
import GatewaySync.Logging
import GatewaySync.Remote.Definition

/-!
# The command line

What the program prints and how it ends, up to the point where it needs a cluster.
-/

namespace GatewaySync.CommandLine

/-- What the arguments ask for. -/
inductive Command where
  | run (options : Values)
  | version
  | help (topic : Topic)
  /-- Nothing was asked for, so the help text takes the place of an error. -/
  | nothing
  /-- The version, told as an option. -/
  | versionOption
  | refused (e : UsageError)

/-- What an interrupted reading asks for. -/
def Interruption.command (topic : Topic) : Interruption → Command
  | .help => .help topic
  | .version => .versionOption
  | .usage e => .refused e

/-- The topic that names lead to.  Commands have no commands of their own. -/
def topicOf : List String → Except UsageError Topic
  | [] => .ok .program
  | name :: rest =>
    match Topic.ofName? name, rest with
    | none, _ => .error (.unknownCommand name)
    | some topic, [] => .ok topic
    | some _, next :: _ => .error (.unknownCommand next)

/-- The `run` command's options, from the arguments and then from the environment. -/
def readRun (environment : String → Option String) (args : List String) : Command :=
  let read := do
    let r ← readOptions Opt.all {} args
    readEnvironment Opt.all environment r
  match read with
  | .ok r => .run r.values
  | .error i => i.command .run

def readVersion (args : List String) : Command :=
  match readOptions [] {} args with
  | .ok _ => .version
  | .error i => i.command .version

/-- Behind two dashes alone nothing is a command any more. -/
def readEscaped : List String → Command
  | [] => .nothing
  | a :: _ =>
    match Topic.ofName? a with
    | some _ => .refused (.unexpectedArgument a)
    | none => .refused (.unknownCommand a)

/-- Reads the arguments of the program. -/
def readCommand (environment : String → Option String) : List String → Command
  | [] => .nothing
  | a :: rest =>
    match Topic.ofName? a with
    | some .run => readRun environment rest
    | some .version => readVersion rest
    | some _ =>
      match topicOf rest with
      | .ok topic => .help topic
      | .error e => .refused e
    | none =>
      let interrupted : Except Interruption Reading :=
        match shapeOf a with
        | .escape => .ok {}
        | .long name value =>
          Reading.meetLong [] true {} (String.ofList name) (value.map String.ofList)
        | .short letter => Reading.meetShort true {} letter
        | .plain => .error (.usage (.unknownCommand a))
      match interrupted with
      | .ok _ => readEscaped rest
      | .error i => i.command .program

/-- How the program ends. -/
structure Outcome where
  exit : Nat
  printed : String := ""
  /-- What is logged, and whether as JSON. -/
  records : List LogRecord := []
  asJson : Bool := false
  complaints : String := ""

def logTarget : String := "gitkube_controller"

def info (message : String) : LogRecord := ⟨.info, logTarget, message⟩

/-- Where the gateway is, as it is logged. -/
def gatewayLine (s : Settings) : String :=
  let place (name : String) : String := NamespacedName.path ⟨s.ns, name⟩
  "Gateway: ConfigMap " ++ place s.configMap ++ ", Deployment " ++ place s.deployment ++
    ", Service " ++ place s.service

def complaintOf (part : String) (fault : LogDirective.Fault) : String :=
  "ignoring \x60" ++ part ++ "\x60: " ++ fault.message ++ "\n"

/-- The variable that says what is logged. -/
def logFilterVariable : String := "RUST_LOG"

/-- Starts the controller, which fails for want of a cluster. -/
def runOutcome (environment : String → Option String) (options : Values) : Outcome :=
  let filter := LogFilter.ofText ((environment logFilterVariable).getD "")
  let complaints := String.join (filter.refused.map fun r => complaintOf r.1 r.2)
  let asJson := options.wantsJsonLogs
  match options.settings.checked with
  | .error (.configuration problem) =>
    { exit := 1, asJson
      complaints := complaints ++ "Error: ConfigError(" ++ Text.quoted problem ++ ")\n" }
  | .error f => { exit := 1, asJson, complaints := complaints ++ "Error: " ++ f.message ++ "\n" }
  | .ok settings =>
    let records := [info ("Starting " ++ programName ++ " v" ++ Endpoint.version),
      info (gatewayLine settings)]
    { exit := 1, asJson, records := records.filter filter.writes
      complaints := complaints ++ "Error: KubeError(no cluster to connect to)\n" }

def outcomeOf (environment : String → Option String) : Command → Outcome
  | .run options => runOutcome environment options
  | .version => { exit := 0, printed := programName ++ " v" ++ Endpoint.version ++ "\n" }
  | .versionOption => { exit := 0, printed := programName ++ " " ++ Endpoint.version ++ "\n" }
  | .help topic => { exit := 0, printed := helpText environment topic }
  | .nothing => { exit := 2, complaints := helpText environment .program }
  | .refused e => { exit := 2, complaints := "error: " ++ e.message ++ "\n" }

/-- Runs the program with arguments, in an environment. -/
def run (environment : String → Option String) (args : List String) : Outcome :=
  outcomeOf environment (readCommand environment args)

/-- The second program prints the definition of Remotes, whatever its arguments. -/
def printDefinition : Outcome := { exit := 0, printed := Remote.definition.blockText }

end GatewaySync.CommandLine
