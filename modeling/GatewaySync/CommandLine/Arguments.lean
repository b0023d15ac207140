import GatewaySync.CommandLine.Options
import GatewaySync.Text.Terminal

/-!
# Reading arguments

Arguments are read from left to right.  An option's value follows it after an equals sign or as
the next argument; it is checked when the next option is met or the arguments end, so an argument
that nobody knows is reported first.  After two dashes alone nothing is taken for an option.
-/

namespace GatewaySync.CommandLine

inductive UsageError where
  | unexpectedArgument (argument : String)
  | unknownCommand (name : String)
  | missingValue (option : String)
  | unexpectedValue (value option : String)
  | repeated (option : String)
  | invalidValue (value option problem : String)
  /-- A value that is none of the possible ones. -/
  | impossibleValue (value option : String)
deriving DecidableEq, Repr

/-- What was given stands in quotes, without what could steer a terminal. -/
def cited (given : String) : String := "'" ++ Text.Terminal.plain given ++ "'"

def UsageError.message : UsageError → String
  | .unexpectedArgument a => "unexpected argument " ++ cited a ++ " found"
  | .unknownCommand name => "unrecognized subcommand " ++ cited name
  | .missingValue o => "a value is required for '" ++ o ++ "' but none was supplied"
  | .unexpectedValue v o =>
    "unexpected value " ++ cited v ++ " for " ++ cited o ++ " found; no more were expected"
  | .repeated o => "the argument '" ++ o ++ "' cannot be used multiple times"
  | .invalidValue v o problem => "invalid value " ++ cited v ++ " for '" ++ o ++ "': " ++ problem
  | .impossibleValue v o => "invalid value " ++ cited v ++ " for '" ++ o ++ "'"

/-- How an argument looks. -/
inductive Shape where
  /-- Two dashes alone. -/
  | escape
  | long (name : List Char) (value : Option (List Char))
  | short (letter : Char)
  | plain
deriving DecidableEq, Repr

/-- What stands behind the first equals sign. -/
def attached? (cs : List Char) : Option (List Char) :=
  match cs.dropWhile (· != '=') with
  | [] => none
  | _ :: value => some value

def shapeOf (argument : String) : Shape :=
  match argument.toList with
  | ['-', '-'] => .escape
  | '-' :: '-' :: cs => .long (cs.takeWhile (· != '=')) (attached? cs)
  | '-' :: c :: _ => .short c
  | _ => .plain

/-- What stands in the way of an option's value. -/
def problem? (o : Opt) (value : String) : Option UsageError :=
  match o.form with
  | .text => none
  | .natural =>
    match Text.Decimal.boundedOf Text.Decimal.uint64Max value.toList with
    | .ok _ => none
    | .error e => some (.invalidValue value o.display e.message)
  | .socketAddress =>
    if (Text.SocketAddress.ofString? value).isSome then none
    else some (.invalidValue value o.display "invalid socket address syntax")
  | .flag =>
    if value = "true" ∨ value = "false" then none
    else if value.isEmpty then some (.missingValue o.display)
    else some (.impossibleValue value o.display)

/-- What ends the reading early. -/
inductive Interruption where
  | help
  | version
  | usage (e : UsageError)
deriving DecidableEq, Repr

/-- The options read so far. -/
structure Reading where
  values : Values := []
  /-- The last option, with its value if that has come, before it is checked. -/
  pending : Option (Opt × Option String) := none

namespace Reading

/-- Takes an option with its value. -/
def accept (r : Reading) (o : Opt) (value : String) : Except Interruption Reading :=
  if (r.values.lookup o).isSome then .error (.usage (.repeated o.display))
  else
    match problem? o value with
    | some e => .error (.usage e)
    | none => .ok { r with values := r.values ++ [(o, value)] }

/-- Takes the last option, which has to have its value by now. -/
def resolve (r : Reading) : Except Interruption Reading :=
  match r.pending with
  | none => .ok r
  | some (o, none) => .error (.usage (.missingValue o.display))
  | some (o, some value) => { r with pending := none }.accept o value

/-- Meets an option of a known name. -/
def meet (r : Reading) (o : Opt) (value : Option String) : Except Interruption Reading := do
  match o.form, value with
  | .flag, some v => throw (.usage (.unexpectedValue v o.display))
  | .flag, none => (← r.resolve).accept o "true"
  | _, some v => (← r.resolve).accept o v
  | _, none => return { (← r.resolve) with pending := some (o, none) }

/-- Meets a request for help or the version. -/
def interrupt (r : Reading) (i : Interruption) : Except Interruption Reading := do
  let _ ← r.resolve
  throw i

/-- Meets an argument with two dashes.  A command that tells its version knows that option too. -/
def meetLong (options : List Opt) (tellsVersion : Bool) (r : Reading) (name : String)
    (value : Option String) : Except Interruption Reading :=
  let known (i : Interruption) : Except Interruption Reading :=
    match value with
    | some v => .error (.usage (.unexpectedValue v ("--" ++ name)))
    | none => r.interrupt i
  if name = "help" then known .help
  else if tellsVersion ∧ name = "version" then known .version
  else
    match Opt.ofName? options name with
    | some o => r.meet o value
    | none => .error (.usage (.unexpectedArgument ("--" ++ name)))

def meetShort (tellsVersion : Bool) (r : Reading) (letter : Char) :
    Except Interruption Reading :=
  if letter = 'h' then r.interrupt .help
  else if tellsVersion ∧ letter = 'V' then r.interrupt .version
  else .error (.usage (.unexpectedArgument (String.ofList ['-', letter])))

end Reading

/-- Reads the arguments of a command that has options and nothing else. -/
def readOptions (options : List Opt) (r : Reading) : List String → Except Interruption Reading
  | [] => r.resolve
  | a :: rest =>
    match shapeOf a with
    | .escape =>
      match rest with
      | [] => r.resolve
      | b :: _ => .error (.usage (.unexpectedArgument b))
    | .long name value => do
      readOptions options
        (← r.meetLong options false (String.ofList name) (value.map String.ofList)) rest
    | .short letter => do readOptions options (← r.meetShort false letter) rest
    | .plain =>
      match r.pending with
      | some (o, none) => readOptions options { r with pending := some (o, some a) } rest
      | _ => .error (.usage (.unexpectedArgument a))

/-- Takes the options that were not given from the environment, in declared order. -/
def readEnvironment (options : List Opt) (environment : String → Option String) (r : Reading) :
    Except Interruption Reading :=
  options.foldlM (fun r o =>
    match r.values.lookup o, environment o.envName with
    | none, some value => r.accept o value
    | _, _ => .ok r) r

end GatewaySync.CommandLine
