import GatewaySync.CommandLine

/-!
# The program

Under the name `crdgen` it prints the definition of Remotes.
-/

namespace GatewaySync.CommandLine

/-- The variables that the program reads. -/
def environmentVariables : List String :=
  logFilterVariable :: Opt.all.map Opt.envName

def readEnvironmentVariables : IO (List (String × String)) :=
  environmentVariables.filterMapM fun name => do
    return (← IO.getEnv name).map (name, ·)

def logLine (asJson : Bool) (r : LogRecord) : String :=
  if asJson then r.toJson.text else r.text

end GatewaySync.CommandLine

open GatewaySync

def main (args : List String) : IO UInt32 := do
  let environment ← CommandLine.readEnvironmentVariables
  let name := ((← IO.appPath).fileStem).getD ""
  let outcome :=
    if name = "crdgen" then CommandLine.printDefinition
    else CommandLine.run (fun name => environment.lookup name) args
  IO.print outcome.printed
  for r in outcome.records do
    IO.println (CommandLine.logLine outcome.asJson r)
  IO.eprint outcome.complaints
  return outcome.exit.toUInt32
