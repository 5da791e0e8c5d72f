import PullSecrets.Cli.Inspect
import PullSecrets.Cli.Start
import PullSecrets.Definition
import PullSecrets.Json.Yaml
import Std.Time

/-!
# The command line

One program serves under three names: `crdgen` prints the definition of pullers,
`puller-controller` starts the controller, and any other name looks at pullers. No transport to a
server is built in, so that every request ends in the failure of one that cannot be reached.

## Main facts

* `main` decides nothing: it passes on arguments, environment and time, and prints the outcome.
-/

namespace PullSecrets.CommandLine

/-- The variables of the environment that hold settings. -/
def settingNames : List String := [
  "CONCURRENCY", "CONFLICT_RETRY_ATTEMPTS", "CONFLICT_RETRY_BACKOFF_MS", "RESYNC_PERIOD_SECS",
  "ERROR_BACKOFF_MIN_SECS", "ERROR_BACKOFF_MAX_SECS", "METRICS_PORT",
  "SERVER_STARTUP_TIMEOUT_SECS", "SERVER_POLL_INTERVAL_MS"]

/-- The settings of the environment. -/
def environment : IO Config := do
  let values ← settingNames.mapM fun name => do pure (name, ← IO.getEnv name)
  pure (Config.ofEnvironment fun name => (values.find? (·.1 == name)).bind (·.2))

/-- A connection that reaches no server, if the configuration can be read. -/
def connection : IO Connection := do
  let path ← match ← IO.getEnv "KUBECONFIG" with
    | some path => pure path
    | none => do pure ((← IO.getEnv "HOME").getD "" ++ "/.kube/config")
  try
    let _ ← IO.FS.readFile path
    pure (some fun _ => none)
  catch _ => pure none

/-- The time of the start. -/
def startTime : IO String := do
  let seconds := (← Std.Time.Timestamp.now).toSecondsSinceUnixEpoch.toInt
  pure (Timestamp.text ⟨seconds, false⟩)

/-- Follow a command line under a name. -/
def follow (name : String) (args : List String) : IO Outcome := do
  match name with
  | "crdgen" => pure { lines := Json.Yaml.lines Definition.definition }
  | "puller-controller" => do pure (Start.run (← environment) args)
  | _ => do pure (Inspect.run (← connection) (← startTime) args)

end PullSecrets.CommandLine

/-- Print the outcome of the command line. -/
def main (args : List String) : IO UInt32 := do
  let name := (← IO.appPath).fileName.getD ""
  let outcome ← PullSecrets.CommandLine.follow name args
  for line in outcome.lines do IO.println line
  match outcome.failure with
  | some f => IO.eprintln ("Error: " ++ f.context ++ "\n\nCaused by:\n    " ++ f.cause)
  | none => pure ()
  pure (UInt32.ofNat outcome.exit)
