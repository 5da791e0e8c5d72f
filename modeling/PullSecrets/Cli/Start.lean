import PullSecrets.Cli.Outcome
import PullSecrets.Config
import PullSecrets.Selection

/-!
# Starting the controller from the command line

The controller is started with the settings of the environment, over which the options of the
command line take precedence, and with a choice of the controllers to run.
-/

namespace PullSecrets.Start

/-- A number of at most 16 bits, with an optional sign in front. -/
def word? (s : String) : Option Nat :=
  match s.toList with
  | '-' :: cs => (Text.Decimal.digits? cs).filter (· == 0)
  | _ => Text.Decimal.read (UInt16.size - 1) s

/-- Whether a text is such a number. -/
def isWord (s : String) : Bool := (word? s).isSome

/-- The version of the controller. -/
def version : String := "puller-controller 0.1.0"

/-- The page of help. -/
def page : List String := [
  "Propagates registry credentials to namespaces and binds them to service accounts",
  "",
  "Usage: puller-controller [OPTIONS]",
  "",
  "Options:",
  "      --controllers <CONTROLLERS>",
  "          Controllers to enable. '*' enables all on-by-default controllers, 'foo' enables the controller named 'foo', '-foo' disables it [default: *]",
  "      --concurrent-puller-syncs <CONCURRENT_PULLER_SYNCS>",
  "          Number of Puller objects reconciled concurrently",
  "      --metrics-port <METRICS_PORT>",
  "          Port for health probes and metrics",
  "  -h, --help",
  "          Print help",
  "  -V, --version",
  "          Print version"]

/-- The options of the command line. -/
def grammar : Arguments.Grammar where
  flags := [
    { long := "controllers", repeatable := true },
    { long := "concurrent-puller-syncs", accepts := isWord },
    { long := "metrics-port", accepts := isWord }]
  help := page
  version := some [version]

/-- The parts of a text between commas. -/
def splitCommas : List Char → List (List Char)
  | [] => [[]]
  | c :: cs =>
    if c = ',' then [] :: splitCommas cs
    else match splitCommas cs with
      | [] => [[c]]
      | part :: parts => (c :: part) :: parts

/-- The entries about the controllers to run; everything runs if there are none. -/
def entries (given : Arguments.Given) : List String :=
  match Arguments.values given "controllers" with
  | [] => [Selection.star]
  | texts => texts.flatMap fun text => (splitCommas text.toList).map String.ofList

/-- The value of an option that is a number. -/
def number? (given : Arguments.Given) (long : String) : Option Nat :=
  (Arguments.values given long).head?.bind word?

/-- The settings over which the options take precedence. -/
def override (config : Config) (given : Arguments.Given) : Config :=
  { config with
    concurrency := (number? given "concurrent-puller-syncs").getD config.concurrency
    socket := (number? given "metrics-port").getD config.socket }

/-- What the controller is started with, or the outcome of a command line that does not start
it. -/
def plan (config : Config) (args : List String) : Except Outcome (Config × Selection) :=
  match Arguments.read grammar args with
  | .error stop => .error (.ofStop stop)
  | .ok given =>
    match Selection.ofEntries (entries given) with
    | .error entry =>
      .error (.failed [] ("Known controllers: " ++ String.intercalate ", " Selection.known)
        (Selection.unknownMessage entry))
    | .ok selection => .ok (override config given, selection)

/-- The failure of a start without a connection to a server. -/
def withoutConnection : Outcome :=
  .failed [] "Failed to create Kubernetes client" "the configuration cannot be read"

/-- The outcome of a start that cannot reach a server. -/
def run (config : Config) (args : List String) : Outcome :=
  match plan config args with
  | .error outcome => outcome
  | .ok _ => withoutConnection

end PullSecrets.Start
