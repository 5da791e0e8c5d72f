import PullSecrets.Cli.Outcome
import PullSecrets.Json.Writer
import PullSecrets.Reconcile.Report

/-!
# Looking at pullers from the command line

One program lists all pullers, shows the status of one, or asks for a reconcile of one by
stamping an annotation with the time. Passwords are never printed.
-/

namespace PullSecrets.Inspect

/-! ## The command line -/

/-- What the program is asked to do. -/
inductive Command where
  /-- Ask for a reconcile. -/
  | reconcile (name : String)
  /-- List all pullers. -/
  | list
  /-- Show the status of a puller. -/
  | status (name : String)
  deriving DecidableEq, Inhabited

/-- What the commands do. -/
def purposes : List (String × String) := [
  ("reconcile", "Trigger reconciliation of a Puller by stamping an annotation"),
  ("list", "List all Puller resources"),
  ("status", "Show status of a Puller resource")]

/-- What asking for help does. -/
def helpPurpose : String := "Print this message or the help of the given subcommand(s)"

/-- A text filled up with blanks to a width. -/
def column (width : Nat) (s : String) : String :=
  s ++ String.ofList (List.replicate (width - s.length) ' ')

/-- The page of help about the program. -/
def mainPage : List String :=
  ["Inspect and trigger Puller resources", "", "Usage: pullerctl <COMMAND>", "", "Commands:"]
    ++ (purposes ++ [("help", helpPurpose)]).map
      (fun p => "  " ++ column 11 p.1 ++ p.2)
    ++ ["", "Options:", "  -h, --help  Print help"]

/-- The page of help about a command without options. -/
def plainPage (command purpose : String) : List String :=
  [purpose, "", "Usage: pullerctl " ++ command, "", "Options:", "  -h, --help  Print help"]

/-- The page of help about a command that takes a name. -/
def namePage (command purpose : String) : List String :=
  [purpose, "", "Usage: pullerctl " ++ command ++ " --name <NAME>", "", "Options:",
    "  -n, --name <NAME>  Name of the Puller resource", "  -h, --help         Print help"]

/-- The page of help about the help, which has no options. -/
def helpPage : List String :=
  [helpPurpose, "", "Usage: pullerctl help [COMMAND]...", "", "Arguments:",
    "  [COMMAND]...  Print help for the subcommand(s)"]

/-- The page of help about a command. -/
def page? (command : String) : Option (List String) :=
  if command = "help" then some helpPage
  else (purposes.find? (·.1 == command)).map fun p =>
    if command = "list" then plainPage command p.2 else namePage command p.2

/-- The name that a command is given. -/
def name? (command : String) (args : List String) : Except Arguments.Stop String := do
  let given ← Arguments.read
    { flags := [{ long := "name", short := some 'n' }], help := (page? command).getD [] } args
  match Arguments.values given "name" with
  | [name] => .ok name
  | _ => .error .misused

/-- The command of a command line. -/
def Command.ofArguments : List String → Except Arguments.Stop Command
  | "reconcile" :: args => (name? "reconcile" args).map .reconcile
  | "status" :: args => (name? "status" args).map .status
  | "list" :: args => do
    let _ ← Arguments.read { flags := [], help := (page? "list").getD [] } args
    .ok .list
  | ["help"] => .error (.shown mainPage)
  | ["help", command] => .error (((page? command).map .shown).getD .misused)
  | arg :: _ =>
    match Arguments.meaning { flags := [], help := mainPage } arg with
    | .stop reason => .error reason
    | _ => .error .misused
  | [] => .error .misused

/-! ## Printing -/

/-- The status of a condition, unknown without one. -/
def conditionCell (status : Option PullerStatus) (type : String) : String :=
  match status.bind (·.condition? type) with
  | some c => c.status.text
  | none => ConditionStatus.unknown.text

/-- A row of the list. -/
def row (name ready error registries : String) : String :=
  String.intercalate " " [column 30 name, column 10 ready, column 10 error, column 12 registries]

/-- The row of a puller. -/
def pullerRow (p : Puller) : String :=
  row p.name (conditionCell p.status Report.ready) (conditionCell p.status Report.error)
    (Text.Decimal.padded 1 p.spec.registries.length)

/-- The list of some pullers. -/
def listing (pullers : List Puller) : List String :=
  if pullers.isEmpty then ["No Puller resources found."]
  else
    row "NAME" "READY" "ERROR" "REGISTRIES" :: String.ofList (List.replicate 64 '-')
      :: pullers.map pullerRow

/-- A line about something that may be absent. -/
def labelled (label : String) (value : Option String) : List String :=
  (value.map (label ++ ·)).toList

/-- What is said about a condition. -/
def conditionLines (c : Condition) : List String :=
  ("  " ++ c.type ++ ": " ++ c.status.text) ::
    (labelled "    Reason: " c.reason ++ labelled "    Message: " c.message
      ++ labelled "    Last Transition: " c.lastTransitionTime)

/-- What is said about the metadata of a puller. -/
def metadataLines (m : Metadata) : List String :=
  labelled "  Generation: " (m.generation.map fun n => String.ofList (Json.integer n))
    ++ (if m.isTerminating then ["  Terminating: true"] else [])
    ++ (if m.finalizerList.isEmpty then []
      else ["  Finalizers: " ++ String.intercalate ", " m.finalizerList])

/-- What is said about the specification of a puller. -/
def specLines (s : PullerSpec) : List String :=
  s.registries.map (fun r => "  Registry: " ++ r.server)
    ++ ["  Namespace selector: "
      ++ (s.namespaceSelector.map fun selector => selector.toJson.render).getD "<all namespaces>"]

/-- What is said about the status of a puller. -/
def statusLines (status : Option PullerStatus) : List String :=
  let conditions := (status.map (·.conditions)).getD []
  if conditions.isEmpty then
    ["", "Status: No status available (resource may not have been reconciled yet)"]
  else ["", "Conditions:"] ++ conditions.flatMap conditionLines

/-- What is said about a puller that was asked for by a name. -/
def report (name : String) (p : Puller) : List String :=
  ["Status for Puller '" ++ name ++ "':", "", "Metadata:"] ++ metadataLines p.metadata
    ++ ["", "Spec:"] ++ specLines p.spec ++ statusLines p.status

/-! ## Running -/

/-- The patch that stamps the annotation. -/
def stamp (time : String) : Json :=
  .object [("metadata", .object [("annotations", .object [
    (Names.reconcileAnnotation, .string time)])])]

/-- The request of a command. -/
def Command.request (time : String) : Command → Except StoreError Request
  | .reconcile name => do
    Request.about .patch (← Live.objectPath Live.pullersPath name) [] (some (stamp time))
  | .list => Request.about .get Live.pullersPath [] none
  | .status name => do Request.read (← Live.objectPath Live.pullersPath name)

/-- What is printed before the request is sent. -/
def Command.announcement : Command → List String
  | .reconcile name => ["Triggering reconciliation for Puller '" ++ name ++ "'..."]
  | _ => []

/-- What the program was doing when it failed. -/
def Command.context : Command → String
  | .reconcile name => "Failed to trigger reconciliation for '" ++ name ++ "'"
  | .list => "Failed to list Puller resources"
  | .status name => "Failed to get Puller '" ++ name ++ "'"

/-- What is printed about the answer to the request. -/
def Command.result (time : String) (r : Response) : Command → Except StoreError (List String)
  | .reconcile name => do
    let _ ← Live.receive Puller.ofNode? .puller name r
    .ok ["Reconciliation triggered", "   Resource: " ++ name, "   Timestamp: " ++ time]
  | .list => do .ok (listing (← Live.receive (Live.items? Puller.ofNode?) .puller "*" r))
  | .status name => do .ok (report name (← Live.receive Puller.ofNode? .puller name r))

/-- The answer that a connection gives to a request. -/
def exchange (connect : Request → Option Response) (r : Request) : Except StoreError Response :=
  match connect r with
  | some response => .ok response
  | none => .error (.transport "the server cannot be reached")

/-- Follow a command over a connection. -/
def Command.run (connect : Request → Option Response) (time : String) (c : Command) : Outcome :=
  let printed := c.announcement
  match c.request time with
  | .error e => .failed printed c.context e.message
  | .ok request =>
    let outcome := match exchange connect request >>= fun r => c.result time r with
      | .error e => Outcome.failed printed c.context e.message
      | .ok lines => { lines := printed ++ lines }
    { outcome with requests := if (connect request).isSome then [request] else [] }

/-- Follow a command line. -/
def run (connection : Connection) (time : String) (args : List String) : Outcome :=
  match Command.ofArguments args with
  | .error stop => .ofStop stop
  | .ok command =>
    match connection with
    | none =>
      .failed [] "Failed to create Kubernetes client. Ensure kubeconfig is configured."
        "the configuration cannot be read"
    | some connect => command.run connect time

end PullSecrets.Inspect
