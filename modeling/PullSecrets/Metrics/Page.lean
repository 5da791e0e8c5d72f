import PullSecrets.Metrics.Counters
import PullSecrets.Text.Decimal

/-!
# The page of metrics

The counters are shown on a page of text. Each family of metrics has a line of help, a line about
its type, and a line for each of its samples; families stand in order of their names. A family is
registered once, under a name that is free.
-/

namespace PullSecrets.Metrics

/-- The type of a family. -/
inductive FamilyType where
  | counter
  | histogram
  deriving DecidableEq, Inhabited

/-- The name of a type. -/
def FamilyType.text : FamilyType → String
  | .counter => "counter"
  | .histogram => "histogram"

/-- A family of metrics. -/
structure Family where
  name : String
  help : String
  type : FamilyType
  /-- The samples: what follows the name of the family, and the value. -/
  samples : Counters → List (String × Nat)

/-- A family with one counter. -/
def Family.single (name help : String) (value : Counters → Nat) : Family :=
  { name, help, type := .counter, samples := fun c => [("", value c)] }

/-- A label with the reason for which a puller is looked at again. -/
def reasonLabel (reason : String) : String := "\x7breason=\"" ++ reason ++ "\"\x7d"

/-- All families, in order of their names. -/
def families : List Family := [
  .single "puller_conflict_retries_total"
    "Total number of writes retried after an optimistic concurrency conflict"
    Counters.conflictRetries,
  { name := "puller_reconciliation_duration_seconds"
    help := "Duration of reconciliation in seconds"
    type := .histogram
    samples := fun c => [("_count", c.durationsObserved)] },
  .single "puller_reconciliation_errors_total" "Total number of reconciliation errors"
    Counters.reconciliationErrors,
  .single "puller_reconciliations_total" "Total number of reconciliations"
    Counters.reconciliations,
  { name := "puller_requeues_total"
    help := "Total number of reconciliation requeues"
    type := .counter
    samples := fun c =>
      [(reasonLabel "error-backoff", c.backoffRequeues),
        (reasonLabel "resync", c.resyncRequeues)] },
  .single "puller_secrets_written_total" "Total number of image pull secrets created or updated"
    Counters.secretsWritten,
  .single "puller_service_accounts_bound_total"
    "Total number of service accounts given the image pull secret" Counters.accountsBound,
  .single "puller_service_accounts_unbound_total"
    "Total number of service accounts stripped of the image pull secret during cleanup"
    Counters.accountsUnbound]

/-! ## Registering -/

/-- The names of the families that have been registered. -/
abbrev Registry := List String

/-- The text about a family that is there already. -/
def duplicateMessage : String := "Duplicate metrics collector registration attempted"

/-- Register a family under its name, if the name is free. -/
def Registry.register (r : Registry) (f : Family) : Except String Registry :=
  if r.contains f.name then .error duplicateMessage else .ok (r ++ [f.name])

/-- Register all families. -/
def Registry.registerAll (r : Registry) : Except String Registry :=
  families.foldlM Registry.register r

/-! ## The page -/

/-- The lines before the samples of a family. -/
def Family.headers (f : Family) : List String :=
  ["# HELP " ++ f.name ++ " " ++ f.help, "# TYPE " ++ f.name ++ " " ++ f.type.text]

/-- The lines of a family. -/
def Family.lines (c : Counters) (f : Family) : List String :=
  f.headers ++ (f.samples c).map fun s => f.name ++ s.1 ++ " " ++ Text.Decimal.padded 1 s.2

/-- The lines of the page. -/
def lines (c : Counters) : List String := families.flatMap (Family.lines c)

/-- The page. -/
def page (c : Counters) : String := String.join ((lines c).map (· ++ "\n"))

end PullSecrets.Metrics
