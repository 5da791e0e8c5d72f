import PullSecrets.Config
import PullSecrets.Reconcile.Finalizer
import PullSecrets.Reconcile.PullSecret
import PullSecrets.Reconcile.Report
import PullSecrets.Reconcile.Target

/-!
# Reconciling a puller

A live puller first gets the finalizer. Then every target namespace gets the secret, and its
service accounts are bound to it; a namespace that fails does not keep the others from being
worked on. The outcome is reported in the status, and never read back.

A puller that is to be deleted has every service account of the cluster unbound, and loses the
finalizer when all of that has succeeded.
-/

namespace PullSecrets

/-- What to do after a reconcile. -/
inductive Action where
  /-- Wait until something changes. -/
  | awaitChange
  /-- Reconcile again after some seconds. -/
  | requeue (seconds : Nat)
  deriving DecidableEq, Inhabited

namespace Reconcile

open Program (ask leave)

/-! ## Converging -/

/-- What has been done in a namespace. -/
structure NamespaceOutcome where
  /-- Whether the secret was written. -/
  secretWritten : Bool
  /-- How many service accounts were bound. -/
  accountsBound : Nat
  deriving DecidableEq, Inhabited

/-- What has been done in all target namespaces. -/
structure Summary where
  /-- The number of target namespaces. -/
  namespaces : Nat
  /-- The number of secrets that were written. -/
  secretsWritten : Nat
  /-- The number of service accounts that were bound. -/
  accountsBound : Nat
  deriving DecidableEq, Inhabited

/-- Give a namespace the secret with a document, and bind its accounts to it. -/
def ensureNamespace (policy : RetryPolicy) (p : Puller) (document : ByteArray)
    (inNamespace : String) : Program ReconcileError NamespaceOutcome := do
  let written ← PullSecret.ensure policy (PullSecret.wanted p document inNamespace)
  let bound ← Binding.bindAll policy inNamespace Names.secret
  pure ⟨written, bound⟩

/-- The results of namespaces, each with the name of its namespace. -/
abbrev Results := List (String × Except ReconcileError NamespaceOutcome)

/-- What the namespaces that did not fail add up to. -/
def summarize (results : Results) : Summary :=
  let outcomes := results.filterMap (·.2.toOption)
  { namespaces := results.length
    secretsWritten := outcomes.countP (·.secretWritten)
    accountsBound := outcomes.foldr (·.accountsBound + ·) 0 }

/-- The failures of all namespaces, each with the name of its namespace. -/
def failures (results : Results) : Aggregate :=
  ⟨results.flatMap fun
    | (ns, .error e) => e.parts.entries.map (Aggregate.about ("namespace " ++ ns))
    | (_, .ok _) => []⟩

/-- Work on every target namespace of a puller. -/
def converge (policy : RetryPolicy) (p : Puller) : Program ReconcileError Summary := do
  let targets ← Target.resolve p.spec.namespaceSelector
  let document := Credentials.bytes p.spec.registries
  let results ← Program.forEach (ensureNamespace policy p document) targets
  let summary := summarize results
  leave (.secretsWritten summary.secretsWritten)
  leave (.accountsBound summary.accountsBound)
  Program.settle (failures results) summary

/-- Work on every target namespace of a puller, and report how that ended. -/
def sync (policy : RetryPolicy) (p : Puller) : Program ReconcileError Summary := do
  let outcome ← (converge policy p).attempt
  let failure := match outcome with
    | .ok _ => none
    | .error e => some e.message
  let status ← Report.statusNow p.status failure
  let _ ← Report.update policy p status
  Program.ofExcept outcome

/-! ## Cleaning up -/

/-- Unbind every account of the cluster, then let go of the puller: how many were unbound. -/
def cleanup (policy : RetryPolicy) (p : Puller) : Program ReconcileError Nat := do
  let unbound ← Binding.unbindAll policy Names.secret
  leave (.accountsUnbound unbound)
  Finalizer.release policy p.name
  pure unbound

/-! ## Reconciling -/

/-- Reconcile the puller of a name. -/
def steps (config : Config) (name : String) : Program ReconcileError Action := do
  match ← ask (.getPuller name) with
  | none => pure .awaitChange
  | some p =>
    if p.metadata.isTerminating then
      let _ ← cleanup config.retryPolicy p
      pure .awaitChange
    else
      let p ← Finalizer.ensure config.retryPolicy p
      let _ ← sync config.retryPolicy p
      leave .resyncScheduled
      pure (.requeue config.resyncSeconds)

/-- Reconcile the puller of a name, and note the beginning and the end. -/
def reconcile (config : Config) (name : String) : Program ReconcileError Action := do
  leave .reconcileBegun
  let result ← (steps config name).attempt
  leave .reconcileEnded
  Program.ofExcept result

end Reconcile

end PullSecrets
