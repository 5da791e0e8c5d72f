import PullSecrets.Reconcile.Failure
import PullSecrets.Retry

/-!
# Binding service accounts to a secret

A service account is bound to a secret by listing it among the secrets that images are pulled
with. Binding appends the name, unbinding removes its first occurrence; the other names stay as
they are. An account that has gone away meanwhile needs neither.

Binding covers the accounts of one namespace. Unbinding covers the whole cluster, because the
selector of a puller may have chosen other namespaces when the accounts were bound.

## Main facts

* `Binding.references_append`, `Binding.pullSecretList_withPullSecrets`: what binding does to the
  list of an account.
-/

namespace PullSecrets

/-- The account with other secrets to pull images with. -/
def ServiceAccount.withPullSecrets (a : ServiceAccount) (secrets : List String) :
    ServiceAccount :=
  { a with imagePullSecrets := some secrets }

/-- The place of an account; one that names no namespace is looked for in the empty one. -/
def ServiceAccount.key (a : ServiceAccount) : ObjectKey :=
  ⟨a.metadata.inNamespace.getD "", a.metadata.effectiveName⟩

/-- Whether a program succeeded; an object that is missing is no failure. -/
def Program.unlessMissing {α : Type} (p : Program StoreError α) : Program StoreError Bool := do
  match ← p.attempt with
  | .ok _ => pure true
  | .error e => if e.isNotFound then pure false else fail e

namespace Binding

open Program (ask)

/-! ## One account -/

/-- Bind an account to a secret, unless it is bound: whether it was written. -/
def bind (secret : String) (key : ObjectKey) : Program StoreError Bool := do
  match ← ask (.getServiceAccount key.inNamespace key.name) with
  | none => pure false
  | some a =>
    if a.references secret then pure false
    else
      (ask (.replaceServiceAccount
        (a.withPullSecrets (a.pullSecretList ++ [secret])))).unlessMissing

/-- Unbind an account from a secret, if it is bound: whether it was written. -/
def unbind (secret : String) (key : ObjectKey) : Program StoreError Bool := do
  match ← ask (.getServiceAccount key.inNamespace key.name) with
  | none => pure false
  | some a =>
    if a.references secret then
      (ask (.replaceServiceAccount
        (a.withPullSecrets (a.pullSecretList.erase secret)))).unlessMissing
    else pure false

@[simp] theorem pullSecretList_withPullSecrets (a : ServiceAccount) (secrets : List String) :
    (a.withPullSecrets secrets).pullSecretList = secrets := rfl

/-- An account that has been bound references the secret. -/
theorem references_append (a : ServiceAccount) (secret : String) :
    (a.withPullSecrets (a.pullSecretList ++ [secret])).references secret = true := by
  simp

/-! ## Many accounts -/

/-- The number of accounts that were written. -/
def written (results : List (ObjectKey × Except StoreError Bool)) : Nat :=
  results.countP fun r => r.2.toOption == some true

/-- The failures, with their accounts. -/
def failures (results : List (ObjectKey × Except StoreError Bool)) : Aggregate :=
  ⟨results.filterMap fun
    | (key, .error e) => some (Aggregate.about ("service account " ++ key.text) e.message)
    | (_, .ok _) => none⟩

/-- Change several accounts, also after a failure: how many were written. -/
def changeAll (policy : RetryPolicy) (change : ObjectKey → Program StoreError Bool)
    (keys : List ObjectKey) : Program ReconcileError Nat := do
  let results ← Program.forEach (fun key => Program.retry policy fun _ => change key) keys
  Program.settle (failures results) (written results)

/-- Bind all accounts of a namespace to a secret: how many were written. -/
def bindAll (policy : RetryPolicy) (inNamespace secret : String) :
    Program ReconcileError Nat := do
  let accounts ← ask (.listServiceAccounts (some inNamespace))
  let unbound := accounts.filter (!·.references secret)
  changeAll policy (bind secret) (unbound.map fun a => ⟨inNamespace, a.metadata.effectiveName⟩)

/-- Unbind all accounts of the cluster from a secret: how many were written. -/
def unbindAll (policy : RetryPolicy) (secret : String) : Program ReconcileError Nat := do
  let accounts ← ask (.listServiceAccounts none)
  let bound := accounts.filter (·.references secret)
  changeAll policy (unbind secret) (bound.map (·.key))

end Binding

end PullSecrets
