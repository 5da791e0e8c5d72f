import PullSecrets.Cluster.Basic

/-!
# Changes from outside

Besides the calls that go through the store, a cluster is changed by its operators: they add
namespaces and service accounts, create, edit and delete pullers, delete secrets, and set up
faults. Such a change never meets a fault itself.

A puller that is to be deleted goes away at once unless finalizers guard it; then it is marked
with the time of the request, and goes away when its last finalizer does.

## Main facts

* `Change.Value`: what a change answers.
-/

namespace PullSecrets

/-- A change from outside. -/
inductive Change where
  /-- Add a namespace with labels. -/
  | addNamespace (name : String) (labels : Dict String String)
  /-- Add a service account that pulls images without secrets. -/
  | addServiceAccount (inNamespace name : String)
  /-- Create a puller. -/
  | createPuller (puller : Puller)
  /-- Give a puller another specification. -/
  | editPuller (name : String) (spec : PullerSpec)
  /-- Ask for the deletion of a puller at a point in time. -/
  | deletePuller (name : String) (time : Timestamp)
  /-- Delete a secret. -/
  | deleteSecret (inNamespace name : String)
  /-- Let every write in a namespace fail. -/
  | breakNamespace (name : String)
  /-- Let the writes in a namespace succeed again. -/
  | healNamespace (name : String)
  /-- Let every listing fail. -/
  | breakLists
  /-- Let the listings succeed again. -/
  | healLists
  /-- Let some of the next writes run into a conflict. -/
  | injectConflicts (count : Nat)
  deriving DecidableEq, Inhabited

/-- The type of what a change answers. -/
abbrev Change.Value : Change → Type
  | .createPuller _ => Puller
  | .deletePuller .. => Except StoreError Unit
  | .deleteSecret .. => Option Secret
  | _ => Unit

namespace Cluster

/-- Add a namespace, in place of one of the same name. -/
def addNamespace (name : String) (labels : Dict String String) (s : Cluster) : Cluster :=
  let s := s.tick.identify
  let namespaced : Namespace := {
    metadata := {
      name := some name
      labels := if labels.isEmpty then none else some labels
      resourceVersion := some s.versionText
      uid := some s.newIdentity } }
  { s with namespaces := s.namespaces.insert name namespaced }

/-- Add a service account, in place of one of the same name. -/
def addServiceAccount (inNamespace name : String) (s : Cluster) : Cluster :=
  let s := s.tick.identify
  let account : ServiceAccount := {
    metadata := {
      name := some name
      inNamespace := some inNamespace
      resourceVersion := some s.versionText
      uid := some s.newIdentity } }
  { s with serviceAccounts := s.serviceAccounts.insert ⟨inNamespace, name⟩ account }

/-- Create a puller, in place of one of the same name. -/
def createPuller (p : Puller) (s : Cluster) : Puller × Cluster :=
  let s := s.tick.identify
  let created : Puller := { p with
    metadata := { p.metadata with
      resourceVersion := some s.versionText
      uid := some s.newIdentity
      generation := some 1 } }
  (created, { s with pullers := s.pullers.insert created.name created })

/-- Give a puller another specification, if it is there. -/
def editPuller (name : String) (spec : PullerSpec) (s : Cluster) : Cluster :=
  let s := s.tick
  match s.pullers.get? name with
  | none => s
  | some p =>
    let edited : Puller := { p with
      spec := spec
      metadata := { p.metadata with
        resourceVersion := some s.versionText
        generation := some (p.metadata.generation.getD 0 + 1) } }
    { s with pullers := s.pullers.insert name edited }

/-- Ask for the deletion of a puller. -/
def deletePuller (name : String) (time : Timestamp) (s : Cluster) :
    Except StoreError Unit × Cluster :=
  let s := s.tick
  match s.pullers.get? name with
  | none => (.error (.notFound .puller name), s)
  | some p =>
    if p.metadata.finalizerList.isEmpty then
      (.ok (), { s with pullers := s.pullers.erase name })
    else
      let marked : Puller := { p with
        metadata := { p.metadata with
          resourceVersion := some s.versionText
          deletionTimestamp := some (p.metadata.deletionTimestamp.getD time) } }
      (.ok (), { s with pullers := s.pullers.insert name marked })

/-- Make a change from outside: what it answers, and the cluster after it. -/
def change (s : Cluster) : (c : Change) → c.Value × Cluster
  | .addNamespace name labels => ((), s.addNamespace name labels)
  | .addServiceAccount inNamespace name => ((), s.addServiceAccount inNamespace name)
  | .createPuller p => s.createPuller p
  | .editPuller name spec => ((), s.editPuller name spec)
  | .deletePuller name time => s.deletePuller name time
  | .deleteSecret inNamespace name =>
    (s.secrets.get? ⟨inNamespace, name⟩,
      { s with secrets := s.secrets.erase ⟨inNamespace, name⟩ })
  | .breakNamespace name => ((), { s with failingNamespaces := name :: s.failingNamespaces })
  | .healNamespace name =>
    ((), { s with failingNamespaces := s.failingNamespaces.filter (· != name) })
  | .breakLists => ((), { s with listsFail := true })
  | .healLists => ((), { s with listsFail := false })
  | .injectConflicts count => ((), { s with pendingConflicts := count })

end Cluster

end PullSecrets
