import PullSecrets.Cluster.Basic

/-!
# How a cluster answers calls

Reading and listing leave a cluster as it is. A write has to pass three gates: the faults that
have been set up, the presence of the object, and the version that the written copy was read
with. A write that passes takes the next version and counts as one.

Replacing a puller leaves its status alone, replacing its status leaves all else alone. A puller
that is to be deleted goes away when it is replaced by a copy without finalizers.

## Main facts

* `Metadata.isStale_iff`: a copy without a version is never stale.
* `Cluster.answer_of_not_isWrite`: reading and listing change nothing.
-/

namespace PullSecrets

/-- Whether a copy was read with another version than the one that is stored. -/
def Metadata.isStale (copy stored : Metadata) : Bool :=
  copy.resourceVersion.isSome && copy.resourceVersion != stored.resourceVersion

/-- A copy is stale when its version is given and differs. -/
theorem Metadata.isStale_iff {copy stored : Metadata} :
    copy.isStale stored = true ↔
      ∃ version, copy.resourceVersion = some version ∧ stored.resourceVersion ≠ some version := by
  cases h : copy.resourceVersion with
  | none => simp [isStale, h]
  | some version => simpa [isStale, h] using ne_comm

namespace Cluster

/-! ## The gates of a write -/

/-- Let a write pass the faults that have been set up. A conflict is used up by the write that
runs into it. -/
def allow (kind : ResourceKind) (inNamespace : Option String) (name : String) (s : Cluster) :
    Except StoreError Unit × Cluster :=
  match inNamespace.filter s.failingNamespaces.contains with
  | some ns =>
    (.error (.api 500 ("injected write failure for " ++ kind.text ++ " " ++ ns ++ "/" ++ name)),
      s)
  | none =>
    if s.pendingConflicts = 0 then (.ok (), s)
    else (.error (.conflict kind name), { s with pendingConflicts := s.pendingConflicts - 1 })

/-- Let a replacement pass all gates: the object that is stored so far. The next version is given
out even if the object is missing or the copy is stale. -/
def allowReplacement {α : Type} (kind : ResourceKind) (inNamespace : Option String)
    (copy : Metadata) (metadata : α → Metadata) (stored : Option α) (s : Cluster) :
    Except StoreError α × Cluster :=
  let name := copy.effectiveName
  match s.allow kind inNamespace name with
  | (.error e, s) => (.error e, s)
  | (.ok (), s) =>
    let s := s.tick
    let shown := match inNamespace with
      | some ns => (ObjectKey.mk ns name).text
      | none => name
    match stored with
    | none => (.error (.notFound kind shown), s)
    | some old =>
      if copy.isStale (metadata old) then (.error (.conflict kind shown), s)
      else (.ok old, { s with writes := s.writes + 1 })

/-! ## Pullers -/

/-- Replace a puller, all but its status, its identity, and what only the cluster sets. -/
def replacePuller (p : Puller) (s : Cluster) : Except StoreError Puller × Cluster :=
  match s.allowReplacement .puller none p.metadata Puller.metadata (s.pullers.get? p.name) with
  | (.error e, s) => (.error e, s)
  | (.ok old, s) =>
    let new : Puller := { p with
      status := old.status
      metadata := { p.metadata with
        uid := old.metadata.uid
        deletionTimestamp := old.metadata.deletionTimestamp
        generation := old.metadata.generation
        resourceVersion := some s.versionText } }
    if new.metadata.isTerminating && new.metadata.finalizerList.isEmpty then
      (.ok new, { s with pullers := s.pullers.erase p.name })
    else
      (.ok new, { s with pullers := s.pullers.insert p.name new })

/-- Replace the status of a puller. -/
def replacePullerStatus (p : Puller) (s : Cluster) : Except StoreError Puller × Cluster :=
  match s.allowReplacement .puller none p.metadata Puller.metadata (s.pullers.get? p.name) with
  | (.error e, s) => (.error e, s)
  | (.ok old, s) =>
    let new : Puller := { old with
      status := p.status
      metadata := { old.metadata with resourceVersion := some s.versionText } }
    (.ok new, { s with pullers := s.pullers.insert p.name new })

/-! ## Namespaces -/

/-- The namespaces of a list that a selector chooses. The selector is looked at for each of them,
so that one without a meaning does no harm to an empty list. -/
def choose (selector : LabelSelector) : List Namespace → Except SelectorError (List Namespace)
  | [] => .ok []
  | ns :: rest => do
    let chosen ← selector.selects ns.metadata.labels
    let others ← choose selector rest
    .ok (if chosen then ns :: others else others)

/-- List something, unless listings fail. -/
def list {α : Type} (kind : ResourceKind) (items : Except StoreError (List α)) (s : Cluster) :
    Except StoreError (List α) :=
  if s.listsFail then .error (.api 503 ("injected list failure for " ++ kind.text)) else items

/-- List the namespaces that a selector chooses, or all of them, in order of their names. -/
def listNamespaces (selector : Option LabelSelector) (s : Cluster) :
    Except StoreError (List Namespace) :=
  s.list .namespace <|
    match selector with
    | none => .ok s.namespaces.values
    | some selector => (choose selector s.namespaces.values).mapError .selector

/-! ## Secrets -/

/-- Create a secret in a namespace that is there, under a name that is free. -/
def createSecret (x : Secret) (s : Cluster) : Except StoreError Secret × Cluster :=
  match x.metadata.key .secret with
  | .error e => (.error e, s)
  | .ok key =>
    match s.allow .secret (some key.inNamespace) key.name with
    | (.error e, s) => (.error e, s)
    | (.ok (), s) =>
      if !s.namespaces.contains key.inNamespace then
        (.error (.notFound .namespace key.inNamespace), s)
      else if s.secrets.contains key then
        (.error (.alreadyExists .secret key.text), s)
      else
        let s := s.tick.identify
        let new : Secret := { x with
          metadata := { x.metadata with
            resourceVersion := some s.versionText
            uid := some s.newIdentity } }
        (.ok new, { s with secrets := s.secrets.insert key new, writes := s.writes + 1 })

/-- Replace a secret, all but its identity. -/
def replaceSecret (x : Secret) (s : Cluster) : Except StoreError Secret × Cluster :=
  match x.metadata.key .secret with
  | .error e => (.error e, s)
  | .ok key =>
    match s.allowReplacement .secret (some key.inNamespace) x.metadata Secret.metadata
        (s.secrets.get? key) with
    | (.error e, s) => (.error e, s)
    | (.ok old, s) =>
      let new : Secret := { x with
        metadata := { x.metadata with
          uid := old.metadata.uid
          resourceVersion := some s.versionText } }
      (.ok new, { s with secrets := s.secrets.insert key new })

/-! ## Service accounts -/

/-- List the service accounts of a namespace, or all of them, in order of their places. -/
def listServiceAccounts (inNamespace : Option String) (s : Cluster) :
    Except StoreError (List ServiceAccount) :=
  s.list .serviceAccount <| .ok <|
    (s.serviceAccounts.entries.filter fun e => inNamespace.all (· == e.1.inNamespace)).map (·.2)

/-- Replace a service account, all but its identity. -/
def replaceServiceAccount (a : ServiceAccount) (s : Cluster) :
    Except StoreError ServiceAccount × Cluster :=
  match a.metadata.key .serviceAccount with
  | .error e => (.error e, s)
  | .ok key =>
    match s.allowReplacement .serviceAccount (some key.inNamespace) a.metadata
        ServiceAccount.metadata (s.serviceAccounts.get? key) with
    | (.error e, s) => (.error e, s)
    | (.ok old, s) =>
      let new : ServiceAccount := { a with
        metadata := { a.metadata with
          uid := old.metadata.uid
          resourceVersion := some s.versionText } }
      (.ok new, { s with serviceAccounts := s.serviceAccounts.insert key new })

/-! ## All calls -/

/-- Answer a call: the answer, and the cluster after it. -/
def answer (s : Cluster) : (c : Call) → c.Reply × Cluster
  | .getPuller name => (.ok (s.pullers.get? name), s)
  | .replacePuller p => s.replacePuller p
  | .replacePullerStatus p => s.replacePullerStatus p
  | .listNamespaces selector => (s.listNamespaces selector, s)
  | .getSecret inNamespace name => (.ok (s.secrets.get? ⟨inNamespace, name⟩), s)
  | .createSecret x => s.createSecret x
  | .replaceSecret x => s.replaceSecret x
  | .listServiceAccounts inNamespace => (s.listServiceAccounts inNamespace, s)
  | .getServiceAccount inNamespace name =>
    (.ok (s.serviceAccounts.get? ⟨inNamespace, name⟩), s)
  | .replaceServiceAccount a => s.replaceServiceAccount a

/-- Reading and listing change nothing. -/
theorem answer_of_not_isWrite (s : Cluster) {c : Call} (h : c.isWrite = false) :
    (s.answer c).2 = s := by
  cases c <;> simp [Call.isWrite] at h <;> rfl

end Cluster

end PullSecrets
