import PullSecrets.Credentials
import PullSecrets.Retry

/-!
# The secret of a namespace

Every target namespace has one secret with the credentials of its puller. The secret that is
wanted says what the stored one has to carry: the document, the type, the label that names the
puller, and the puller among its owners. Anything else of the stored secret is kept, its owners
included.

## Main facts

* `PullSecret.mem_addOwner`: owners are never taken away.
-/

namespace PullSecrets

/-- A puller as the managing owner of an object; it has to have a name and an identity. -/
def Puller.owner? (p : Puller) : Option OwnerReference := do
  let name ← p.metadata.name
  let uid ← p.metadata.uid
  some {
    apiVersion := Names.apiVersion
    blockOwnerDeletion := some true
    controller := some true
    kind := Names.kind
    name := name
    uid := uid }

/-- The document that a secret holds. -/
def Secret.document? (x : Secret) : Option ByteArray :=
  x.data.bind (·.get? Names.documentKey)

namespace PullSecret

/-- The secret that a puller wants in a namespace. -/
def wanted (p : Puller) (document : ByteArray) (inNamespace : String) : Secret where
  metadata := {
    name := some Names.secret
    inNamespace := some inNamespace
    labels := some (Dict.ofList [(Names.ownerLabel, p.name)])
    ownerReferences := p.owner?.map fun owner => [owner] }
  type := some Names.secretType
  data := some (Dict.ofList [(Names.documentKey, document)])

/-- Whether an owner is among some owners, by its identity. -/
def isOwner (owners : List OwnerReference) (owner : OwnerReference) : Bool :=
  owners.any (·.uid == owner.uid)

/-- Whether a secret holds the wanted document and nothing else. -/
def holdsDocument (current wanted : Secret) : Bool :=
  match current.document?, wanted.document? with
  | some document, some other =>
    Credentials.same document other && (current.data.map (·.size)) == some 1
  | _, _ => false

/-- Whether a secret carries all that is wanted. -/
def isCurrent (current wanted : Secret) : Bool :=
  holdsDocument current wanted
    && current.metadata.label? Names.ownerLabel == wanted.metadata.label? Names.ownerLabel
    && wanted.metadata.ownerList.all (isOwner current.metadata.ownerList)
    && current.type == wanted.type

/-- Add an owner, unless it is there. -/
def addOwner (owners : List OwnerReference) (owner : OwnerReference) : List OwnerReference :=
  if isOwner owners owner then owners else owners ++ [owner]

/-- The stored secret with all that is wanted, and otherwise as it is. -/
def merge (current wanted : Secret) : Secret :=
  let owners := wanted.metadata.ownerList
  { current with
    type := wanted.type
    data := wanted.data
    stringData := none
    metadata := { current.metadata with
      labels := some ((current.metadata.labels.getD .empty).insertAll
        ((wanted.metadata.labels.getD .empty).entries))
      ownerReferences :=
        if owners.isEmpty then current.metadata.ownerReferences
        else some (owners.foldl addOwner current.metadata.ownerList) } }

open Program (ask)

/-- Give a namespace the secret that is wanted: whether it was written. -/
def ensure (policy : RetryPolicy) (wanted : Secret) : Program StoreError Bool :=
  Program.retry policy fun _ => do
    match ← ask (.getSecret (wanted.metadata.inNamespace.getD "")
        wanted.metadata.effectiveName) with
    | none =>
      let _ ← ask (.createSecret wanted)
      pure true
    | some current =>
      if isCurrent current wanted then pure false
      else
        let _ ← ask (.replaceSecret (merge current wanted))
        pure true

/-- Owners are never taken away. -/
theorem mem_addOwner {owners : List OwnerReference} {owner other : OwnerReference}
    (h : other ∈ owners) : other ∈ addOwner owners owner := by
  rw [addOwner]
  split
  · exact h
  · exact List.mem_append_left _ h

end PullSecret

end PullSecrets
