import PullSecrets.Object.Metadata
import PullSecrets.Puller.Status
import PullSecrets.Selector.Basic

/-!
# Pullers

A puller declares credentials for image registries and chooses the namespaces that are to have
them. Its specification says what is wanted, its status what was last observed.

## Main facts

* `Puller.hasFinalizer_iff`: a puller is guarded when its finalizers hold the one of this
  controller.
-/

namespace PullSecrets

/-! ## Names of this controller -/

namespace Names

/-- The name of the secret that carries the credentials. -/
def secret : String := "puller-config"

/-- The label of a secret that names its puller. -/
def ownerLabel : String := "puller.io/name"

/-- The finalizer that keeps a puller until its bindings are gone. -/
def finalizer : String := "puller.io/finalizer"

/-- The annotation that is stamped to ask for a reconcile. -/
def reconcileAnnotation : String := "puller.io/reconcile"

/-- The type of a secret with registry credentials. -/
def secretType : String := "kubernetes.io/dockerconfigjson"

/-- The name under which such a secret holds its document. -/
def documentKey : String := ".dockerconfigjson"

/-- The name by which this controller writes. -/
def fieldManager : String := "puller-controller"

/-- The group of pullers. -/
def group : String := "puller.io"

/-- The version of pullers. -/
def version : String := "v1alpha1"

/-- The group and version of pullers. -/
def apiVersion : String := group ++ "/" ++ version

/-- The kind of pullers. -/
def kind : String := "Puller"

/-- The name of the collection of pullers. -/
def plural : String := "pullers"

end Names

/-! ## Pullers -/

/-- Credentials for a registry. An empty text stands for one that is not given. -/
structure Registry where
  server : String := ""
  username : String := ""
  password : String := ""
  email : String := ""
  /-- The user name and the password in one encoded text. -/
  auth : String := ""
  deriving DecidableEq, Inhabited

/-- What a puller wants: credentials, and the namespaces that are to have them. Without a
selector all namespaces are meant. -/
structure PullerSpec where
  registries : List Registry := []
  namespaceSelector : Option LabelSelector := none
  deriving DecidableEq, Inhabited

/-- A puller. -/
structure Puller where
  metadata : Metadata
  spec : PullerSpec
  status : Option PullerStatus := none
  deriving DecidableEq, Inhabited

namespace Puller

/-- The name a puller goes by. -/
def name (p : Puller) : String := p.metadata.effectiveName

/-- A puller of a name that wants nothing. -/
def ofName (name : String) : Puller := { metadata := { name := some name }, spec := {} }

/-- Whether the finalizer of this controller guards a puller. -/
def hasFinalizer (p : Puller) : Bool := p.metadata.finalizerList.contains Names.finalizer

/-- A puller is guarded when its finalizers hold the one of this controller. -/
@[simp] theorem hasFinalizer_iff {p : Puller} :
    p.hasFinalizer = true ↔ Names.finalizer ∈ p.metadata.finalizerList := by
  simp [hasFinalizer]

/-- The puller with other finalizers. -/
def withFinalizers (p : Puller) (finalizers : List String) : Puller :=
  { p with metadata := { p.metadata with finalizers := some finalizers } }

end Puller

/-! ## Reading and writing -/

open Json (Node)

/-- Read credentials. -/
def Registry.ofNode? (n : Node) : Option Registry := do
  match ← n.record? [["server"], ["username"], ["password"], ["email"], ["auth"]] with
  | [server, username, password, email, auth] =>
    some {
      server := ← Node.orElse "" Node.text? server
      username := ← Node.orElse "" Node.text? username
      password := ← Node.orElse "" Node.text? password
      email := ← Node.orElse "" Node.text? email
      auth := ← Node.orElse "" Node.text? auth }
  | _ => none

/-- Read a specification. The selector also goes by an older name. -/
def PullerSpec.ofNode? (n : Node) : Option PullerSpec := do
  match ← n.record? [["registries"], ["namespaceSelector", "namespaceAffinity"]] with
  | [registries, selector] =>
    some {
      registries := ← Node.orElse [] (Node.list? Registry.ofNode?) registries
      namespaceSelector := ← Node.orElse none (Node.optional LabelSelector.ofNode?) selector }
  | _ => none

/-- Read a puller. An array has to hold all three parts. -/
def Puller.ofNode? (n : Node) : Option Puller := do
  match ← n.record? [["metadata"], ["spec"], ["status"]] with
  | [metadata, spec, status] =>
    guard (status.isSome || n.items?.isNone)
    some {
      metadata := ← Node.required Metadata.ofNode? metadata
      spec := ← Node.required PullerSpec.ofNode? spec
      status := ← Node.orElse none (Node.optional PullerStatus.ofNode?) status }
  | _ => none

/-- A text that is written unless it is empty. -/
def Json.ofNonempty (s : String) : Option Json := if s.isEmpty then none else some (.string s)

/-- The object of credentials; empty texts are not written. -/
def Registry.toJson (r : Registry) : Json :=
  Json.ofFields [
    ("server", Json.ofNonempty r.server),
    ("username", Json.ofNonempty r.username),
    ("password", Json.ofNonempty r.password),
    ("email", Json.ofNonempty r.email),
    ("auth", Json.ofNonempty r.auth)]

/-- The object of a specification. -/
def PullerSpec.toJson (s : PullerSpec) : Json :=
  Json.ofFields [
    ("registries", some (.array (s.registries.map Registry.toJson))),
    ("namespaceSelector", s.namespaceSelector.map LabelSelector.toJson)]

/-- The object of a puller. -/
def Puller.toJson (p : Puller) : Json :=
  Json.ofFields [
    ("apiVersion", some (.string Names.apiVersion)),
    ("kind", some (.string Names.kind)),
    ("metadata", some p.metadata.toJson),
    ("spec", some p.spec.toJson),
    ("status", p.status.map PullerStatus.toJson)]

end PullSecrets
