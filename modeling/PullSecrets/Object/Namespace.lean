import PullSecrets.Object.Metadata

/-!
# Namespaces

A namespace is a part of the cluster that other objects live in. What matters of it are its name
and its labels; the rest is carried along.

## Main facts

* `Namespace.toJson` and `Namespace.ofNode?`: writing and reading a namespace.
-/

namespace PullSecrets

/-- An observation about a namespace. -/
structure NamespaceCondition where
  lastTransitionTime : Option Timestamp
  message : Option String
  reason : Option String
  status : String
  type : String
  deriving DecidableEq, Inhabited

/-- What has been observed about a namespace. -/
structure NamespaceStatus where
  conditions : Option (List NamespaceCondition)
  phase : Option String
  deriving DecidableEq, Inhabited

/-- What a namespace is asked to be. -/
structure NamespaceSpec where
  finalizers : Option (List String)
  deriving DecidableEq, Inhabited

/-- A namespace. -/
structure Namespace where
  metadata : Metadata
  spec : Option NamespaceSpec := none
  status : Option NamespaceStatus := none
  deriving DecidableEq, Inhabited

open Json (Node)

/-- Read an observation. -/
def NamespaceCondition.ofNode? (n : Node) : Option NamespaceCondition := do
  let ms ← n.members?
  some {
    lastTransitionTime := ← Node.field ms "lastTransitionTime" Node.timestamp?
    message := ← Node.field ms "message" Node.text?
    reason := ← Node.field ms "reason" Node.text?
    status := (← Node.field ms "status" Node.text?).getD ""
    type := (← Node.field ms "type" Node.text?).getD "" }

/-- Read what has been observed. -/
def NamespaceStatus.ofNode? (n : Node) : Option NamespaceStatus := do
  let ms ← n.members?
  some {
    conditions := ← Node.field ms "conditions" (Node.list? NamespaceCondition.ofNode?)
    phase := ← Node.field ms "phase" Node.text? }

/-- Read what is asked for. -/
def NamespaceSpec.ofNode? (n : Node) : Option NamespaceSpec := do
  let ms ← n.members?
  some { finalizers := ← Node.field ms "finalizers" Node.strings? }

/-- The object of an observation. -/
def NamespaceCondition.toJson (c : NamespaceCondition) : Json :=
  Json.ofFields [
    ("lastTransitionTime", c.lastTransitionTime.map fun t => .string t.text),
    ("message", c.message.map .string),
    ("reason", c.reason.map .string),
    ("status", some (.string c.status)),
    ("type", some (.string c.type))]

/-- The object of what has been observed. -/
def NamespaceStatus.toJson (s : NamespaceStatus) : Json :=
  Json.ofFields [
    ("conditions", s.conditions.map fun cs => .array (cs.map NamespaceCondition.toJson)),
    ("phase", s.phase.map .string)]

/-- The object of what is asked for. -/
def NamespaceSpec.toJson (s : NamespaceSpec) : Json :=
  Json.ofFields [("finalizers", s.finalizers.map .ofStrings)]

namespace Namespace

/-- Read a namespace. -/
def ofNode? (n : Node) : Option Namespace := do
  let ms ← n.members?
  Node.constant ms "apiVersion" "v1"
  Node.constant ms "kind" "Namespace"
  some {
    metadata := (← Node.field ms "metadata" Metadata.ofNode?).getD {}
    spec := ← Node.field ms "spec" NamespaceSpec.ofNode?
    status := ← Node.field ms "status" NamespaceStatus.ofNode? }

/-- The object of a namespace. -/
def toJson (s : Namespace) : Json :=
  Json.ofFields [
    ("apiVersion", some (.string "v1")),
    ("kind", some (.string "Namespace")),
    ("metadata", some s.metadata.toJson),
    ("spec", s.spec.map NamespaceSpec.toJson),
    ("status", s.status.map NamespaceStatus.toJson)]

end Namespace

end PullSecrets
