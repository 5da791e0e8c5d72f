import PullSecrets.Json.Node
import PullSecrets.Timestamp

/-!
# Metadata of stored objects

Every stored object carries the same metadata: its names, its version, its labels, and the
bookkeeping of its life. Most of it may be absent. An object without a name goes by the beginning
of the name that is still to be generated.

## Main facts

* `ObjectKey` is ordered by namespace first and by name second.
-/

namespace PullSecrets

/-! ## Keys -/

/-- The place of an object that lives in a namespace. -/
structure ObjectKey where
  /-- The namespace. -/
  inNamespace : String
  /-- The name within the namespace. -/
  name : String
  deriving DecidableEq, Inhabited

namespace ObjectKey

/-- The namespace and the name with a slash between them. -/
def text (k : ObjectKey) : String := k.inNamespace ++ "/" ++ k.name

instance : Ord ObjectKey where
  compare := compareLex (compareOn inNamespace) (compareOn name)

instance : Std.TransOrd ObjectKey :=
  inferInstanceAs (Std.TransCmp (compareLex (compareOn inNamespace) (compareOn name)))

instance : Std.LawfulEqOrd ObjectKey where
  eq_of_compare {a b} h := by
    have h : compareLex (compareOn inNamespace) (compareOn name) a b = .eq := h
    simp only [compareLex, compareOn, Ordering.then_eq_eq,
      Std.LawfulEqCmp.compare_eq_iff_eq] at h
    cases a; cases b
    simp_all

end ObjectKey

/-! ## Parts -/

/-- A reference to an object that owns another one. -/
structure OwnerReference where
  /-- The group and version of the owner. -/
  apiVersion : String
  /-- Whether the owner waits for the owned object when it is deleted in the foreground. -/
  blockOwnerDeletion : Option Bool
  /-- Whether the owner is the one that manages the object. -/
  controller : Option Bool
  /-- The kind of the owner. -/
  kind : String
  /-- The name of the owner. -/
  name : String
  /-- The identity of the owner. -/
  uid : String
  deriving DecidableEq, Inhabited

/-- Which fields of an object a client has written. -/
structure ManagedFields where
  apiVersion : Option String
  fieldsType : Option String
  fieldsV1 : Option Json
  manager : Option String
  operation : Option String
  subresource : Option String
  time : Option Timestamp
  deriving DecidableEq, Inhabited

/-- The metadata of an object. -/
structure Metadata where
  annotations : Option (Dict String String) := none
  creationTimestamp : Option Timestamp := none
  deletionGracePeriodSeconds : Option Int := none
  deletionTimestamp : Option Timestamp := none
  finalizers : Option (List String) := none
  generateName : Option String := none
  generation : Option Int := none
  labels : Option (Dict String String) := none
  managedFields : Option (List ManagedFields) := none
  name : Option String := none
  inNamespace : Option String := none
  ownerReferences : Option (List OwnerReference) := none
  resourceVersion : Option String := none
  selfLink : Option String := none
  uid : Option String := none
  deriving DecidableEq, Inhabited

namespace Metadata

/-! ## Views -/

/-- The name an object goes by. -/
def effectiveName (m : Metadata) : String := (m.name <|> m.generateName).getD ""

/-- The label under a key. -/
def label? (m : Metadata) (k : String) : Option String := m.labels.bind (·.get? k)

/-- The finalizers, none if there is no list. -/
def finalizerList (m : Metadata) : List String := m.finalizers.getD []

/-- The owners, none if there is no list. -/
def ownerList (m : Metadata) : List OwnerReference := m.ownerReferences.getD []

/-- Whether the object is about to be deleted. -/
def isTerminating (m : Metadata) : Bool := m.deletionTimestamp.isSome

end Metadata

/-! ## Reading -/

namespace Json.Node

/-- A point in time. -/
def timestamp? (n : Node) : Option Timestamp := n.text?.bind Timestamp.ofString?

/-- A member that may be absent, but has to be this text where it is written. -/
def constant (ms : List (String × Node)) (name value : String) : Option Unit :=
  guard (ms.all fun m => m.1 != name || m.2.text? == some value)

end Json.Node

open Json (Node)

/-- Read the reference to an owner. -/
def OwnerReference.ofNode? (n : Node) : Option OwnerReference := do
  let ms ← n.members?
  some {
    apiVersion := (← Node.field ms "apiVersion" Node.text?).getD ""
    blockOwnerDeletion := ← Node.field ms "blockOwnerDeletion" Node.bool?
    controller := ← Node.field ms "controller" Node.bool?
    kind := (← Node.field ms "kind" Node.text?).getD ""
    name := (← Node.field ms "name" Node.text?).getD ""
    uid := (← Node.field ms "uid" Node.text?).getD "" }

/-- Read the fields that a client has written. -/
def ManagedFields.ofNode? (n : Node) : Option ManagedFields := do
  let ms ← n.members?
  some {
    apiVersion := ← Node.field ms "apiVersion" Node.text?
    fieldsType := ← Node.field ms "fieldsType" Node.text?
    fieldsV1 := ← Node.field ms "fieldsV1" Node.value?
    manager := ← Node.field ms "manager" Node.text?
    operation := ← Node.field ms "operation" Node.text?
    subresource := ← Node.field ms "subresource" Node.text?
    time := ← Node.field ms "time" Node.timestamp? }

/-- Read the metadata of an object. -/
def Metadata.ofNode? (n : Node) : Option Metadata := do
  let ms ← n.members?
  some {
    annotations := ← Node.field ms "annotations" Node.texts?
    creationTimestamp := ← Node.field ms "creationTimestamp" Node.timestamp?
    deletionGracePeriodSeconds := ← Node.field ms "deletionGracePeriodSeconds" Node.int64?
    deletionTimestamp := ← Node.field ms "deletionTimestamp" Node.timestamp?
    finalizers := ← Node.field ms "finalizers" Node.strings?
    generateName := ← Node.field ms "generateName" Node.text?
    generation := ← Node.field ms "generation" Node.int64?
    labels := ← Node.field ms "labels" Node.texts?
    managedFields := ← Node.field ms "managedFields" (Node.list? ManagedFields.ofNode?)
    name := ← Node.field ms "name" Node.text?
    inNamespace := ← Node.field ms "namespace" Node.text?
    ownerReferences := ← Node.field ms "ownerReferences" (Node.list? OwnerReference.ofNode?)
    resourceVersion := ← Node.field ms "resourceVersion" Node.text?
    selfLink := ← Node.field ms "selfLink" Node.text?
    uid := ← Node.field ms "uid" Node.text? }

/-! ## Writing -/

/-- The object of a reference to an owner. -/
def OwnerReference.toJson (o : OwnerReference) : Json :=
  Json.ofFields [
    ("apiVersion", some (.string o.apiVersion)),
    ("blockOwnerDeletion", o.blockOwnerDeletion.map .bool),
    ("controller", o.controller.map .bool),
    ("kind", some (.string o.kind)),
    ("name", some (.string o.name)),
    ("uid", some (.string o.uid))]

/-- The object of the fields that a client has written. -/
def ManagedFields.toJson (f : ManagedFields) : Json :=
  Json.ofFields [
    ("apiVersion", f.apiVersion.map .string),
    ("fieldsType", f.fieldsType.map .string),
    ("fieldsV1", f.fieldsV1),
    ("manager", f.manager.map .string),
    ("operation", f.operation.map .string),
    ("subresource", f.subresource.map .string),
    ("time", f.time.map fun t => .string t.text)]

/-- The object of the metadata. -/
def Metadata.toJson (m : Metadata) : Json :=
  Json.ofFields [
    ("annotations", m.annotations.map .ofTexts),
    ("creationTimestamp", m.creationTimestamp.map fun t => .string t.text),
    ("deletionGracePeriodSeconds", m.deletionGracePeriodSeconds.map .ofInt),
    ("deletionTimestamp", m.deletionTimestamp.map fun t => .string t.text),
    ("finalizers", m.finalizers.map .ofStrings),
    ("generateName", m.generateName.map .string),
    ("generation", m.generation.map .ofInt),
    ("labels", m.labels.map .ofTexts),
    ("managedFields", m.managedFields.map fun fs => .array (fs.map ManagedFields.toJson)),
    ("name", m.name.map .string),
    ("namespace", m.inNamespace.map .string),
    ("ownerReferences", m.ownerReferences.map fun os => .array (os.map OwnerReference.toJson)),
    ("resourceVersion", m.resourceVersion.map .string),
    ("selfLink", m.selfLink.map .string),
    ("uid", m.uid.map .string)]

end PullSecrets
