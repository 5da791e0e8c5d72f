import PullSecrets.Object.Namespace
import PullSecrets.Object.Secret
import PullSecrets.Puller.Basic

/-!
# Triggers

Watching namespaces and secrets shows when pullers have to be looked at. A namespace that was not
there before may be chosen by any puller, so every known puller is asked for. A secret that goes
away is asked for from the puller that its label names.

A watch begins with a listing of what is there, and may list again after an interruption. What is
in the first listing is not new; a later listing may show names that appeared meanwhile.
-/

namespace PullSecrets

/-- What a watch reports. -/
inductive WatchEvent (α : Type) where
  /-- A listing begins. -/
  | listing
  /-- An object of the listing. -/
  | listed (a : α)
  /-- The listing is complete. -/
  | complete
  /-- An object has appeared or changed. -/
  | applied (a : α)
  /-- An object has gone. -/
  | deleted (a : α)
  deriving DecidableEq, Inhabited

namespace WatchEvent

/-- The same event with another object. -/
def map {α β : Type} (f : α → β) : WatchEvent α → WatchEvent β
  | listing => listing
  | listed a => listed (f a)
  | complete => complete
  | applied a => applied (f a)
  | deleted a => deleted (f a)

end WatchEvent

/-- A reason to look at pullers. -/
inductive Trigger where
  /-- A namespace has been created. -/
  | namespaceCreated (name : String)
  /-- A secret has been deleted, with the puller that its label names. -/
  | secretDeleted (inNamespace : String) (owner : Option String)
  deriving DecidableEq, Inhabited

namespace Trigger

/-- The pullers to look at, of those that are known. -/
def requests (known : List String) : Trigger → List String
  | namespaceCreated _ => known
  | secretDeleted _ owner => owner.toList.filter known.contains

/-- The text that stands for a puller to look at. -/
def requestText (name : String) : String :=
  Names.kind ++ "." ++ Names.version ++ "." ++ Names.group ++ "/" ++ name

/-- The trigger of an event about secrets. -/
def ofSecretEvent? : WatchEvent Secret → Option Trigger
  | .deleted x =>
    some (.secretDeleted (x.metadata.inNamespace.getD "") (x.metadata.label? Names.ownerLabel))
  | _ => none

end Trigger

/-! ## Names of namespaces -/

/-- What a watch of namespaces has shown so far. -/
structure Tracker where
  /-- Whether a listing has been completed. -/
  listed : Bool := false
  /-- The names that are known. -/
  seen : Dict String Unit := .empty
  /-- The names of the listing that is under way. -/
  pending : Dict String Unit := .empty
  deriving DecidableEq, Inhabited

namespace Tracker

/-- The first name in a listing that is not known. -/
def firstNew? (seen pending : Dict String Unit) : Option String :=
  pending.keys.find? fun name => !seen.contains name

/-- Take an event about the namespace of a name. -/
def step (t : Tracker) : WatchEvent String → Option Trigger × Tracker
  | .listing => (none, { t with pending := .empty })
  | .listed name => (none, { t with pending := t.pending.insert name () })
  | .complete =>
    let new := if t.listed then firstNew? t.seen t.pending else none
    (new.map .namespaceCreated, { listed := true, seen := t.pending })
  | .applied name =>
    (if t.seen.contains name then none else some (.namespaceCreated name),
      { t with seen := t.seen.insert name () })
  | .deleted name => (none, { t with seen := t.seen.erase name })

/-- Take an event about a namespace. -/
def observe (t : Tracker) (e : WatchEvent Namespace) : Option Trigger × Tracker :=
  t.step (e.map fun ns => ns.metadata.effectiveName)

end Tracker

end PullSecrets
