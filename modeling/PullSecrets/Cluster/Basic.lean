import PullSecrets.Store.Call

/-!
# A cluster in memory

The cluster keeps the objects of all four kinds, together with the counters from which versions
and identities are taken, and with the faults that have been set up: namespaces in which every
write fails, listings that fail, and conflicts that the next writes run into.
-/

namespace PullSecrets

/-- The state of a cluster. -/
structure Cluster where
  /-- The last version that has been given out. -/
  version : Nat := 0
  /-- The number of identities that have been given out. -/
  identities : Nat := 0
  /-- The number of calls that have written an object. -/
  writes : Nat := 0
  /-- How many of the next writes run into a conflict. -/
  pendingConflicts : Nat := 0
  /-- Whether listings fail. -/
  listsFail : Bool := false
  /-- The namespaces in which writes fail. -/
  failingNamespaces : List String := []
  pullers : Dict String Puller := .empty
  namespaces : Dict String Namespace := .empty
  secrets : Dict ObjectKey Secret := .empty
  serviceAccounts : Dict ObjectKey ServiceAccount := .empty
  deriving DecidableEq, Inhabited

namespace Cluster

/-- The cluster without objects and faults. -/
def empty : Cluster := {}

/-- Give out the next version. -/
def tick (s : Cluster) : Cluster := { s with version := s.version + 1 }

/-- The text of the last version. -/
def versionText (s : Cluster) : String := Text.Decimal.padded 1 s.version

/-- Give out the next identity. -/
def identify (s : Cluster) : Cluster := { s with identities := s.identities + 1 }

/-- The text of an identity by its number. -/
def identityText (n : Nat) : String := "00000000-0000-0000-0000-" ++ Text.Decimal.padded 12 n

/-- The text of the last identity. -/
def newIdentity (s : Cluster) : String := identityText s.identities

end Cluster

end PullSecrets
