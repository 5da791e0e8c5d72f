import PullSecrets.Proofs.Leads

/-!
# What a write does to a cluster

A write that is refused leaves the objects as they are. One that is accepted stores one object,
or removes one puller, and what is stored is the copy with a new version and with what only the
cluster sets.

## Main facts

* `Cluster.Alike`: the same objects, up to counters and pending conflicts.
* `Cluster.replacePuller_cases`, `Cluster.replaceSecret_cases`, ...: all that a write may do,
  whatever is written.
-/

namespace PullSecrets

/-! ## Versions -/

/-- Metadata with another version. -/
def Metadata.stamp (m : Metadata) (version : String) : Metadata :=
  { m with resourceVersion := some version }

/-- The secret with another version. -/
def Secret.stamp (x : Secret) (version : String) : Secret :=
  { x with metadata := x.metadata.stamp version }

/-- The account with another version. -/
def ServiceAccount.stamp (a : ServiceAccount) (version : String) : ServiceAccount :=
  { a with metadata := a.metadata.stamp version }

/-- The puller with another version. -/
def Puller.stamp (p : Puller) (version : String) : Puller :=
  { p with metadata := p.metadata.stamp version }

/-! ## What is stored in place of another object -/

/-- The copy of a secret under the identity of the stored one. -/
def Secret.inPlaceOf (x old : Secret) (version : String) : Secret :=
  { x with
    metadata := { x.metadata with uid := old.metadata.uid, resourceVersion := some version } }

/-- The secret with a version and an identity of its own. -/
def Secret.identified (x : Secret) (version uid : String) : Secret :=
  { x with metadata := { x.metadata with resourceVersion := some version, uid := some uid } }

/-- The copy of an account under the identity of the stored one. -/
def ServiceAccount.inPlaceOf (a old : ServiceAccount) (version : String) : ServiceAccount :=
  { a with
    metadata := { a.metadata with uid := old.metadata.uid, resourceVersion := some version } }

/-- The copy of a puller with what only the cluster sets of the stored one. -/
def Puller.inPlaceOf (p old : Puller) (version : String) : Puller :=
  { p with
    status := old.status
    metadata := { p.metadata with
      uid := old.metadata.uid
      deletionTimestamp := old.metadata.deletionTimestamp
      generation := old.metadata.generation
      resourceVersion := some version } }

@[simp] theorem Puller.hasFinalizer_stamp (p : Puller) (version : String) :
    (p.stamp version).hasFinalizer = p.hasFinalizer := rfl

@[simp] theorem ServiceAccount.pullSecretList_stamp (a : ServiceAccount) (version : String) :
    (a.stamp version).pullSecretList = a.pullSecretList := rfl

/-- The place of an object is given by its namespace and by the name it goes by. -/
theorem Metadata.key_eq_ok_iff {kind : ResourceKind} {m : Metadata} {key : ObjectKey} :
    m.key kind = .ok key ↔ m.inNamespace = some key.inNamespace ∧ m.effectiveName = key.name := by
  obtain ⟨ns, name⟩ := key
  cases h : m.inNamespace with
  | none => simp [Metadata.key, h]
  | some own => simp [Metadata.key, h]

/-- A copy with the version that is stored is not stale. -/
theorem Metadata.isStale_of_eq {copy stored : Metadata}
    (h : copy.resourceVersion = stored.resourceVersion) : copy.isStale stored = false := by
  simp [isStale, h]

/-- The refusal of a write in a namespace that has been broken. -/
def StoreError.injected (kind : ResourceKind) (inNamespace name : String) : StoreError :=
  .api 500 ("injected write failure for " ++ kind.text ++ " " ++ inNamespace ++ "/" ++ name)

namespace Cluster

/-! ## Clusters with the same objects -/

/-- The second cluster has the objects and the faults of the first; counters may have gone on, and
pending conflicts may have been used up. -/
structure Alike (s t : Cluster) : Prop where
  pullers : t.pullers = s.pullers
  namespaces : t.namespaces = s.namespaces
  secrets : t.secrets = s.secrets
  serviceAccounts : t.serviceAccounts = s.serviceAccounts
  listsFail : t.listsFail = s.listsFail
  failingNamespaces : t.failingNamespaces = s.failingNamespaces
  pendingConflicts : t.pendingConflicts ≤ s.pendingConflicts

theorem Alike.refl (s : Cluster) : s.Alike s := ⟨rfl, rfl, rfl, rfl, rfl, rfl, Nat.le_refl _⟩

theorem Alike.trans {s t u : Cluster} (hst : s.Alike t) (htu : t.Alike u) : s.Alike u where
  pullers := htu.pullers.trans hst.pullers
  namespaces := htu.namespaces.trans hst.namespaces
  secrets := htu.secrets.trans hst.secrets
  serviceAccounts := htu.serviceAccounts.trans hst.serviceAccounts
  listsFail := htu.listsFail.trans hst.listsFail
  failingNamespaces := htu.failingNamespaces.trans hst.failingNamespaces
  pendingConflicts := Nat.le_trans htu.pendingConflicts hst.pendingConflicts

/-- Use up some of the pending conflicts. -/
def spend (k : Nat) (s : Cluster) : Cluster :=
  { s with pendingConflicts := s.pendingConflicts - k }

/-- Use up all pending conflicts. -/
def calm (s : Cluster) : Cluster := { s with pendingConflicts := 0 }

theorem alike_spend (k : Nat) (s : Cluster) : s.Alike (s.spend k) :=
  ⟨rfl, rfl, rfl, rfl, rfl, rfl, Nat.sub_le _ _⟩

theorem spend_spend (j k : Nat) (s : Cluster) : (s.spend j).spend k = s.spend (j + k) := by
  simp only [spend, Nat.sub_sub]

/-! ## The gates -/

/-- The faults leave the objects as they are. -/
theorem alike_allow (kind : ResourceKind) (place : Option String) (name : String) (s : Cluster) :
    s.Alike (s.allow kind place name).2 := by
  rw [allow]
  split
  · exact Alike.refl s
  · split
    · exact Alike.refl s
    · exact alike_spend 1 s

section Replacement

variable {α : Type} (kind : ResourceKind) (place : Option String) (copy : Metadata)
  (metadata : α → Metadata) (stored : Option α) (s : Cluster)

/-- The gates of a replacement leave the objects as they are, and they are passed only by a copy
of an object that is stored. -/
theorem allowReplacement_cases :
    s.Alike (s.allowReplacement kind place copy metadata stored).2 ∧
      ∀ old, (s.allowReplacement kind place copy metadata stored).1 = .ok old →
        stored = some old := by
  have gate := alike_allow kind place copy.effectiveName s
  rcases hgate : s.allow kind place copy.effectiveName with ⟨r, t⟩
  rw [hgate] at gate
  simp only [allowReplacement, hgate]
  cases r with
  | error e => exact ⟨gate, fun old hold => by cases hold⟩
  | ok _ =>
    have ticked : s.Alike t.tick := gate.trans ⟨rfl, rfl, rfl, rfl, rfl, rfl, Nat.le_refl _⟩
    cases stored with
    | none => exact ⟨ticked, fun old hold => by cases hold⟩
    | some found =>
      simp only
      split
      · exact ⟨ticked, fun old hold => by cases hold⟩
      · refine ⟨ticked.trans ⟨rfl, rfl, rfl, rfl, rfl, rfl, Nat.le_refl _⟩, ?_⟩
        intro old hold
        cases hold
        rfl

end Replacement

/-! ## All that a write may do -/

/-- Replacing a puller is refused, or it removes the puller, or it stores the copy with what the
cluster keeps of the stored puller. -/
theorem replacePuller_cases (p : Puller) (s : Cluster) :
    ((∃ e, (s.replacePuller p).1 = .error e) ∧ s.Alike (s.replacePuller p).2) ∨
    ∃ old version, s.pullers.get? p.name = some old ∧
      (s.replacePuller p).1 = .ok (p.inPlaceOf old version) ∧
      ((old.metadata.isTerminating = true ∧ p.metadata.finalizerList = [] ∧
          Alike { s with pullers := s.pullers.erase p.name } (s.replacePuller p).2) ∨
        (¬ (old.metadata.isTerminating = true ∧ p.metadata.finalizerList = []) ∧
          Alike { s with pullers := s.pullers.insert p.name (p.inPlaceOf old version) }
            (s.replacePuller p).2)) := by
  have gates := allowReplacement_cases .puller none p.metadata Puller.metadata
    (s.pullers.get? p.name) s
  rw [replacePuller]
  split
  next e t h =>
    rw [h] at gates
    exact .inl ⟨⟨e, rfl⟩, gates.1⟩
  next old t h =>
    rw [h] at gates
    have same : s.Alike t := gates.1
    refine .inr ⟨old, t.versionText, gates.2 old rfl, ?_⟩
    -- The write is made after the gates, which have left the pullers of `s` as they were.
    rw [← same.pullers]
    dsimp only
    split
    next gone =>
      rw [Bool.and_eq_true, List.isEmpty_iff] at gone
      exact ⟨rfl, .inl ⟨gone.1, gone.2, rfl, same.namespaces, same.secrets, same.serviceAccounts,
        same.listsFail, same.failingNamespaces, same.pendingConflicts⟩⟩
    next stays =>
      rw [Bool.and_eq_true, List.isEmpty_iff] at stays
      exact ⟨rfl, .inr ⟨stays, rfl, same.namespaces, same.secrets, same.serviceAccounts,
        same.listsFail, same.failingNamespaces, same.pendingConflicts⟩⟩

/-- Replacing the status of a puller is refused, or it changes the status and the version. -/
theorem replacePullerStatus_cases (p : Puller) (s : Cluster) :
    ((∃ e, (s.replacePullerStatus p).1 = .error e) ∧ s.Alike (s.replacePullerStatus p).2) ∨
    ∃ old version, s.pullers.get? p.name = some old ∧
      (s.replacePullerStatus p).1 = .ok ({ old with status := p.status }.stamp version) ∧
      Alike { s with
        pullers := s.pullers.insert p.name ({ old with status := p.status }.stamp version) }
        (s.replacePullerStatus p).2 := by
  have gates := allowReplacement_cases .puller none p.metadata Puller.metadata
    (s.pullers.get? p.name) s
  rw [replacePullerStatus]
  split
  next e t h =>
    rw [h] at gates
    exact .inl ⟨⟨e, rfl⟩, gates.1⟩
  next old t h =>
    rw [h] at gates
    have same : s.Alike t := gates.1
    refine .inr ⟨old, t.versionText, gates.2 old rfl, rfl, ?_⟩
    rw [← same.pullers]
    exact ⟨rfl, same.namespaces, same.secrets, same.serviceAccounts, same.listsFail,
      same.failingNamespaces, same.pendingConflicts⟩

/-- Creating a secret is refused, or it stores the secret under a place that was free. -/
theorem createSecret_cases (x : Secret) (s : Cluster) :
    ((∃ e, (s.createSecret x).1 = .error e) ∧ s.Alike (s.createSecret x).2) ∨
    ∃ key version uid, x.metadata.key .secret = .ok key ∧ s.secrets.get? key = none ∧
      (s.createSecret x).1 = .ok (x.identified version uid) ∧
      Alike { s with secrets := s.secrets.insert key (x.identified version uid) }
        (s.createSecret x).2 := by
  rw [createSecret]
  split
  next e _ => exact .inl ⟨⟨e, rfl⟩, Alike.refl s⟩
  next key hkey =>
    have gate := alike_allow .secret (some key.inNamespace) key.name s
    split
    next e t h =>
      rw [h] at gate
      exact .inl ⟨⟨e, rfl⟩, gate⟩
    next t h =>
      rw [h] at gate
      have same : s.Alike t := gate
      split
      · exact .inl ⟨⟨_, rfl⟩, same⟩
      · split
        next taken => exact .inl ⟨⟨_, rfl⟩, same⟩
        next free =>
          refine .inr ⟨key, t.tick.identify.versionText, t.tick.identify.newIdentity, hkey, ?_,
            rfl, ?_⟩
          · rw [← same.secrets]
            simpa [Dict.contains] using free
          · rw [← same.secrets]
            exact ⟨same.pullers, same.namespaces, rfl, same.serviceAccounts, same.listsFail,
              same.failingNamespaces, same.pendingConflicts⟩

/-- Replacing a secret is refused, or it stores the copy under the identity of the stored one. -/
theorem replaceSecret_cases (x : Secret) (s : Cluster) :
    ((∃ e, (s.replaceSecret x).1 = .error e) ∧ s.Alike (s.replaceSecret x).2) ∨
    ∃ key old version, x.metadata.key .secret = .ok key ∧ s.secrets.get? key = some old ∧
      (s.replaceSecret x).1 = .ok (x.inPlaceOf old version) ∧
      Alike { s with secrets := s.secrets.insert key (x.inPlaceOf old version) }
        (s.replaceSecret x).2 := by
  rw [replaceSecret]
  split
  next e _ => exact .inl ⟨⟨e, rfl⟩, Alike.refl s⟩
  next key hkey =>
    have gates := allowReplacement_cases .secret (some key.inNamespace) x.metadata Secret.metadata
      (s.secrets.get? key) s
    split
    next e t h =>
      rw [h] at gates
      exact .inl ⟨⟨e, rfl⟩, gates.1⟩
    next old t h =>
      rw [h] at gates
      have same : s.Alike t := gates.1
      refine .inr ⟨key, old, t.versionText, hkey, gates.2 old rfl, rfl, ?_⟩
      rw [← same.secrets]
      exact ⟨same.pullers, same.namespaces, rfl, same.serviceAccounts, same.listsFail,
        same.failingNamespaces, same.pendingConflicts⟩

/-- Replacing an account is refused, or it stores the copy under the identity of the stored
one. -/
theorem replaceServiceAccount_cases (a : ServiceAccount) (s : Cluster) :
    ((∃ e, (s.replaceServiceAccount a).1 = .error e) ∧ s.Alike (s.replaceServiceAccount a).2) ∨
    ∃ key old version, a.metadata.key .serviceAccount = .ok key ∧
      s.serviceAccounts.get? key = some old ∧
      (s.replaceServiceAccount a).1 = .ok (a.inPlaceOf old version) ∧
      Alike { s with serviceAccounts := s.serviceAccounts.insert key (a.inPlaceOf old version) }
        (s.replaceServiceAccount a).2 := by
  rw [replaceServiceAccount]
  split
  next e _ => exact .inl ⟨⟨e, rfl⟩, Alike.refl s⟩
  next key hkey =>
    have gates := allowReplacement_cases .serviceAccount (some key.inNamespace) a.metadata
      ServiceAccount.metadata (s.serviceAccounts.get? key) s
    split
    next e t h =>
      rw [h] at gates
      exact .inl ⟨⟨e, rfl⟩, gates.1⟩
    next old t h =>
      rw [h] at gates
      have same : s.Alike t := gates.1
      refine .inr ⟨key, old, t.versionText, hkey, gates.2 old rfl, rfl, ?_⟩
      rw [← same.serviceAccounts]
      exact ⟨same.pullers, same.namespaces, same.secrets, rfl, same.listsFail,
        same.failingNamespaces, same.pendingConflicts⟩

end Cluster

end PullSecrets
