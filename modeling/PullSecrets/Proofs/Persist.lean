import PullSecrets.Proofs.Writes

/-!
# Writes that are attempted several times

A program that has just read an object writes a copy with the version that is stored. Whether the
write goes through is up to the faults alone: in a broken namespace it is refused at once, and
every pending conflict uses up one attempt. `Persisted` says how such a write ends within a
budget of attempts.

## Main facts

* `persisted_replaceServiceAccount`, `persisted_createSecret`, ...: one attempt of each write.
* `Program.Ends.retry`: many attempts end like one with a larger budget.
-/

namespace PullSecrets

namespace Cluster

/-! ## Accepted writes -/

/-- Give out the next version to a write that is accepted. -/
def advance (s : Cluster) : Cluster := { s.tick with writes := s.writes + 1 }

/-- Store an account with the next version. -/
def putAccount (key : ObjectKey) (a : ServiceAccount) (s : Cluster) : ServiceAccount × Cluster :=
  let new := a.stamp s.advance.versionText
  (new, { s.advance with serviceAccounts := s.serviceAccounts.insert key new })

/-- Store a secret with the next version. -/
def putSecret (key : ObjectKey) (x : Secret) (s : Cluster) : Secret × Cluster :=
  let new := x.stamp s.advance.versionText
  (new, { s.advance with secrets := s.secrets.insert key new })

/-- Store a new secret with the next version and the next identity. -/
def addSecret (key : ObjectKey) (x : Secret) (s : Cluster) : Secret × Cluster :=
  let t := s.advance.identify
  let new := x.identified t.versionText t.newIdentity
  (new, { t with secrets := s.secrets.insert key new })

/-- Store a puller with the next version. -/
def putPuller (name : String) (p : Puller) (s : Cluster) : Puller × Cluster :=
  let new := p.stamp s.advance.versionText
  (new, { s.advance with pullers := s.pullers.insert name new })

/-- A puller that was stored is found. -/
theorem get?_putPuller (name : String) (p : Puller) (s : Cluster) :
    (s.putPuller name p).2.pullers.get? name = some (s.putPuller name p).1 := by
  simp [putPuller]

/-- Remove a puller with the next version. -/
def dropPuller (name : String) (p : Puller) (s : Cluster) : Puller × Cluster :=
  (p.stamp s.advance.versionText, { s.advance with pullers := s.pullers.erase name })

/-! ## Ends of a write -/

/-- Whether the namespace of a write is left alone by the faults. -/
def Open (s : Cluster) (place : Option String) : Prop := ∀ ns ∈ place, ns ∉ s.failingNamespaces

/-- How a write ends that is attempted as often as a budget allows. An accepted write gives the
value and the cluster of `commit`; it has used up all pending conflicts. -/
inductive Persisted {α : Type} (budget : Nat) (kind : ResourceKind) (place : Option String)
    (name : String) (commit : Cluster → α × Cluster) (s : Cluster) :
    Except StoreError α → Cluster → Prop
  | through (spared : s.Open place) (few : s.pendingConflicts < budget) :
    Persisted budget kind place name commit s (.ok (commit s.calm).1) (commit s.calm).2
  | refused {ns : String} (at_place : ns ∈ place) (broken : ns ∈ s.failingNamespaces) :
    Persisted budget kind place name commit s (.error (.injected kind ns name)) s
  | contended (spared : s.Open place) (many : budget ≤ s.pendingConflicts) :
    Persisted budget kind place name commit s (.error (.conflict kind name)) (s.spend budget)

section Persisted

variable {α β : Type} {budget : Nat} {kind : ResourceKind} {place : Option String}
  {name : String} {commit : Cluster → α × Cluster} {s t : Cluster}

/-- A write is never refused because the object is missing. -/
theorem Persisted.not_isNotFound {e : StoreError}
    (h : Persisted budget kind place name commit s (.error e) t) : e.isNotFound = false := by
  cases h <;> rfl

/-- The value of an accepted write may be put to use. -/
theorem Persisted.map {r : Except StoreError α} (f : α → β)
    (h : Persisted budget kind place name commit s r t) :
    Persisted budget kind place name (fun u => (f (commit u).1, (commit u).2)) s (r.map f) t := by
  cases h with
  | through spared few =>
    exact .through spared few
  | refused at_place broken => exact .refused at_place broken
  | contended spared many => exact .contended spared many

/-- In a broken namespace a write is refused at once. -/
theorem Persisted.of_broken {ns : String} {r : Except StoreError α}
    (h : Persisted budget kind (some ns) name commit s r t) (broken : ns ∈ s.failingNamespaces) :
    t = s ∧ r = .error (.injected kind ns name) := by
  cases h with
  | through spared few => exact absurd broken (spared ns rfl)
  | refused at_place _ =>
    cases at_place
    exact ⟨rfl, rfl⟩
  | contended spared many => exact absurd broken (spared ns rfl)

/-- A write that meets fewer conflicts than the budget goes through. -/
theorem Persisted.of_few {r : Except StoreError α}
    (h : Persisted budget kind place name commit s r t) (spared : s.Open place)
    (few : s.pendingConflicts < budget) :
    r = .ok (commit s.calm).1 ∧ t = (commit s.calm).2 := by
  cases h with
  | through => exact ⟨rfl, rfl⟩
  | refused at_place broken => exact absurd broken (spared _ at_place)
  | contended _ many => omega

/-- Without faults a write goes through. -/
theorem Persisted.of_calm {r : Except StoreError α}
    (h : Persisted budget kind place name commit s r t) (calm : s.pendingConflicts = 0)
    (spared : s.Open place) (positive : 0 < budget) :
    r = .ok (commit s.calm).1 ∧ t = (commit s.calm).2 :=
  h.of_few spared (calm ▸ positive)

end Persisted

/-! ## One attempt -/

theorem calm_of_pendingConflicts_eq_zero {s : Cluster} (h : s.pendingConflicts = 0) :
    s.calm = s := by
  rw [calm, ← h]

/-- How the faults meet one attempt of a write: it passes, it is refused, or it uses up a
conflict. -/
theorem allow_cases (kind : ResourceKind) (place : Option String) (name : String) (s : Cluster) :
    (s.Open place ∧ s.pendingConflicts = 0 ∧ s.allow kind place name = (.ok (), s)) ∨
    (∃ ns ∈ place, ns ∈ s.failingNamespaces ∧
      s.allow kind place name = (.error (.injected kind ns name), s)) ∨
    (s.Open place ∧ 1 ≤ s.pendingConflicts ∧
      s.allow kind place name = (.error (.conflict kind name), s.spend 1)) := by
  cases hbroken : place.filter s.failingNamespaces.contains with
  | some ns =>
    obtain ⟨hplace, hns⟩ := Option.filter_eq_some_iff.1 hbroken
    have broken : ns ∈ s.failingNamespaces := by simpa using hns
    refine .inr (.inl ⟨ns, hplace, broken, ?_⟩)
    simp only [allow, hbroken, StoreError.injected]
  | none =>
    have spared : s.Open place := by
      intro ns hns broken
      rw [Option.filter_eq_none_iff] at hbroken
      exact hbroken ns hns (by simpa using broken)
    by_cases calm : s.pendingConflicts = 0
    · exact .inl ⟨spared, calm, by simp only [allow, hbroken, if_pos calm]⟩
    · refine .inr (.inr ⟨spared, by omega, ?_⟩)
      simp only [allow, hbroken, if_neg calm]
      rfl

section Attempt

variable {s : Cluster}

/-- A replacement by a copy that is not stale meets the faults alone. -/
theorem allowReplacement_cases_of_fresh {α : Type} (metadata : α → Metadata) {old : α}
    {copy : Metadata} (kind : ResourceKind) (place : Option String) (s : Cluster)
    (fresh : copy.resourceVersion = (metadata old).resourceVersion) :
    (s.Open place ∧ s.calm = s ∧ s.pendingConflicts < 1 ∧
      s.allowReplacement kind place copy metadata (some old) = (.ok old, s.advance)) ∨
    (∃ ns ∈ place, ns ∈ s.failingNamespaces ∧
      s.allowReplacement kind place copy metadata (some old) =
        (.error (.injected kind ns copy.effectiveName), s)) ∨
    (s.Open place ∧ 1 ≤ s.pendingConflicts ∧
      s.allowReplacement kind place copy metadata (some old) =
        (.error (.conflict kind copy.effectiveName), s.spend 1)) := by
  have current : copy.isStale (metadata old) = false := Metadata.isStale_of_eq fresh
  rcases allow_cases kind place copy.effectiveName s with
    ⟨spared, calm, h⟩ | ⟨ns, hns, broken, h⟩ | ⟨spared, busy, h⟩
  · refine .inl ⟨spared, calm_of_pendingConflicts_eq_zero calm, by omega, ?_⟩
    simp only [allowReplacement, h, current, Bool.false_eq_true, if_false]
    rfl
  · refine .inr (.inl ⟨ns, hns, broken, ?_⟩)
    simp only [allowReplacement, h]
  · refine .inr (.inr ⟨spared, busy, ?_⟩)
    simp only [allowReplacement, h]

/-- Replacing an account by a copy that is not stale. -/
theorem persisted_replaceServiceAccount {a old : ServiceAccount} {key : ObjectKey}
    (placed : a.metadata.key .serviceAccount = .ok key)
    (stored : s.serviceAccounts.get? key = some old)
    (fresh : a.metadata.resourceVersion = old.metadata.resourceVersion)
    (same : a.metadata.uid = old.metadata.uid) :
    Persisted 1 .serviceAccount (some key.inNamespace) key.name (putAccount key a) s
      (s.replaceServiceAccount a).1 (s.replaceServiceAccount a).2 := by
  have named := (Metadata.key_eq_ok_iff.1 placed).2
  rcases allowReplacement_cases_of_fresh ServiceAccount.metadata .serviceAccount
    (some key.inNamespace) s fresh with
    ⟨spared, calm, few, h⟩ | ⟨ns, hns, broken, h⟩ | ⟨spared, busy, h⟩
  · have accepted : s.replaceServiceAccount a =
        (.ok (putAccount key a s.calm).1, (putAccount key a s.calm).2) := by
      simp only [replaceServiceAccount, placed, stored, h]
      rw [calm, ← same]
      rfl
    rw [accepted]
    exact .through spared few
  · have refused : s.replaceServiceAccount a =
        (.error (.injected .serviceAccount ns key.name), s) := by
      simp only [replaceServiceAccount, placed, stored, h, named]
    rw [refused]
    exact .refused hns broken
  · have contended : s.replaceServiceAccount a =
        (.error (.conflict .serviceAccount key.name), s.spend 1) := by
      simp only [replaceServiceAccount, placed, stored, h, named]
    rw [contended]
    exact .contended spared busy

/-- Replacing a secret by a copy that is not stale. -/
theorem persisted_replaceSecret {x old : Secret} {key : ObjectKey}
    (placed : x.metadata.key .secret = .ok key) (stored : s.secrets.get? key = some old)
    (fresh : x.metadata.resourceVersion = old.metadata.resourceVersion)
    (same : x.metadata.uid = old.metadata.uid) :
    Persisted 1 .secret (some key.inNamespace) key.name (putSecret key x) s
      (s.replaceSecret x).1 (s.replaceSecret x).2 := by
  have named := (Metadata.key_eq_ok_iff.1 placed).2
  rcases allowReplacement_cases_of_fresh Secret.metadata .secret
    (some key.inNamespace) s fresh with
    ⟨spared, calm, few, h⟩ | ⟨ns, hns, broken, h⟩ | ⟨spared, busy, h⟩
  · have accepted : s.replaceSecret x =
        (.ok (putSecret key x s.calm).1, (putSecret key x s.calm).2) := by
      simp only [replaceSecret, placed, stored, h]
      rw [calm, ← same]
      rfl
    rw [accepted]
    exact .through spared few
  · have refused : s.replaceSecret x = (.error (.injected .secret ns key.name), s) := by
      simp only [replaceSecret, placed, stored, h, named]
    rw [refused]
    exact .refused hns broken
  · have contended : s.replaceSecret x = (.error (.conflict .secret key.name), s.spend 1) := by
      simp only [replaceSecret, placed, stored, h, named]
    rw [contended]
    exact .contended spared busy

/-- Creating a secret under a free place of a namespace that is there. -/
theorem persisted_createSecret {x : Secret} {key : ObjectKey}
    (placed : x.metadata.key .secret = .ok key) (free : s.secrets.get? key = none)
    (there : s.namespaces.contains key.inNamespace = true) :
    Persisted 1 .secret (some key.inNamespace) key.name (addSecret key x) s
      (s.createSecret x).1 (s.createSecret x).2 := by
  rcases allow_cases .secret (some key.inNamespace) key.name s with
    ⟨spared, calm, h⟩ | ⟨ns, hns, broken, h⟩ | ⟨spared, busy, h⟩
  · have accepted : s.createSecret x =
        (.ok (addSecret key x s.calm).1, (addSecret key x s.calm).2) := by
      rw [calm_of_pendingConflicts_eq_zero calm]
      have vacant : s.secrets.contains key = false := by simp [Dict.contains, free]
      simp only [createSecret, placed, h, there, vacant, Bool.not_true, Bool.false_eq_true,
        if_false]
      rfl
    rw [accepted]
    exact .through spared (by omega)
  · have refused : s.createSecret x = (.error (.injected .secret ns key.name), s) := by
      simp only [createSecret, placed, h]
    rw [refused]
    exact .refused hns broken
  · have contended : s.createSecret x = (.error (.conflict .secret key.name), s.spend 1) := by
      simp only [createSecret, placed, h]
    rw [contended]
    exact .contended spared busy

/-- Replacing the status of a puller by that of a copy that is not stale. -/
theorem persisted_replacePullerStatus {p old : Puller} (stored : s.pullers.get? p.name = some old)
    (fresh : p.metadata.resourceVersion = old.metadata.resourceVersion) :
    Persisted 1 .puller none p.name (putPuller p.name { old with status := p.status }) s
      (s.replacePullerStatus p).1 (s.replacePullerStatus p).2 := by
  rcases allowReplacement_cases_of_fresh Puller.metadata .puller none s fresh with
    ⟨spared, calm, few, h⟩ | ⟨ns, hns, broken, h⟩ | ⟨spared, busy, h⟩
  · have accepted : s.replacePullerStatus p =
        (.ok (putPuller p.name { old with status := p.status } s.calm).1,
          (putPuller p.name { old with status := p.status } s.calm).2) := by
      simp only [replacePullerStatus, stored, h]
      rw [calm]
      rfl
    rw [accepted]
    exact .through spared few
  · cases hns
  · have contended : s.replacePullerStatus p = (.error (.conflict .puller p.name), s.spend 1) := by
      simp only [replacePullerStatus, stored, h]
      rfl
    rw [contended]
    exact .contended spared busy

/-- Replacing a puller, with what is stored written as one copy. -/
theorem replacePuller_eq (p : Puller) (s : Cluster) :
    s.replacePuller p =
      match s.allowReplacement .puller none p.metadata Puller.metadata (s.pullers.get? p.name) with
      | (.error e, t) => (.error e, t)
      | (.ok old, t) =>
        let new := p.inPlaceOf old t.versionText
        if new.metadata.isTerminating && new.metadata.finalizerList.isEmpty then
          (.ok new, { t with pullers := t.pullers.erase p.name })
        else (.ok new, { t with pullers := t.pullers.insert p.name new }) := rfl

/-- Replacing a puller by a copy that is not stale, and that differs from the stored puller in
nothing that only the cluster sets. The puller goes away if it is terminating and the copy has no
finalizers. -/
theorem persisted_replacePuller {p old : Puller} (stored : s.pullers.get? p.name = some old)
    (same : ∀ version, p.inPlaceOf old version = p.stamp version)
    (fresh : p.metadata.resourceVersion = old.metadata.resourceVersion) :
    Persisted 1 .puller none p.name
      (if p.metadata.isTerminating && p.metadata.finalizerList.isEmpty then dropPuller p.name p
        else putPuller p.name p) s
      (s.replacePuller p).1 (s.replacePuller p).2 := by
  rcases allowReplacement_cases_of_fresh Puller.metadata .puller none s fresh with
    ⟨spared, calm, few, h⟩ | ⟨ns, hns, broken, h⟩ | ⟨spared, busy, h⟩
  · have accepted : s.replacePuller p = (.ok ((if p.metadata.isTerminating &&
        p.metadata.finalizerList.isEmpty then dropPuller p.name p else putPuller p.name p)
          s.calm).1, ((if p.metadata.isTerminating && p.metadata.finalizerList.isEmpty then
            dropPuller p.name p else putPuller p.name p) s.calm).2) := by
      simp only [replacePuller_eq, stored, h, same, calm]
      show (if p.metadata.isTerminating && p.metadata.finalizerList.isEmpty then _ else _) = _
      split <;> rfl
    rw [accepted]
    exact .through spared few
  · -- A puller is in no namespace.
    cases hns
  · have contended : s.replacePuller p = (.error (.conflict .puller p.name), s.spend 1) := by
      simp only [replacePuller, stored, h]
      rfl
    rw [contended]
    exact .contended spared busy

end Attempt

end Cluster

/-! ## Several attempts -/

open Cluster (Persisted)

/-- Attempts that differ from each other in the pending conflicts alone end like one attempt with
the budget of the policy. -/
theorem Program.Ends.retry {α : Type} {policy : RetryPolicy}
    {change : Nat → Program StoreError α} {kind : ResourceKind} {place : Option String}
    {name : String} {commit : Cluster → α × Cluster} {s : Cluster}
    (attempt : ∀ i k, (change i).Ends (Persisted 1 kind place name commit (s.spend k))
      (s.spend k)) :
    (Program.retry policy change).Ends (Persisted policy.budget kind place name commit s) s := by
  -- Before an attempt, as many conflicts are used up as attempts were made.
  refine Leads.retry (fun i t => t = s.spend i ∧ i ≤ s.pendingConflicts ∧
    (0 < i → s.Open place)) (fun _ _ _ ht => ht) ?_ ⟨rfl, Nat.zero_le _, fun h => by omega⟩
  rintro i t hi ⟨rfl, hle, hopen⟩
  apply (attempt i i).mono
  intro r u hu
  cases hu with
  | through spared few =>
    have used : s.pendingConflicts = i := by
      have few : s.pendingConflicts - i < 1 := few
      omega
    exact .through spared (by omega)
  | refused at_place broken =>
    -- A conflict is met only past the gate of broken namespaces, so no later attempt is refused.
    rcases Nat.eq_zero_or_pos i with rfl | later
    · exact ⟨fun again => Bool.noConfusion again.1, fun _ => .refused at_place broken⟩
    · exact absurd broken (hopen later _ at_place)
  | contended spared many =>
    have left : 1 ≤ s.pendingConflicts - i := many
    rw [Cluster.spend_spend]
    refine ⟨fun _ => ⟨rfl, by omega, fun _ => spared⟩, fun last => ?_⟩
    have spent : ¬ (i + 1 < policy.budget) := fun more => last ⟨rfl, more⟩
    rw [show i + 1 = policy.budget by omega]
    exact .contended spared (by omega)

end PullSecrets
