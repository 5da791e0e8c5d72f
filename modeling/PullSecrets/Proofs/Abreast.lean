import PullSecrets.Proofs.Quiescence
import PullSecrets.Proofs.Twins

/-!
# Reconciles that find the same

A reconcile of a live puller looks at the puller, at the namespaces, and at the secrets and accounts
of its targets. From two clusters in which it finds the same there, it comes to the same result and
leaves the same behind, whatever else the clusters hold and however far their counters are. What is
left behind carries other versions, new secrets have other identities, and the report has the times
of another clock; so "the same" is meant up to these.

## Main facts

* `Cluster.Abreast`: two clusters in which some namespaces look the same, and in which as much has
  been counted since.
* `Cluster.Persisted.abreast`: a write goes through in both or in neither.
* `Reconcile.twin_reconcile_of_abreast`: two reconciles of a puller that finds the same.
-/

namespace PullSecrets

open Cluster (Persisted)
open Program (Twin)

/-! ## What depends on the order of writes -/

/-- The secret without its version, and without its identity unless that was known before. -/
def Secret.blurred (known : Bool) (x : Secret) : Secret :=
  { x with metadata := { x.metadata with
    resourceVersion := none
    uid := if known then x.metadata.uid else none } }

/-- The account without its version. -/
def ServiceAccount.blurred (a : ServiceAccount) : ServiceAccount :=
  { a with metadata := { a.metadata with resourceVersion := none } }

/-- The condition without its time. -/
def Condition.untimed (c : Condition) : Condition := { c with lastTransitionTime := none }

/-- The status without the times of its conditions. -/
def PullerStatus.untimed (s : PullerStatus) : PullerStatus := ⟨s.conditions.map Condition.untimed⟩

/-- The puller without its version, and without the times in its status. -/
def Puller.blurred (p : Puller) : Puller :=
  { p with
    status := p.status.map PullerStatus.untimed
    metadata := { p.metadata with resourceVersion := none } }

section Blurred

variable {x y wanted : Secret} {a b : ServiceAccount} {known : Bool}

/-- A secret is blurred further by forgetting its identity. -/
theorem Secret.blurred_congr (same : y.blurred false = x.blurred false)
    (uid : y.metadata.uid = x.metadata.uid) (known : Bool) :
    y.blurred known = x.blurred known := by
  have split (z : Secret) : z.blurred known = { z.blurred false with
      metadata := { (z.blurred false).metadata with
        uid := if known then z.metadata.uid else none } } := rfl
  rw [split y, split x, same, uid]

/-- Whether a secret is current does not depend on its version or its identity. -/
theorem PullSecret.isCurrent_congr (same : y.blurred false = x.blurred false) (wanted : Secret) :
    isCurrent y wanted = isCurrent x wanted := by
  show isCurrent (y.blurred false) wanted = isCurrent (x.blurred false) wanted
  rw [same]

theorem PullSecret.blurred_merge_congr (same : y.blurred false = x.blurred false)
    (wanted : Secret) : (merge y wanted).blurred false = (merge x wanted).blurred false :=
  congrArg (merge · wanted) same

theorem ServiceAccount.pullSecretList_congr (same : b.blurred = a.blurred) :
    b.pullSecretList = a.pullSecretList := by
  show b.blurred.pullSecretList = a.blurred.pullSecretList
  rw [same]

theorem ServiceAccount.blurred_withPullSecrets_congr (same : b.blurred = a.blurred)
    (names : List String) :
    (b.withPullSecrets names).blurred = (a.withPullSecrets names).blurred :=
  congrArg (withPullSecrets · names) same

end Blurred

/-! ## Statuses -/

namespace PullerStatus

/-- What a condition is set to does not depend on the times of the others. -/
theorem untimed_write (type : String) (status : ConditionStatus) (reason message now : String)
    (cs : List Condition) :
    (write type status reason message now cs).map Condition.untimed =
      (write type status reason message "" (cs.map Condition.untimed)).map Condition.untimed := by
  induction cs with
  | nil => rfl
  | cons c cs ih =>
    rw [List.map_cons, write, write]
    show _ = (if c.type = type then if c.agrees status reason message then _ else _ else _ :
      List Condition).map Condition.untimed
    split
    · split
      · simp only [List.map_cons, List.map_map]
        rfl
      · simp only [List.map_cons, List.map_map]
        rfl
    · rw [List.map_cons, List.map_cons, ih]
      rfl

theorem untimed_set {s s' : PullerStatus} (same : s'.untimed = s.untimed) (type : String)
    (status : ConditionStatus) (reason message now now' : String) :
    (s'.set type status reason message now').untimed =
      (s.set type status reason message now).untimed := by
  have conditions : s'.conditions.map Condition.untimed = s.conditions.map Condition.untimed :=
    congrArg PullerStatus.conditions same
  rw [untimed, untimed, set, set, untimed_write, conditions,
    ← untimed_write type status reason message now]

/-- Two conditions that are as they are to be set are so at any time. -/
theorem set_set_eq_self {s : PullerStatus} {type other : String} (differ : type ≠ other)
    {status status' : ConditionStatus} {reason message reason' message' now now' : String}
    (h : (s.set type status reason message now).set other status' reason' message' now' = s)
    (later later' : String) :
    (s.set type status reason message later).set other status' reason' message' later' = s := by
  have again := s.set_set_again differ status status' reason message reason' message' now now'
    later later'
  rwa [h] at again

end PullerStatus

namespace Report

/-- What is reported does not depend on the clock, up to the times. -/
theorem untimed_status (current : Option PullerStatus) (failure : Option String)
    (readyTime errorTime readyTime' errorTime' : String) :
    (status current failure readyTime' errorTime').untimed =
      (status current failure readyTime errorTime).untimed := by
  cases failure with
  | none => exact PullerStatus.untimed_set (PullerStatus.untimed_set rfl ..) ..
  | some message => exact PullerStatus.untimed_set (PullerStatus.untimed_set rfl ..) ..

/-- Whether a status says already what is to be reported does not depend on the clock. -/
theorem status_eq_self {current : Option PullerStatus} {failure : Option String}
    {readyTime errorTime : String} (h : current = some (status current failure readyTime errorTime))
    (readyTime' errorTime' : String) :
    current = some (status current failure readyTime' errorTime') := by
  have differ : ready ≠ error := by decide
  cases current with
  | none => cases h
  | some s =>
    have same := (Option.some.inj h).symm
    cases failure with
    | none => exact congrArg some (PullerStatus.set_set_eq_self differ same _ _).symm
    | some message => exact congrArg some (PullerStatus.set_set_eq_self differ same _ _).symm

end Report

/-! ## Two clusters -/

namespace Cluster

/-- Some namespaces look the same in two clusters, up to versions and identities. Both are without
pending conflicts and have the same faults, and since two earlier clusters as much has been counted
in one as in the other. -/
structure Abreast (region : List String) (s₀ t₀ s t : Cluster) : Prop where
  filed : s.Filed
  filed' : t.Filed
  calm : s.pendingConflicts = 0
  calm' : t.pendingConflicts = 0
  listsFail : t.listsFail = s.listsFail
  failingNamespaces : t.failingNamespaces = s.failingNamespaces
  namespaces : t.namespaces = s.namespaces
  there : ∀ n ∈ region, s.namespaces.contains n = true
  secrets : ∀ key, key.inNamespace ∈ region →
    (t.secrets.get? key).map (Secret.blurred false) =
      (s.secrets.get? key).map (Secret.blurred false)
  accounts : ∀ key, key.inNamespace ∈ region →
    (t.serviceAccounts.get? key).map ServiceAccount.blurred =
      (s.serviceAccounts.get? key).map ServiceAccount.blurred
  version : t.version + s₀.version = s.version + t₀.version
  identities : t.identities + s₀.identities = s.identities + t₀.identities
  writes : t.writes + s₀.writes = s.writes + t₀.writes

variable {region : List String} {s₀ t₀ s t u v : Cluster} {key : ObjectKey} {n : String}

/-- Without pending conflicts a write goes through in both clusters, or it is refused in both. -/
theorem Persisted.abreast {α : Type} {budget : Nat} {kind : ResourceKind} {place : Option String}
    {name : String} {commit commit' : Cluster → α × Cluster} {r r' : Except StoreError α}
    (h : Persisted budget kind place name commit s r u)
    (h' : Persisted budget kind place name commit' t r' v) (calm : s.pendingConflicts = 0)
    (calm' : t.pendingConflicts = 0) (faults : t.failingNamespaces = s.failingNamespaces)
    (positive : 0 < budget) :
    (r = .ok (commit s).1 ∧ u = (commit s).2 ∧ r' = .ok (commit' t).1 ∧ v = (commit' t).2) ∨
      ∃ e, r = .error e ∧ u = s ∧ r' = .error e ∧ v = t := by
  cases h with
  | through spared =>
    have spared' : t.Open place := fun ns hns broken => spared ns hns (faults ▸ broken)
    obtain ⟨rfl, rfl⟩ := h'.of_calm calm' spared' positive
    rw [calm_of_pendingConflicts_eq_zero calm, calm_of_pendingConflicts_eq_zero calm']
    exact .inl ⟨rfl, rfl, rfl, rfl⟩
  | @refused ns at_place broken =>
    obtain rfl : place = some ns := at_place
    obtain ⟨rfl, rfl⟩ := h'.of_broken (faults ▸ broken)
    exact .inr ⟨_, rfl, rfl, rfl, rfl⟩
  | contended _ many => omega

/-- Two entries that look the same are both there or both missing. -/
theorem missing_or_stored {α β : Type} {f : α → β} {o o' : Option α} (same : o'.map f = o.map f) :
    (o = none ∧ o' = none) ∨ ∃ a b, o = some a ∧ o' = some b ∧ f b = f a := by
  cases o with
  | none => exact .inl ⟨rfl, Option.map_eq_none_iff.1 same⟩
  | some a =>
    obtain ⟨b, there, same⟩ := Option.map_eq_some_iff.1 same
    exact .inr ⟨a, b, rfl, there, same⟩

namespace Abreast

/-- The secret of a key in both clusters. -/
theorem secret (h : Abreast region s₀ t₀ s t) (inside : key.inNamespace ∈ region) :
    (s.secrets.get? key = none ∧ t.secrets.get? key = none) ∨
      ∃ x y, s.secrets.get? key = some x ∧ t.secrets.get? key = some y ∧
        y.blurred false = x.blurred false :=
  missing_or_stored (h.secrets key inside)

/-- The account of a key in both clusters. -/
theorem account (h : Abreast region s₀ t₀ s t) (inside : key.inNamespace ∈ region) :
    (s.serviceAccounts.get? key = none ∧ t.serviceAccounts.get? key = none) ∨
      ∃ a b, s.serviceAccounts.get? key = some a ∧ t.serviceAccounts.get? key = some b ∧
        b.blurred = a.blurred :=
  missing_or_stored (h.accounts key inside)

/-- A write is counted in both clusters. -/
theorem advance (h : Abreast region s₀ t₀ s t) : Abreast region s₀ t₀ s.advance t.advance :=
  { h with
    filed := { h.filed with }
    filed' := { h.filed' with }
    version := by
      have := h.version
      show t.version + 1 + s₀.version = s.version + 1 + t₀.version
      omega
    writes := by
      have := h.writes
      show t.writes + 1 + s₀.writes = s.writes + 1 + t₀.writes
      omega }

/-- An identity is given out in both clusters. -/
theorem identify (h : Abreast region s₀ t₀ s t) : Abreast region s₀ t₀ s.identify t.identify :=
  { h with
    filed := { h.filed with }
    filed' := { h.filed' with }
    identities := by
      have := h.identities
      show t.identities + 1 + s₀.identities = s.identities + 1 + t₀.identities
      omega }

/-- The same accounts are not bound in both clusters. -/
theorem unboundIn_eq (h : Abreast region s₀ t₀ s t) (inside : n ∈ region) (secret : String) :
    t.unboundIn n secret = s.unboundIn n secret := by
  refine Dict.keys_eq_of_mem_iff (t.ascending_placesOf _ _) (s.ascending_placesOf _ _) ?_
  intro key
  simp only [mem_unboundIn]
  refine and_congr_right ?_
  rintro rfl
  rcases h.account inside with ⟨missing, missing'⟩ | ⟨a, b, stored, stored', same⟩
  · rw [missing, missing']
  · rw [stored, stored']
    simp only [Option.some.injEq, exists_eq_left', ServiceAccount.pullSecretList_congr same]

/-- The same secret is stored in both clusters. -/
theorem insertSecret (h : Abreast region s₀ t₀ s t) {x y : Secret}
    (placed : x.metadata.key .secret = .ok key) (placed' : y.metadata.key .secret = .ok key)
    (same : y.blurred false = x.blurred false) :
    Abreast region s₀ t₀ { s with secrets := s.secrets.insert key x }
      { t with secrets := t.secrets.insert key y } :=
  { h with
    filed := h.filed.insertSecret placed
    filed' := h.filed'.insertSecret placed'
    secrets := by
      intro other inside
      simp only [Dict.get?_insert]
      split
      · exact congrArg some same
      · exact h.secrets other inside }

theorem putSecret (h : Abreast region s₀ t₀ s t) {x y : Secret}
    (placed : x.metadata.key .secret = .ok key) (placed' : y.metadata.key .secret = .ok key)
    (same : y.blurred false = x.blurred false) :
    Abreast region s₀ t₀ (s.putSecret key x).2 (t.putSecret key y).2 :=
  h.advance.insertSecret (x := x.stamp _) (y := y.stamp _) placed placed' same

theorem addSecret (h : Abreast region s₀ t₀ s t) {x : Secret}
    (placed : x.metadata.key .secret = .ok key) :
    Abreast region s₀ t₀ (s.addSecret key x).2 (t.addSecret key x).2 :=
  h.advance.identify.insertSecret (x := x.identified _ _) (y := x.identified _ _) placed placed rfl

theorem putAccount (h : Abreast region s₀ t₀ s t) {a b : ServiceAccount}
    (placed : a.metadata.key .serviceAccount = .ok key)
    (placed' : b.metadata.key .serviceAccount = .ok key) (same : b.blurred = a.blurred) :
    Abreast region s₀ t₀ (s.putAccount key a).2 (t.putAccount key b).2 :=
  { h.advance with
    filed := { h.filed with accounts := Dict.forall_insert h.filed.accounts placed }
    filed' := { h.filed' with accounts := Dict.forall_insert h.filed'.accounts placed' }
    accounts := by
      intro other inside
      simp only [Cluster.putAccount, Dict.get?_insert]
      split
      · exact congrArg some same
      · exact h.accounts other inside }

theorem putPuller (h : Abreast region s₀ t₀ s t) {p q : Puller} {name : String}
    (named : p.name = name) (named' : q.name = name) :
    Abreast region s₀ t₀ (s.putPuller name p).2 (t.putPuller name q).2 :=
  { h.advance with
    filed := { h.filed with pullers := Dict.forall_insert h.filed.pullers named }
    filed' := { h.filed' with pullers := Dict.forall_insert h.filed'.pullers named' } }

end Abreast

end Cluster

/-! ## The writes of a reconcile -/

/-- Two surroundings in which no call is watched. -/
def Duet.unwatched {σ τ : Type} (w : Surroundings σ) (w' : Surroundings τ) : Duet σ τ :=
  ⟨w, w', fun _ => false⟩

open Cluster (Abreast)

section Writes

variable {σ τ : Type} {w : Surroundings σ} {w' : Surroundings τ} {policy : RetryPolicy}
  {region : List String} {s₀ t₀ s t : Cluster} {key : ObjectKey} {n : String}

/-- Two programs that are not watched, from what each of them leads to. -/
theorem Program.Twin.of_unwatched {ε ζ α β : Type} {E : Except ε α → Cluster → Prop}
    {E' : Except ζ β → Cluster → Prop} {R : Except ε α → Except ζ β → Cluster → Cluster → Prop}
    {p : Program ε α} {q : Program ζ β} (left : p.Ends E s) (right : q.Ends E' t)
    (h : ∀ r u r' v, E r u → E' r' v → R r r' u v) : p.Twin (.unwatched w w') R q s t :=
  .of_ends (fun _ => Program.exchanges_none p) (fun _ => Program.exchanges_none q) left right h

/-- Where no secret is stored, one is created. -/
theorem PullSecret.Ensured.of_free {x : Secret} {r : Except StoreError Bool}
    (h : Ensured policy x key s r t) (free : s.secrets.get? key = none) :
    Persisted policy.budget .secret (some key.inNamespace) key.name
      (fun u => (true, (u.addSecret key x).2)) s r t := by
  cases h with
  | current stored => cases free.symm.trans stored
  | merged stored => cases free.symm.trans stored
  | created _ ended => exact ended

/-- A stored secret is current, or it is merged. -/
theorem PullSecret.Ensured.of_stored {x old : Secret} {r : Except StoreError Bool}
    (h : Ensured policy x key s r t) (stored : s.secrets.get? key = some old) :
    (isCurrent old x = true ∧ r = .ok false ∧ t = s) ∨ (isCurrent old x = false ∧
      Persisted policy.budget .secret (some key.inNamespace) key.name
        (fun u => (true, (u.putSecret key (merge old x)).2)) s r t) := by
  cases h with
  | current found same =>
    obtain rfl := Option.some.inj (stored.symm.trans found)
    exact .inl ⟨same, rfl, rfl⟩
  | merged found differs ended =>
    obtain rfl := Option.some.inj (stored.symm.trans found)
    exact .inr ⟨differs, ended⟩
  | created free => cases free.symm.trans stored

/-- The same secret is wanted in both clusters. -/
theorem PullSecret.twin_ensure (h : Abreast region s₀ t₀ s t)
    (inside : key.inNamespace ∈ region) {x : Secret} (placed : x.metadata.key .secret = .ok key) :
    (PullSecret.ensure policy x).Twin (.unwatched w w') (Program.Agree (Abreast region s₀ t₀))
      (PullSecret.ensure policy x) s t := by
  have there := h.there _ inside
  refine .of_unwatched (ensure_ends policy placed h.filed there)
    (ensure_ends policy placed h.filed' (h.namespaces ▸ there)) ?_
  intro r u r' v ended ended'
  rcases h.secret inside with ⟨free, free'⟩ | ⟨old, old', stored, stored', same⟩
  · rcases (ended.of_free free).abreast (ended'.of_free free') h.calm h.calm' h.failingNamespaces
      policy.budget_pos with ⟨rfl, rfl, rfl, rfl⟩ | ⟨e, rfl, rfl, rfl, rfl⟩
    · exact ⟨rfl, h.addSecret placed⟩
    · exact ⟨rfl, h⟩
  · have current := isCurrent_congr same x
    rcases ended.of_stored stored with ⟨is, rfl, rfl⟩ | ⟨differs, ended⟩
    · rcases ended'.of_stored stored' with ⟨-, rfl, rfl⟩ | ⟨differs, -⟩
      · exact ⟨rfl, h⟩
      · exact absurd (differs.symm.trans (current.trans is)) Bool.false_ne_true
    · rcases ended'.of_stored stored' with ⟨is, -, -⟩ | ⟨-, ended'⟩
      · exact absurd (differs.symm.trans (current.symm.trans is)) Bool.false_ne_true
      · rcases ended.abreast ended' h.calm h.calm' h.failingNamespaces policy.budget_pos with
          ⟨rfl, rfl, rfl, rfl⟩ | ⟨e, rfl, rfl, rfl, rfl⟩
        · refine ⟨rfl, h.putSecret (h.filed.secrets key old stored)
            (h.filed'.secrets key old' stored') ?_⟩
          exact blurred_merge_congr same x
        · exact ⟨rfl, h⟩

section Binding

variable {change : List String → Option (List String)} {a : ServiceAccount} {names : List String}
  {r : Except StoreError Bool}

/-- An account that asks for no change is left alone. -/
theorem Binding.Amended.of_unasked (h : Amended policy change key s r t)
    (unasked : ∀ a, s.serviceAccounts.get? key = some a → change a.pullSecretList = none) :
    r = .ok false ∧ t = s := by
  cases h with
  | idle => exact ⟨rfl, rfl⟩
  | written stored asked =>
    rw [unasked _ stored] at asked
    cases asked

/-- The list of an account that asks for a change is written. -/
theorem Binding.Amended.of_asked (h : Amended policy change key s r t)
    (stored : s.serviceAccounts.get? key = some a) (asked : change a.pullSecretList = some names) :
    Persisted policy.budget .serviceAccount (some key.inNamespace) key.name
      (fun u => (true, (u.putAccount key (a.withPullSecrets names)).2)) s r t := by
  cases h with
  | idle unasked =>
    rw [unasked a stored] at asked
    cases asked
  | written found asked' ended =>
    obtain rfl := Option.some.inj (stored.symm.trans found)
    obtain rfl := Option.some.inj (asked.symm.trans asked')
    exact ended

theorem Binding.twin_amend (h : Abreast region s₀ t₀ s t) (inside : key.inNamespace ∈ region) :
    (Program.retry policy fun _ => amend change key).Twin (.unwatched w w')
      (Program.Agree (Abreast region s₀ t₀)) (Program.retry policy fun _ => amend change key)
      s t := by
  refine .of_unwatched (amend_ends fun a => h.filed.accounts key a)
    (amend_ends fun a => h.filed'.accounts key a) ?_
  intro r u r' v ended ended'
  rcases h.account inside with ⟨missing, missing'⟩ | ⟨a, b, stored, stored', same⟩
  · obtain ⟨rfl, rfl⟩ := ended.of_unasked fun a found => by cases missing.symm.trans found
    obtain ⟨rfl, rfl⟩ := ended'.of_unasked fun a found => by cases missing'.symm.trans found
    exact ⟨rfl, h⟩
  · have lists := ServiceAccount.pullSecretList_congr same
    cases asked : change a.pullSecretList with
    | none =>
      obtain ⟨rfl, rfl⟩ := ended.of_unasked fun a' found => by
        obtain rfl := Option.some.inj (stored.symm.trans found)
        exact asked
      obtain ⟨rfl, rfl⟩ := ended'.of_unasked fun b' found => by
        obtain rfl := Option.some.inj (stored'.symm.trans found)
        rw [lists, asked]
      exact ⟨rfl, h⟩
    | some names =>
      rcases (ended.of_asked stored asked).abreast (ended'.of_asked stored' (lists ▸ asked))
        h.calm h.calm' h.failingNamespaces policy.budget_pos with
        ⟨rfl, rfl, rfl, rfl⟩ | ⟨e, rfl, rfl, rfl, rfl⟩
      · refine ⟨rfl, h.putAccount (a := a.withPullSecrets names) (b := b.withPullSecrets names)
          (h.filed.accounts key a stored) (h.filed'.accounts key b stored') ?_⟩
        exact ServiceAccount.blurred_withPullSecrets_congr same names
      · exact ⟨rfl, h⟩

/-- The same accounts of a namespace are bound, unless they cannot be listed. -/
theorem Binding.twin_bindAll (h : Abreast region s₀ t₀ s t) (inside : n ∈ region)
    (secret : String) :
    (bindAll policy n secret).Twin (.unwatched w w') (Program.Agree (Abreast region s₀ t₀))
      (bindAll policy n secret) s t := by
  unfold bindAll
  refine Twin.bind (.liftM (.ask rfl rfl ?_))
  cases lists : s.listsFail with
  | true =>
    rw [answer_listServiceAccounts_of_fails _ lists,
      answer_listServiceAccounts_of_fails _ (h.listsFail.trans lists)]
    exact ⟨rfl, h⟩
  | false =>
    rw [answer_listServiceAccounts n lists,
      answer_listServiceAccounts n (h.listsFail.trans lists)]
    show Twin _ _ (changeAll policy _ _) (changeAll policy _ _) s t
    rw [map_unboundIn h.filed, map_unboundIn h.filed', h.unboundIn_eq inside, bind_eq_amend]
    unfold changeAll
    refine .bind_agree (.forEach (fun key hkey u v related => ?_) h)
      (fun _ _ _ related => .settle related) fun _ _ related => related
    refine twin_amend related ?_
    rw [(Cluster.mem_unboundIn.1 hkey).1]
    exact inside

end Binding

/-! ## The puller -/

/-- The second puller is the first one with another version. -/
def Puller.Restamped (p q : Puller) : Prop :=
  ∃ version, q = { p with metadata := { p.metadata with resourceVersion := version } }

namespace Puller.Restamped

variable {p q : Puller}

theorem refl (p : Puller) : p.Restamped p := ⟨p.metadata.resourceVersion, rfl⟩

theorem akin (h : p.Restamped q) : p.Akin q := by
  obtain ⟨version, rfl⟩ := h
  exact ⟨rfl, p.metadata.finalizers, version, rfl⟩

theorem status_eq (h : p.Restamped q) : q.status = p.status := by
  obtain ⟨version, rfl⟩ := h
  rfl

theorem blurred_eq (h : p.Restamped q) : q.blurred = p.blurred := by
  obtain ⟨version, rfl⟩ := h
  rfl

/-- Reports that differ in the times make pullers that differ in the version and the times. -/
theorem blurred_report (h : p.Restamped q) {status status' : PullerStatus}
    (times : status'.untimed = status.untimed) :
    ({ q with status := some status' } : Puller).blurred =
      ({ p with status := some status } : Puller).blurred := by
  obtain ⟨version, rfl⟩ := h
  rw [Puller.blurred, Puller.blurred, Option.map_some, Option.map_some, times]

end Puller.Restamped

/-- A puller is guarded in both clusters. -/
theorem Finalizer.twin_ensure_of_abreast {p : Puller} (h : Abreast region s₀ t₀ s t)
    (stored : s.pullers.get? p.name = some p) (stored' : t.pullers.get? p.name = some p) :
    (Finalizer.ensure policy p).Twin (.unwatched w w')
      (Program.Both fun q q' u v => Abreast region s₀ t₀ u v ∧ p.Akin q ∧ q.Restamped q' ∧
        u.pullers.get? q.name = some q ∧ v.pullers.get? q'.name = some q')
      (Finalizer.ensure policy p) s t := by
  refine .of_unwatched (ensure_cases stored) (ensure_cases stored') ?_
  rintro _ u _ v (⟨has, rfl, rfl⟩ | ⟨lacks, ended⟩) (⟨has', rfl, rfl⟩ | ⟨lacks', ended'⟩)
  · exact ⟨p, p, rfl, rfl, h, .refl p, .refl p, stored, stored'⟩
  · exact absurd (lacks'.symm.trans has) Bool.false_ne_true
  · exact absurd (lacks.symm.trans has') Bool.false_ne_true
  · obtain ⟨rfl, rfl⟩ := ended.accepted h.calm policy.budget_pos
    obtain ⟨rfl, rfl⟩ := ended'.accepted h.calm' policy.budget_pos
    refine ⟨_, _, rfl, rfl, h.putPuller rfl rfl, akin_guarded p _, ⟨_, rfl⟩, ?_, ?_⟩
    · exact Cluster.get?_putPuller _ _ _
    · exact Cluster.get?_putPuller _ _ _

/-- The outcome of a reconcile is reported in both clusters. -/
theorem Report.twin_update_of_abreast {p q : Puller} (h : Abreast region s₀ t₀ s t)
    (same : p.Restamped q) (stored : s.pullers.get? p.name = some p)
    (stored' : t.pullers.get? q.name = some q) (failure : Option String)
    (readyTime errorTime readyTime' errorTime' : String) :
    (Report.update policy p (Report.status p.status failure readyTime errorTime)).Twin
      (.unwatched w w')
      (Program.Both fun _ _ u v => Abreast region s₀ t₀ u v ∧
        (v.pullers.get? p.name).map Puller.blurred = (u.pullers.get? p.name).map Puller.blurred)
      (Report.update policy q (Report.status q.status failure readyTime' errorTime')) s t := by
  refine .of_unwatched (update_cases stored _) (update_cases stored' _) ?_
  rw [same.status_eq, same.akin.name_eq] at *
  rintro _ u _ v (⟨has, rfl, rfl⟩ | ⟨lacks, ended⟩) (⟨has', rfl, rfl⟩ | ⟨lacks', ended'⟩)
  · refine ⟨_, _, rfl, rfl, h, ?_⟩
    rw [stored, stored', Option.map_some, Option.map_some, same.blurred_eq]
  · exact absurd (status_eq_self has _ _) lacks'
  · exact absurd (status_eq_self has' _ _) lacks
  · obtain ⟨rfl, rfl⟩ := ended.accepted h.calm policy.budget_pos
    obtain ⟨rfl, rfl⟩ := ended'.accepted h.calm' policy.budget_pos
    refine ⟨_, _, rfl, rfl, h.putPuller rfl same.akin.name_eq, ?_⟩
    rw [Cluster.get?_putPuller, Cluster.get?_putPuller, Option.map_some, Option.map_some]
    exact congrArg some (same.blurred_report (untimed_status _ _ _ _ _ _))

end Writes

/-! ## Reconciling -/

namespace Reconcile

variable {σ τ : Type} {w : Surroundings σ} {w' : Surroundings τ} {config : Config}
  {policy : RetryPolicy} {region : List String} {s₀ t₀ s t : Cluster} {p q : Puller}
  {n : String}

theorem twin_ensureNamespace (h : Abreast region s₀ t₀ s t) (inside : n ∈ region) :
    (ensureNamespace policy p p.document n).Twin (.unwatched w w')
      (Program.Agree (Abreast region s₀ t₀)) (ensureNamespace policy p p.document n) s t := by
  unfold ensureNamespace
  refine .bind_agree (.liftM_agree (PullSecret.twin_ensure h inside
    (PullSecret.key_wanted p p.document n))) (fun written u v related => ?_)
    fun _ _ related => related
  exact .bind_agree (Binding.twin_bindAll related inside Names.secret)
    (fun _ _ _ related => .pure ⟨rfl, related⟩) fun _ _ related => related

/-- The targets of a puller are found in both clusters, or in neither. -/
theorem twin_resolve (h : Abreast region s₀ t₀ s t) (selector : Option LabelSelector) :
    (Target.resolve selector).Twin (.unwatched w w')
      (fun r r' u v => r' = r ∧ Abreast region s₀ t₀ u v ∧
        ∀ targets, r = .ok targets → targets = s.targets selector)
      (Target.resolve selector) s t := by
  have same : t.listNamespaces selector = s.listNamespaces selector :=
    Cluster.listNamespaces_congr selector h.namespaces h.listsFail
  have reading : (Target.resolve selector).Twin (.unwatched w w')
      (Program.Agree fun u v => u = s ∧ v = t) (Target.resolve selector) s t :=
    .bind_agree (.ask rfl rfl ⟨same, rfl, rfl⟩) (fun _ _ _ related => .pure ⟨rfl, related⟩)
      fun _ _ related => related
  refine (reading.and_ends (Target.resolve_ends h.filed selector)
    (Target.resolve_ends h.filed' selector)).mono ?_
  rintro r _ u v ⟨⟨rfl, rfl, rfl⟩, ⟨-, rfl | ⟨⟨e, rfl⟩, -⟩⟩, -⟩
  · exact ⟨rfl, h, fun _ ok => (Except.ok.inj ok).symm⟩
  · exact ⟨rfl, h, nofun⟩

/-- Working on the targets of a puller. -/
theorem twin_converge (h : Abreast region s₀ t₀ s t)
    (covered : ∀ n ∈ s.targets p.spec.namespaceSelector, n ∈ region) :
    (converge policy p).Twin (.unwatched w w') (Program.Agree (Abreast region s₀ t₀))
      (converge policy p) s t := by
  unfold converge
  refine Twin.bind (.liftM ((twin_resolve h _).mono ?_))
  rintro (e | targets) _ u v ⟨rfl, related, found⟩
  · exact ⟨rfl, related⟩
  · obtain rfl := found targets rfl
    refine .bind_agree (.forEach (fun n hn u v related => ?_) related)
      (fun results u v related => .leave_bind (.leave_bind (.settle related)))
      fun _ _ related => related
    exact twin_ensureNamespace related (covered n hn)

theorem twin_sync_of_abreast (h : Abreast region s₀ t₀ s t) (same : p.Restamped q)
    (stored : s.pullers.get? p.name = some p) (stored' : t.pullers.get? q.name = some q)
    (covered : ∀ n ∈ s.targets p.spec.namespaceSelector, n ∈ region) :
    (sync policy p).Twin (.unwatched w w')
      (Program.Agree fun u v => Abreast region s₀ t₀ u v ∧
        (v.pullers.get? p.name).map Puller.blurred = (u.pullers.get? p.name).map Puller.blurred)
      (sync policy q) s t := by
  refine twin_sync ?_
  rw [converge_congr same.akin]
  -- Working on the targets leaves the pullers alone.
  refine ((twin_converge h covered).and_ends (converge_ends h.filed)
    (converge_ends h.filed')).mono ?_
  rintro r _ u v ⟨⟨rfl, related⟩, converging, converging'⟩
  rw [← converging.worked.pullers] at stored
  rw [← converging'.worked.pullers] at stored'
  exact ⟨rfl, fun _ _ _ _ =>
    Report.twin_update_of_abreast related same stored stored' _ _ _ _ _⟩

/-- A live puller finds the same in two clusters, as far as its targets are concerned. The two
reconciles have the same result, and they leave the same behind. -/
theorem twin_reconcile_of_abreast (w : Surroundings σ) (w' : Surroundings τ) (config : Config)
    (h : Abreast region s₀ t₀ s t)
    (stored : s.pullers.get? p.name = some p) (stored' : t.pullers.get? p.name = some p)
    (live : p.metadata.isTerminating = false)
    (covered : ∀ n ∈ s.targets p.spec.namespaceSelector, n ∈ region) :
    (reconcile config p.name).Twin (.unwatched w w')
      (Program.Agree fun u v => Abreast region s₀ t₀ u v ∧
        (v.pullers.get? p.name).map Puller.blurred = (u.pullers.get? p.name).map Puller.blurred)
      (reconcile config p.name) s t := by
  refine twin_reconcile_of_live rfl stored stored' live live
    (((Finalizer.twin_ensure_of_abreast h stored stored').and_ends (Finalizer.ensure_ends stored)
      (Finalizer.ensure_ends stored')).mono ?_)
  rintro _ _ u v ⟨⟨q, q', rfl, rfl, related, akin, same, stored, stored'⟩, ⟨tended, -⟩, -⟩
  refine ⟨q, q', rfl, rfl, ?_⟩
  rw [← akin.name_eq]
  refine twin_sync_of_abreast related same stored stored' fun n hn => covered n ?_
  rw [akin.spec, Cluster.targets_congr _ tended.namespaces] at hn
  exact hn

end Reconcile

end PullSecrets
