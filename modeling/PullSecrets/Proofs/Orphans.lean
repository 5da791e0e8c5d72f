import PullSecrets.Proofs.Cleanup
import PullSecrets.Proofs.Sync

/-!
# No binding without a guard

As long as some account is bound to the secret, some puller is stored that is guarded by the
finalizer, so that there is always one whose deletion will take the bindings back. This holds at
every moment of every history in which operators change the cluster and pullers are reconciled,
also if a reconcile is cut off between two of its calls.

Two facts carry this through a reconcile. An account never lists the secret twice, so that
unbinding it once makes it free. And the order of the work is right: a puller is guarded before
the first account is bound, and it is released after the last one has been unbound.

## Main facts

* `Cluster.Guarded`: the invariant.
* `Cluster.Guarded.change`, `Reconcile.keeps_guarded`: it is kept by changes and by reconciles.
* `Operated.held_of_bound`: it holds in every history.
-/

namespace PullSecrets

open Cluster (Alike)
open Program (ask Ends Keeps Leads)

/-! ## The invariant -/

namespace Cluster

/-- Some puller is stored that is guarded by the finalizer. -/
def Held (s : Cluster) : Prop := ∃ name p, s.pullers.get? name = some p ∧ p.hasFinalizer = true

/-- No account is bound to the secret. -/
def Free (s : Cluster) : Prop :=
  ∀ key a, s.serviceAccounts.get? key = some a → Names.secret ∉ a.pullSecretList

/-- Objects are under their own places, and no account lists the secret twice. -/
structure Tidy (s : Cluster) : Prop where
  filed : s.Filed
  single : ∀ key a, s.serviceAccounts.get? key = some a →
    a.pullSecretList.count Names.secret ≤ 1

/-- A tidy cluster in which nothing is bound, or some puller is guarded. -/
structure Guarded (s : Cluster) : Prop extends Tidy s where
  held : s.Free ∨ s.Held

variable {s t : Cluster}

theorem guarded_of_free (h : s.Tidy ∧ s.Free) : s.Guarded := ⟨h.1, .inl h.2⟩

theorem guarded_of_held (h : s.Tidy ∧ s.Held) : s.Guarded := ⟨h.1, .inr h.2⟩

theorem guarded_empty : Cluster.empty.Guarded where
  filed := filed_empty
  single := fun _ _ h => by cases h
  held := .inl fun _ _ h => by cases h

theorem Held.of_pullers (h : s.Held) (same : t.pullers = s.pullers) : t.Held := by
  obtain ⟨name, p, stored, has⟩ := h
  exact ⟨name, p, same ▸ stored, has⟩

/-- Storing a puller leaves some puller guarded, unless it takes the finalizer from one. -/
theorem Held.of_insert (h : s.Held) {name : String} {q : Puller}
    (kept : ∀ p, s.pullers.get? name = some p → p.hasFinalizer = true → q.hasFinalizer = true)
    (same : t.pullers = s.pullers.insert name q) : t.Held := by
  obtain ⟨holder, p, stored, has⟩ := h
  by_cases this : holder = name
  · refine ⟨name, q, ?_, kept p (this ▸ stored) has⟩
    rw [same]
    simp
  · refine ⟨holder, p, ?_, has⟩
    rw [same]
    simp [this, stored]

/-- Removing a puller leaves some puller guarded, unless it is a guarded one. -/
theorem Held.of_erase (h : s.Held) {name : String}
    (spared : ∀ p, s.pullers.get? name = some p → p.hasFinalizer = false)
    (same : t.pullers = s.pullers.erase name) : t.Held := by
  obtain ⟨holder, p, stored, has⟩ := h
  refine ⟨holder, p, ?_, has⟩
  have other : holder ≠ name := by
    rintro rfl
    rw [spared p stored] at has
    cases has
  rw [same]
  simp [other, stored]

theorem Free.of_accounts (h : s.Free) (same : t.serviceAccounts = s.serviceAccounts) : t.Free := by
  intro key a stored
  rw [same] at stored
  exact h key a stored

theorem Tidy.of_accounts (h : s.Tidy) (filed : t.Filed)
    (same : t.serviceAccounts = s.serviceAccounts) : t.Tidy := by
  refine ⟨filed, fun key a stored => ?_⟩
  rw [same] at stored
  exact h.single key a stored

/-! ## Calls -/

/-- The write of an account leaves pullers as they are, and every account has its own list or the
one that was written. -/
theorem replaceServiceAccount_lists (x : ServiceAccount) (s : Cluster) :
    (s.replaceServiceAccount x).2.pullers = s.pullers ∧
      ∀ key b, (s.replaceServiceAccount x).2.serviceAccounts.get? key = some b →
        s.serviceAccounts.get? key = some b ∨ b.pullSecretList = x.pullSecretList := by
  rcases replaceServiceAccount_cases x s with ⟨-, same⟩ | ⟨place, old, version, -, -, -, same⟩
  · exact ⟨same.pullers, fun key b stored => .inl (same.serviceAccounts ▸ stored)⟩
  · refine ⟨same.pullers, fun key b stored => ?_⟩
    rw [same.serviceAccounts, Dict.get?_insert] at stored
    split at stored
    · cases stored
      exact .inr rfl
    · exact .inl stored

/-- The write of a list that has the secret once at most keeps a cluster tidy. -/
theorem Tidy.replaceServiceAccount (h : s.Tidy) {x : ServiceAccount}
    (single : x.pullSecretList.count Names.secret ≤ 1) : (s.replaceServiceAccount x).2.Tidy := by
  refine ⟨h.filed.answer (.replaceServiceAccount x), fun key b stored => ?_⟩
  rcases (replaceServiceAccount_lists x s).2 key b stored with own | written
  · exact h.single key b own
  · rw [written]
    exact single

/-- The write of a puller leaves accounts as they are. -/
theorem replacePuller_accounts (p : Puller) (s : Cluster) :
    (s.replacePuller p).2.serviceAccounts = s.serviceAccounts := by
  rcases replacePuller_cases p s with ⟨-, same⟩ | ⟨old, version, -, -, ⟨-, -, same⟩ | ⟨-, same⟩⟩
  · exact same.serviceAccounts
  · exact same.serviceAccounts
  · exact same.serviceAccounts

/-- The write of a puller that has the finalizer keeps some puller guarded. -/
theorem Held.replacePuller {p : Puller} (h : s.Held) (has : p.hasFinalizer = true) :
    (s.replacePuller p).2.Held := by
  rcases replacePuller_cases p s with ⟨-, same⟩ | ⟨old, version, -, -, ⟨-, none, -⟩ | ⟨-, same⟩⟩
  · exact h.of_pullers same.pullers
  · rw [Puller.hasFinalizer_iff, none] at has
    cases has
  · refine h.of_insert (q := p.inPlaceOf old version) ?_ same.pullers
    exact fun _ _ _ => has

/-- The write of a status takes the finalizer from no puller. -/
theorem Held.replacePullerStatus (h : s.Held) (p : Puller) : (s.replacePullerStatus p).2.Held := by
  rcases replacePullerStatus_cases p s with ⟨-, same⟩ | ⟨old, version, stored, -, same⟩
  · exact h.of_pullers same.pullers
  · refine h.of_insert ?_ same.pullers
    intro q found has
    rw [stored] at found
    cases found
    exact has

theorem replacePullerStatus_accounts (p : Puller) (s : Cluster) :
    (s.replacePullerStatus p).2.serviceAccounts = s.serviceAccounts := by
  rcases replacePullerStatus_cases p s with ⟨-, same⟩ | ⟨old, version, -, -, same⟩
  · exact same.serviceAccounts
  · exact same.serviceAccounts

/-- The writes of secrets leave pullers and accounts as they are. -/
theorem createSecret_same (x : Secret) (s : Cluster) :
    (s.createSecret x).2.pullers = s.pullers ∧
      (s.createSecret x).2.serviceAccounts = s.serviceAccounts := by
  rcases createSecret_cases x s with ⟨-, same⟩ | ⟨_, _, _, -, -, -, same⟩
  · exact ⟨same.pullers, same.serviceAccounts⟩
  · exact ⟨same.pullers, same.serviceAccounts⟩

theorem replaceSecret_same (x : Secret) (s : Cluster) :
    (s.replaceSecret x).2.pullers = s.pullers ∧
      (s.replaceSecret x).2.serviceAccounts = s.serviceAccounts := by
  rcases replaceSecret_cases x s with ⟨-, same⟩ | ⟨_, _, _, -, -, -, same⟩
  · exact ⟨same.pullers, same.serviceAccounts⟩
  · exact ⟨same.pullers, same.serviceAccounts⟩

/-! ## Changes from outside -/

/-- Operators create pullers under names that are free. -/
def Fresh (s : Cluster) : Change → Prop
  | .createPuller p => s.pullers.get? p.name = none
  | _ => True

/-- Editing a puller leaves its finalizers as they are. -/
theorem Held.editPuller (h : s.Held) (name : String) (spec : PullerSpec) :
    (s.editPuller name spec).Held := by
  rw [Cluster.editPuller]
  dsimp only
  split
  · exact h.of_pullers rfl
  next p stored =>
    refine h.of_insert ?_ rfl
    intro q found has
    have stored : s.pullers.get? name = some p := stored
    rw [stored] at found
    cases found
    exact has

/-- Asking for the deletion of a puller removes none that is guarded. -/
theorem Held.deletePuller (h : s.Held) (name : String) (time : Timestamp) :
    (s.deletePuller name time).2.Held := by
  rw [Cluster.deletePuller]
  dsimp only
  split
  · exact h.of_pullers rfl
  next p stored =>
    have stored : s.pullers.get? name = some p := stored
    split
    next none =>
      refine h.of_erase ?_ rfl
      intro q found
      rw [stored] at found
      cases found
      rw [Puller.hasFinalizer, List.isEmpty_iff.1 none]
      rfl
    next =>
      refine h.of_insert ?_ rfl
      intro q found has
      rw [stored] at found
      cases found
      exact has

/-- A change from outside takes the finalizer from no puller. -/
theorem Held.change (h : s.Held) {c : Change} (fresh : s.Fresh c) : (s.change c).2.Held := by
  cases c with
  | createPuller p =>
    -- Nothing is stored under the name, so no finalizer is lost with an object put there.
    refine h.of_insert ?_ rfl
    intro q found
    have free : s.pullers.get? p.name = none := fresh
    have found : s.pullers.get? p.name = some q := found
    rw [free] at found
    cases found
  | editPuller name spec => exact h.editPuller name spec
  | deletePuller name time => exact h.deletePuller name time
  | addNamespace | addServiceAccount | deleteSecret | breakNamespace | healNamespace | breakLists
  | healLists | injectConflicts => exact h.of_pullers rfl

/-- Accounts change from outside only by being added. -/
theorem change_accounts (s : Cluster) (c : Change) :
    (s.change c).2.serviceAccounts = s.serviceAccounts ∨
      ∃ inNamespace name, c = .addServiceAccount inNamespace name := by
  cases c with
  | addServiceAccount inNamespace name => exact .inr ⟨inNamespace, name, rfl⟩
  | editPuller name spec =>
    left
    show (s.editPuller name spec).serviceAccounts = s.serviceAccounts
    rw [Cluster.editPuller]
    dsimp only
    split <;> rfl
  | deletePuller name time =>
    left
    show (s.deletePuller name time).2.serviceAccounts = s.serviceAccounts
    rw [Cluster.deletePuller]
    dsimp only
    split
    · rfl
    · split <;> rfl
  | addNamespace | createPuller | deleteSecret | breakNamespace | healNamespace | breakLists
  | healLists | injectConflicts => exact .inl rfl

/-- A change from outside leaves every account as it is, or it is a new one without secrets. -/
theorem change_lists (s : Cluster) (c : Change) (key : ObjectKey) (a : ServiceAccount)
    (h : (s.change c).2.serviceAccounts.get? key = some a) :
    s.serviceAccounts.get? key = some a ∨ a.pullSecretList = [] := by
  rcases change_accounts s c with same | ⟨inNamespace, name, rfl⟩
  · exact .inl (same ▸ h)
  · exact Dict.forall_insert (P := fun key a => s.serviceAccounts.get? key = some a ∨
      a.pullSecretList = []) (fun _ _ own => .inl own) (.inr rfl) key a h

/-- A change from outside keeps the invariant. -/
theorem Guarded.change (h : s.Guarded) {c : Change} (fresh : s.Fresh c) :
    (s.change c).2.Guarded := by
  refine ⟨⟨h.filed.change c, ?_⟩, ?_⟩
  · intro key a stored
    rcases change_lists s c key a stored with own | new
    · exact h.single key a own
    · rw [new]
      exact Nat.zero_le 1
  · rcases h.held with free | held
    · left
      intro key a stored
      rcases change_lists s c key a stored with own | new
      · exact free key a own
      · rw [new]
        exact List.not_mem_nil
    · exact .inr (held.change fresh)

end Cluster

/-! ## Programs -/

namespace Binding

variable {kept : Cluster → Prop} {policy : RetryPolicy}
  {change : List String → Option (List String)}

/-- The change of one account keeps what the write of the changed list keeps. -/
theorem keeps_amend
    (write : ∀ s key a names, kept s → s.serviceAccounts.get? key = some a →
      change a.pullSecretList = some names →
        kept (s.replaceServiceAccount (a.withPullSecrets names)).2) (key : ObjectKey) :
    Keeps kept (amend change key) := by
  intro s hs
  unfold amend
  refine (Program.leads_ask_ok (v := s.serviceAccounts.get? key) rfl).2 ⟨hs, ?_⟩
  cases stored : s.serviceAccounts.get? key with
  | none => exact hs
  | some a =>
    cases asked : change a.pullSecretList with
    | none =>
      simp only [asked]
      exact hs
    | some names =>
      simp only [asked]
      have written := write s key a names hs stored asked
      refine Program.leads_unlessMissing.2
        ((Program.leads_ask (c := .replaceServiceAccount (a.withPullSecrets names))).2
          ⟨written, ?_⟩)
      split
      · exact written
      · exact written

theorem keeps_changeAll {change : ObjectKey → Program StoreError Bool}
    (h : ∀ key, Keeps kept (change key)) (keys : List ObjectKey) :
    Keeps kept (changeAll policy change keys) :=
  Keeps.bind (Keeps.forEach fun key => Keeps.retry fun _ => h key) fun _ => Keeps.settle

/-- Binding keeps what the write of an appended list keeps. -/
theorem keeps_bindAll {secret : String}
    (write : ∀ s key a names, kept s → s.serviceAccounts.get? key = some a →
      appended secret a.pullSecretList = some names →
        kept (s.replaceServiceAccount (a.withPullSecrets names)).2) (inNamespace : String) :
    Keeps kept (bindAll policy inNamespace secret) := by
  unfold bindAll
  rw [bind_eq_amend]
  exact Keeps.bind (Keeps.liftM (Keeps.ask fun _ hs => hs)) fun _ =>
    keeps_changeAll (keeps_amend write) _

/-- Unbinding keeps what the write of a shortened list keeps. -/
theorem keeps_unbindAll {secret : String}
    (write : ∀ s key a names, kept s → s.serviceAccounts.get? key = some a →
      removed secret a.pullSecretList = some names →
        kept (s.replaceServiceAccount (a.withPullSecrets names)).2) :
    Keeps kept (unbindAll policy secret) := by
  unfold unbindAll
  rw [unbind_eq_amend]
  exact Keeps.bind (Keeps.liftM (Keeps.ask fun _ hs => hs)) fun _ =>
    keeps_changeAll (keeps_amend write) _

end Binding

namespace PullSecret

/-- Giving a namespace its secret keeps what the writes of secrets keep. -/
theorem keeps_ensure {kept : Cluster → Prop} {policy : RetryPolicy} {wanted : Secret}
    (create : ∀ s x, kept s → kept (s.createSecret x).2)
    (replace : ∀ s x, kept s → kept (s.replaceSecret x).2) : Keeps kept (ensure policy wanted) := by
  unfold ensure
  refine Keeps.retry fun _ => Keeps.bind (Keeps.ask fun _ hs => hs) fun found => ?_
  cases found with
  | none => exact Keeps.bind (Keeps.ask fun s hs => create s wanted hs) fun _ => Keeps.pure
  | some current =>
    apply Keeps.ite Keeps.pure
    exact Keeps.bind (Keeps.ask fun s hs => replace s _ hs) fun _ => Keeps.pure

end PullSecret

namespace Finalizer

/-- Guarding a puller keeps what the writes of guarded pullers keep. -/
theorem keeps_ensure {kept : Cluster → Prop} {policy : RetryPolicy} {copy : Puller}
    (replace : ∀ s p, kept s → p.hasFinalizer = true → kept (s.replacePuller p).2) :
    Keeps kept (ensure policy copy) := by
  unfold ensure
  split
  · exact Keeps.pure
  · refine Keeps.retry fun _ => Keeps.bind (Keeps.ask fun _ hs => hs) fun found => ?_
    cases found with
    | none => exact Keeps.fail
    | some latest =>
      apply Keeps.ite Keeps.pure
      exact Keeps.ask (c := .replacePuller (guarded latest)) fun s hs =>
        replace s _ hs (hasFinalizer_guarded latest)

/-- Releasing a puller keeps what the writes of pullers keep. -/
theorem keeps_release {kept : Cluster → Prop} {policy : RetryPolicy} {name : String}
    (replace : ∀ s p, kept s → kept (s.replacePuller p).2) : Keeps kept (release policy name) := by
  unfold release
  refine Keeps.retry fun _ => Keeps.bind (Keeps.ask fun _ hs => hs) fun found => ?_
  cases found with
  | none => exact Keeps.pure
  | some latest =>
    refine Keeps.ite (Keeps.bind ?_ fun _ => Keeps.pure) Keeps.pure
    exact Keeps.unlessMissing (Keeps.ask fun s hs => replace s _ hs)

end Finalizer

namespace Report

/-- Reporting keeps what the writes of a status keep. -/
theorem keeps_update {kept : Cluster → Prop} {policy : RetryPolicy} {copy : Puller}
    {status : PullerStatus} (replace : ∀ s p, kept s → kept (s.replacePullerStatus p).2) :
    Keeps kept (update policy copy status) := by
  unfold update
  split
  · exact Keeps.pure
  · refine Keeps.retry fun before => ?_
    have finish (p : Puller) : Keeps kept (if p.status = some status then pure false
        else do
          let _ ← ask (.replacePullerStatus { p with status := some status })
          pure true : Program StoreError Bool) := by
      apply Keeps.ite Keeps.pure
      exact Keeps.bind (Keeps.ask fun s hs => replace s _ hs) fun _ => Keeps.pure
    dsimp only
    split
    · exact finish copy
    · refine Keeps.bind (Keeps.ask (c := .getPuller copy.name) fun _ hs => hs) fun found => ?_
      cases found with
      | none => exact Keeps.pure
      | some p => exact finish p

end Report

/-! ## Reconciling -/

namespace Reconcile

variable {policy : RetryPolicy} {p : Puller}

section Writes

variable {kept : Cluster → Prop} (create : ∀ s x, kept s → kept (s.createSecret x).2)
  (replace : ∀ s x, kept s → kept (s.replaceSecret x).2)
  (append : ∀ s key a names, kept s → s.serviceAccounts.get? key = some a →
    Binding.appended Names.secret a.pullSecretList = some names →
      kept (s.replaceServiceAccount (a.withPullSecrets names)).2)
include create replace append

/-- Working on the targets keeps what its writes keep. -/
theorem keeps_converge : Keeps kept (converge policy p) := by
  unfold converge
  refine Keeps.bind (Keeps.liftM ?_) fun targets => ?_
  · exact Keeps.bind (Keeps.ask fun _ hs => hs) fun _ => Keeps.pure
  · refine Keeps.bind (Keeps.forEach fun n => ?_) fun results => ?_
    · refine Keeps.bind (Keeps.liftM (PullSecret.keeps_ensure create replace)) fun _ => ?_
      exact Keeps.bind (Binding.keeps_bindAll append n) fun _ => Keeps.pure
    · exact Keeps.bind Keeps.leave fun _ => Keeps.bind Keeps.leave fun _ => Keeps.settle

/-- Working and reporting keeps what its writes keep. -/
theorem keeps_sync (status : ∀ s q, kept s → kept (s.replacePullerStatus q).2) :
    Keeps kept (sync policy p) := by
  unfold sync
  refine Keeps.bind (Keeps.attempt (keeps_converge create replace append)) fun outcome => ?_
  refine Keeps.bind ?_ fun status' => ?_
  · exact fun s hs ready error => hs
  · exact Keeps.bind (Keeps.liftM (Report.keeps_update status)) fun _ => Keeps.ofExcept

end Writes

/-- Once some puller is guarded, working and reporting keeps it so. -/
theorem keeps_held : Keeps (fun s => s.Tidy ∧ s.Held) (sync policy p) := by
  refine keeps_sync ?_ ?_ ?_ ?_
  · intro s x h
    obtain ⟨pullers, accounts⟩ := Cluster.createSecret_same x s
    exact ⟨h.1.of_accounts (h.1.filed.answer (.createSecret x)) accounts, h.2.of_pullers pullers⟩
  · intro s x h
    obtain ⟨pullers, accounts⟩ := Cluster.replaceSecret_same x s
    exact ⟨h.1.of_accounts (h.1.filed.answer (.replaceSecret x)) accounts, h.2.of_pullers pullers⟩
  · -- Only an account that lacks the secret is bound, so it has the secret once afterwards.
    intro s key a names h _ asked
    refine ⟨h.1.replaceServiceAccount ?_,
      h.2.of_pullers (Cluster.replaceServiceAccount_lists _ s).1⟩
    unfold Binding.appended at asked
    split at asked
    · cases asked
    next free =>
      cases asked
      rw [Binding.pullSecretList_withPullSecrets, List.count_append, List.count_eq_zero.2 free]
      exact Nat.le_refl 1
  · intro s q h
    exact ⟨h.1.of_accounts (h.1.filed.answer (.replacePullerStatus q))
      (Cluster.replacePullerStatus_accounts q s), h.2.replacePullerStatus q⟩

/-- Guarding a puller keeps the invariant. -/
theorem keeps_guarding : Keeps Cluster.Guarded (Finalizer.ensure policy p) := by
  refine Finalizer.keeps_ensure fun s q h has => ?_
  have accounts := Cluster.replacePuller_accounts q s
  refine ⟨h.toTidy.of_accounts (h.filed.answer (.replacePuller q)) accounts, ?_⟩
  rcases h.held with free | held
  · exact .inl (free.of_accounts accounts)
  · exact .inr (held.replacePuller has)

/-- Unbinding keeps the invariant. -/
theorem keeps_unbinding : Keeps Cluster.Guarded (Binding.unbindAll policy Names.secret) := by
  refine Binding.keeps_unbindAll fun s key a names h stored asked => ?_
  unfold Binding.removed at asked
  split at asked
  next bound =>
    cases asked
    have one := h.single key a stored
    refine ⟨h.toTidy.replaceServiceAccount ?_, ?_⟩
    · rw [Binding.pullSecretList_withPullSecrets, List.count_erase_self]
      omega
    · rcases h.held with free | held
      · exact absurd bound (free key a stored)
      · exact .inr (held.of_pullers (Cluster.replaceServiceAccount_lists _ s).1)
  next => cases asked

/-- Once no account is bound, releasing a puller keeps it so. -/
theorem keeps_releasing {name : String} :
    Keeps (fun s => s.Tidy ∧ s.Free) (Finalizer.release policy name) := by
  refine Finalizer.keeps_release fun s q h => ?_
  have accounts := Cluster.replacePuller_accounts q s
  exact ⟨h.1.of_accounts (h.1.filed.answer (.replacePuller q)) accounts, h.2.of_accounts accounts⟩

/-- Cleaning up keeps the invariant: when all accounts were unbound, none is bound any more. -/
theorem keeps_cleanup : Keeps Cluster.Guarded (cleanup policy p) := by
  intro s h
  unfold cleanup
  refine Program.leads_bind.2 (((keeps_unbinding s h).and
    (Binding.unbindAll_ends h.filed)).mono ?_)
  rintro r t ⟨guarded, ended⟩
  cases r with
  | error e => exact guarded
  | ok n =>
    have free : t.Free := by
      rcases ended with ⟨-, -, e, he⟩ | ⟨-, results, complete, swept, result⟩
      · cases he
      · have unbound := unbound_of_swept complete swept (Binding.outcome_eq_ok_iff.1 result.symm).1
        intro key a stored
        have loose := unbound.free_iff.2 h.single key a stored
        rw [← ServiceAccount.references_iff, loose]
        exact Bool.false_ne_true
    -- From here on nothing is bound, so even the last guarded puller may be released.
    refine Program.leads_bind.2 (Program.leads_bind.2 (Program.leads_liftM.2 ?_))
    refine (keeps_releasing.leads ⟨guarded.toTidy, free⟩ fun _ => Cluster.guarded_of_free).mono ?_
    rintro (e | _) u hu
    · exact hu
    · exact hu

/-- Reconciling a puller keeps the invariant at each of its calls. -/
theorem keeps_guarded (config : Config) (name : String) :
    Keeps Cluster.Guarded (reconcile config name) := by
  unfold reconcile
  refine Keeps.bind Keeps.leave fun _ => Keeps.bind (Keeps.attempt ?_) fun _ =>
    Keeps.bind Keeps.leave fun _ => Keeps.ofExcept
  intro s h
  unfold steps
  refine (Program.leads_liftM_ask_ok (v := s.pullers.get? name) rfl).2 ⟨h, ?_⟩
  cases stored : s.pullers.get? name with
  | none => exact h
  | some p =>
    obtain rfl : p.name = name := h.filed.pullers name p stored
    show (if p.metadata.isTerminating then _ else _ : Program ReconcileError Action).Leads _ _ _ s
    split
    · refine Program.leads_bind.2 ((keeps_cleanup s h).mono ?_)
      rintro (e | n) t ht
      · exact ht
      · exact ht
    · -- When guarding has succeeded, the puller itself is the one that is guarded.
      refine Program.leads_bind.2 (Program.leads_liftM.2 (((keeps_guarding s h).and
        (Finalizer.ensure_ends stored)).mono ?_))
      rintro (e | q) t ⟨guarded, -, ok, -⟩
      · exact guarded
      · obtain ⟨stored_t, has, -⟩ := ok q rfl
        have held : t.Held := ⟨p.name, q, stored_t, has⟩
        refine Program.leads_bind.2 ((keeps_held.leads ⟨guarded.toTidy, held⟩ fun _ =>
          Cluster.guarded_of_held).mono ?_)
        rintro (e | summary) u hu
        · exact hu
        · exact hu

end Reconcile

/-! ## Histories -/

/-- The clusters that come about when operators change the empty one and pullers are reconciled in
any order, where each reconcile may be cut off after any number of its calls. -/
inductive Operated : Cluster → Prop
  | empty : Operated .empty
  | change {s : Cluster} (before : Operated s) (c : Change) (fresh : s.Fresh c) :
    Operated (s.change c).2
  | reconcile {σ : Type} (w : Surroundings σ) {x : σ} (before : Operated (w.cluster x))
    (config : Config) (name : String) (n : Nat) :
    Operated (w.cluster ((Reconcile.reconcile config name).cut w.toHandler n x))

namespace Operated

variable {s : Cluster}

/-- A reconcile that is not cut off is one that is cut off late enough. -/
theorem run {σ : Type} (w : Surroundings σ) {x : σ} (before : Operated (w.cluster x))
    (config : Config) (name : String) :
    Operated (w.cluster ((Reconcile.reconcile config name).run w.toHandler x).2) := by
  obtain ⟨n, hn⟩ := (Reconcile.reconcile config name).exists_cut_eq_run w.toHandler x
  rw [← hn]
  exact before.reconcile w config name n

/-- The invariant holds in every history. -/
theorem guarded (h : Operated s) : s.Guarded := by
  induction h with
  | empty => exact Cluster.guarded_empty
  | change _ c fresh ih => exact ih.change fresh
  | reconcile w _ config name n ih => exact (Reconcile.keeps_guarded config name _ ih).cut ih n

/-- As long as some account is bound to the secret, some stored puller has the finalizer. -/
theorem held_of_bound (h : Operated s) {key : ObjectKey} {a : ServiceAccount}
    (stored : s.serviceAccounts.get? key = some a) (bound : a.references Names.secret = true) :
    ∃ name p, s.pullers.get? name = some p ∧ p.hasFinalizer = true := by
  rcases h.guarded.held with free | held
  · exact absurd (ServiceAccount.references_iff.1 bound) (free key a stored)
  · exact held

theorem sample : Operated .sample := by
  have namespaces := (empty.change (.addNamespace "default" .empty) trivial).change
    (.addNamespace "kube-system" .empty) trivial
  have accounts := (namespaces.change (.addServiceAccount "default" "default") trivial).change
    (.addServiceAccount "kube-system" "default") trivial
  exact accounts.change (.createPuller .sample) rfl

/-- The first reconcile of the small cluster is cut off when it has just bound an account. -/
theorem held_of_bound_sample :
    let s := (Reconcile.reconcile {} "creds1").cut (Cluster.alone "").toHandler 9 .sample
    (s.serviceAccounts.get? ⟨"default", "default"⟩).any (·.references Names.secret) = true ∧
      ∃ name p, s.pullers.get? name = some p ∧ p.hasFinalizer = true := by
  intro s
  have bound : (s.serviceAccounts.get? ⟨"default", "default"⟩).any
      (·.references Names.secret) = true := by decide +kernel
  have operated : Operated s :=
    Operated.reconcile (Cluster.alone "") (x := .sample) sample {} "creds1" 9
  obtain ⟨a, stored, references⟩ := (Option.any_eq_true _ _).1 bound
  exact ⟨bound, held_of_bound operated stored references⟩

end Operated

end PullSecrets
