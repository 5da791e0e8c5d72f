import PullSecrets.Proofs.Accounts
import PullSecrets.Proofs.Secrets
import PullSecrets.Reconcile.Finalizer
import PullSecrets.Reconcile.Report

/-!
# What a reconcile writes about its puller

A reconcile guards its puller with the finalizer, releases it, or reports in its status. None of
this changes what the puller wants, nor any other object. The copy at hand is the stored one, so
these writes meet the pending conflicts alone; a puller is in no namespace that could be broken.

## Main facts

* `Puller.Akin`: the same puller, as far as what it wants is concerned.
* `Finalizer.ensure_ends`, `Finalizer.release_ends`, `Report.update_ends`: how the writes end.
-/

namespace PullSecrets

open Cluster (Persisted Alike)
open Program (ask Ends Leads)

/-! ## Pullers that want the same -/

/-- The second puller is the first one, with other finalizers, another version or another
status. -/
structure Puller.Akin (p q : Puller) : Prop where
  spec : q.spec = p.spec
  metadata : ∃ finalizers version,
    q.metadata = { p.metadata with finalizers := finalizers, resourceVersion := version }

namespace Puller.Akin

variable {p q r : Puller}

theorem refl (p : Puller) : p.Akin p :=
  ⟨rfl, p.metadata.finalizers, p.metadata.resourceVersion, rfl⟩

theorem trans (hpq : p.Akin q) (hqr : q.Akin r) : p.Akin r := by
  obtain ⟨spec, finalizers, version, hq⟩ := hpq
  obtain ⟨spec', finalizers', version', hr⟩ := hqr
  exact ⟨spec'.trans spec, finalizers', version', by rw [hr, hq]⟩

theorem name_eq (h : p.Akin q) : q.name = p.name := by
  obtain ⟨-, _, _, hq⟩ := h
  rw [Puller.name, hq]
  rfl

theorem isTerminating_eq (h : p.Akin q) : q.metadata.isTerminating = p.metadata.isTerminating := by
  obtain ⟨-, _, _, hq⟩ := h
  rw [hq]
  rfl

theorem document_eq (h : p.Akin q) : q.document = p.document := by
  rw [Puller.document, h.spec]
  rfl

/-- Both want the same secret. -/
theorem wanted_eq (h : p.Akin q) (inNamespace : String) :
    PullSecret.wanted q q.document inNamespace = PullSecret.wanted p p.document inNamespace := by
  have owner : q.owner? = p.owner? := by
    obtain ⟨-, _, _, hq⟩ := h
    rw [Puller.owner?, hq]
    rfl
  rw [PullSecret.wanted, owner, h.name_eq, h.document_eq]
  rfl

/-- A secret is current for both or for neither. -/
theorem carries_iff (h : p.Akin q) {x : Secret} : x.Carries q ↔ x.Carries p := by
  rw [← PullSecret.isCurrent_wanted_iff "", h.wanted_eq,
    PullSecret.isCurrent_wanted_iff]

end Puller.Akin

/-! ## Storing a puller -/

namespace Cluster

variable {α : Type} {p : Puller} {s t : Cluster} {budget : Nat} {name : String}

/-- A cluster in which nothing but pullers differs, up to counters and faults used up. -/
def Tended (s t : Cluster) : Prop := Alike { s with pullers := t.pullers } t

theorem Tended.of_alike (h : s.Alike t) : s.Tended t :=
  ⟨rfl, h.namespaces, h.secrets, h.serviceAccounts, h.listsFail, h.failingNamespaces,
    h.pendingConflicts⟩

/-- The write of a puller changes pullers alone. -/
theorem Persisted.tended {place : Option String} {commit : Cluster → α × Cluster}
    {r : Except StoreError α} (h : Persisted budget .puller place name commit s r t)
    (committed : s.calm.Tended (commit s.calm).2) : s.Tended t := by
  cases h with
  | through =>
    exact ⟨rfl, committed.namespaces, committed.secrets, committed.serviceAccounts,
      committed.listsFail, committed.failingNamespaces,
      Nat.le_trans committed.pendingConflicts (Nat.zero_le _)⟩
  | refused => exact .of_alike (Alike.refl s)
  | contended => exact .of_alike (alike_spend budget s)

/-- The write of a puller that is to stay is refused, or the puller is stored. -/
theorem Persisted.pullers_eq {commit : Cluster → α × Cluster} {r : Except StoreError α}
    (h : Persisted budget .puller none name commit s r t)
    (committed : ∀ u, (commit u).2 = (u.putPuller name p).2) :
    ((∃ e, r = .error e) ∧ t.pullers = s.pullers) ∨
      ∃ version, t.pullers = s.pullers.insert name (p.stamp version) := by
  cases h with
  | through =>
    rw [committed]
    exact .inr ⟨s.calm.advance.versionText, rfl⟩
  | refused => exact .inl ⟨⟨_, rfl⟩, rfl⟩
  | contended => exact .inl ⟨⟨_, rfl⟩, rfl⟩

theorem tended_putPuller (name : String) (p : Puller) (s : Cluster) :
    s.Tended (s.putPuller name p).2 := ⟨rfl, rfl, rfl, rfl, rfl, rfl, Nat.le_refl _⟩

theorem tended_dropPuller (name : String) (p : Puller) (s : Cluster) :
    s.Tended (s.dropPuller name p).2 := ⟨rfl, rfl, rfl, rfl, rfl, rfl, Nat.le_refl _⟩

theorem open_none (s : Cluster) : s.Open none := by
  rintro ns ⟨⟩

/-- Without pending conflicts the write of a puller goes through. -/
theorem Persisted.accepted {commit : Cluster → α × Cluster} {r : Except StoreError α}
    (h : Persisted budget .puller none name commit s r t) (calm : s.pendingConflicts = 0)
    (positive : 0 < budget) : r = .ok (commit s).1 ∧ t = (commit s).2 := by
  have ended := h.of_calm calm s.open_none positive
  rw [calm_of_pendingConflicts_eq_zero calm] at ended
  exact ended

end Cluster

/-! ## The finalizer -/

namespace Finalizer

variable {policy : RetryPolicy} {p : Puller} {s : Cluster}

/-- The copy that adds the finalizer differs from the stored puller in nothing that only the
cluster sets. -/
theorem inPlaceOf_guarded (p : Puller) (version : String) :
    (guarded p).inPlaceOf p version = (guarded p).stamp version := rfl

theorem inPlaceOf_released (p : Puller) (version : String) :
    (released p).inPlaceOf p version = (released p).stamp version := rfl

theorem finalizerList_guarded_ne_nil (p : Puller) :
    (guarded p).metadata.finalizerList.isEmpty = false := by
  simp [guarded, Puller.withFinalizers, Metadata.finalizerList]

theorem akin_guarded (p : Puller) (version : String) : p.Akin ((guarded p).stamp version) :=
  ⟨rfl, _, _, rfl⟩

/-- Guarding a stored puller: it has the finalizer already, or the finalizer is written. -/
theorem ensure_cases (stored : s.pullers.get? p.name = some p) :
    (ensure policy p).Ends (fun r t =>
      (p.hasFinalizer = true ∧ r = .ok p ∧ t = s) ∨ (p.hasFinalizer = false ∧
        Persisted policy.budget .puller none p.name (Cluster.putPuller p.name (guarded p)) s r t))
      s := by
  unfold ensure
  split
  next has => exact .inl ⟨has, rfl, rfl⟩
  next lacks =>
    rw [Bool.not_eq_true] at lacks
    refine (Ends.retry fun i k => ?_).mono fun r t ended => .inr ⟨lacks, ended⟩
    have found : Cluster.handler.call (.getPuller p.name) (s.spend k) = (.ok (some p), s.spend k) :=
      by rw [← stored]; rfl
    refine (Program.leads_ask_ok found).2 ⟨trivial, ?_⟩
    simp only [lacks, Bool.false_eq_true, if_false]
    have written := Cluster.persisted_replacePuller (s := s.spend k) (p := guarded p) stored
      (inPlaceOf_guarded p) rfl
    -- A puller that has the finalizer now stays stored, also if it is to be deleted.
    simp only [finalizerList_guarded_ne_nil, Bool.and_false, Bool.false_eq_true, if_false]
      at written
    exact (Program.leads_ask (c := .replacePuller (guarded p))).2 ⟨trivial, written⟩

/-- Guarding a stored puller: in the end it is stored with the finalizer, unless conflicts were
pending. -/
theorem ensure_ends (stored : s.pullers.get? p.name = some p) :
    (ensure policy p).Ends (fun r t => s.Tended t ∧
      (∀ q, r = .ok q → t.pullers.get? p.name = some q ∧ q.hasFinalizer = true ∧ p.Akin q) ∧
      (s.pendingConflicts = 0 → ∃ q, r = .ok q)) s := by
  apply (ensure_cases stored).mono
  rintro r t (⟨has, rfl, rfl⟩ | ⟨-, ended⟩)
  · refine ⟨.of_alike (Alike.refl t), ?_, fun _ => ⟨p, rfl⟩⟩
    rintro q ⟨⟩
    exact ⟨stored, has, .refl p⟩
  · refine ⟨ended.tended (Cluster.tended_putPuller _ _ _), ?_, ?_⟩
    · rintro q rfl
      cases ended with
      | through spared few =>
        refine ⟨by simp [Cluster.putPuller], ?_, akin_guarded p _⟩
        exact hasFinalizer_guarded p
    · intro calm
      exact ⟨_, (ended.of_calm calm s.open_none policy.budget_pos).1⟩

/-- Store a puller without the finalizer. It goes away if it is to be deleted and nothing else
guards it. -/
def letGo (p : Puller) : Cluster → Puller × Cluster :=
  if p.metadata.isTerminating && (released p).metadata.finalizerList.isEmpty then
    Cluster.dropPuller p.name (released p)
  else Cluster.putPuller p.name (released p)

theorem tended_letGo (p : Puller) (s : Cluster) : s.Tended (letGo p s).2 := by
  unfold letGo
  split
  · exact Cluster.tended_dropPuller _ _ _
  · exact Cluster.tended_putPuller _ _ _

/-- A puller that was let go is not stored with the finalizer. -/
theorem not_hasFinalizer_of_letGo {q : Puller}
    (h : (letGo p s).2.pullers.get? p.name = some q) : q.hasFinalizer = false := by
  unfold letGo at h
  split at h
  · simp [Cluster.dropPuller] at h
  · simp only [Cluster.putPuller, Dict.get?_insert, if_true, Option.some.injEq] at h
    rw [← h, Puller.hasFinalizer_stamp]
    exact not_hasFinalizer_released p

/-- Letting go of a puller leaves the others as they are. -/
theorem get?_letGo_of_ne {other : String} (h : other ≠ p.name) :
    (letGo p s).2.pullers.get? other = s.pullers.get? other := by
  unfold letGo
  split
  · simp [Cluster.dropPuller, h]
  · simp [Cluster.putPuller, h]

/-- Releasing a stored puller that has the finalizer. -/
theorem release_of_hasFinalizer (stored : s.pullers.get? p.name = some p)
    (has : p.hasFinalizer = true) :
    (release policy p.name).Ends
      (Persisted policy.budget .puller none p.name (fun u => ((), (letGo p u).2)) s) s := by
  unfold release
  apply Ends.retry
  intro i k
  have found : Cluster.handler.call (.getPuller p.name) (s.spend k) =
      (.ok (some p), s.spend k) := by
    rw [← stored]
    rfl
  refine (Program.leads_ask_ok found).2 ⟨trivial, ?_⟩
  simp only [has, if_true]
  have written : (ask (.replacePuller (released p))).Ends
      (Persisted 1 .puller none p.name (letGo p) (s.spend k)) (s.spend k) := by
    refine (Program.leads_ask (c := .replacePuller (released p))).2 ⟨trivial, ?_⟩
    -- The copy without the finalizer has the name and the deletion of the stored puller.
    exact Cluster.persisted_replacePuller (s := s.spend k) (p := released p) stored
      (inPlaceOf_released p) rfl
  refine Program.leads_bind.2 (written.unlessMissing.mono ?_)
  rintro (e | b) t ended
  · exact ended.map fun _ => ()
  · exact ended.map fun _ => ()

/-- Releasing a stored puller: there is no finalizer to release, or the puller is let go. -/
theorem release_cases (stored : s.pullers.get? p.name = some p) :
    (release policy p.name).Ends (fun r t =>
      (p.hasFinalizer = false ∧ r = .ok () ∧ t = s) ∨ (p.hasFinalizer = true ∧
        Persisted policy.budget .puller none p.name (fun u => ((), (letGo p u).2)) s r t)) s := by
  by_cases has : p.hasFinalizer = true
  · exact (release_of_hasFinalizer stored has).mono fun r t ended => .inr ⟨has, ended⟩
  · rw [Bool.not_eq_true] at has
    unfold release
    refine Leads.retry_once (fun _ _ => rfl) ?_
    refine (Program.leads_ask_ok (v := s.pullers.get? p.name) rfl).2 ⟨trivial, ?_⟩
    simp only [stored, has, Bool.false_eq_true, if_false]
    exact ⟨.inl ⟨trivial, rfl, rfl⟩, fun e he => by cases he⟩

/-- Releasing a stored puller: in the end it is gone, or it is stored without the finalizer,
unless releasing has failed. Other pullers are as before. -/
theorem release_ends (stored : s.pullers.get? p.name = some p) :
    (release policy p.name).Ends (fun r t => s.Tended t ∧
      (∀ other, other ≠ p.name → t.pullers.get? other = s.pullers.get? other) ∧
      (r = .ok () → ∀ q, t.pullers.get? p.name = some q → q.hasFinalizer = false)) s := by
  apply (release_cases stored).mono
  rintro r t (⟨lacks, rfl, rfl⟩ | ⟨-, ended⟩)
  · refine ⟨.of_alike (Alike.refl t), fun _ _ => rfl, fun _ q hq => ?_⟩
    obtain rfl := Option.some.inj (stored.symm.trans hq)
    exact lacks
  · refine ⟨ended.tended (tended_letGo p _), ?_, ?_⟩
    · intro other hother
      cases ended with
      | through => exact get?_letGo_of_ne hother
      | refused | contended => rfl
    · rintro rfl q hq
      cases ended with
      | through spared few => exact not_hasFinalizer_of_letGo hq

end Finalizer

/-! ## The status -/

namespace Report

variable {policy : RetryPolicy} {p : Puller} {s : Cluster}

/-- Reporting about a stored puller: it has the status already, or the status is written. -/
theorem update_cases (stored : s.pullers.get? p.name = some p) (status : PullerStatus) :
    (update policy p status).Ends (fun r t =>
      (p.status = some status ∧ r = .ok false ∧ t = s) ∨ (p.status ≠ some status ∧
        Persisted policy.budget .puller none p.name
          (fun u => (true, (u.putPuller p.name { p with status := some status }).2)) s r t)) s := by
  unfold update
  split
  next has => exact .inl ⟨has, rfl, rfl⟩
  next lacks =>
    refine (Ends.retry fun i k => ?_).mono fun r t ended => .inr ⟨lacks, ended⟩
    have written : (ask (.replacePullerStatus { p with status := some status }) >>= fun _ =>
        pure true : Program StoreError Bool).Ends
          (Persisted 1 .puller none p.name
            (fun u => (true, (u.putPuller p.name { p with status := some status }).2)) (s.spend k))
          (s.spend k) := by
      refine PullSecret.leads_written.2
        ((Program.leads_ask (c := .replacePullerStatus { p with status := some status })).2
          ⟨trivial, ?_⟩)
      exact (Cluster.persisted_replacePullerStatus (s := s.spend k)
        (p := { p with status := some status }) stored rfl).map fun _ => true
    -- The first attempt takes the copy, the others read the puller: it is the same.
    dsimp only
    split
    · rw [pure_bind]
      simp only [lacks, if_false]
      exact written
    · have found : Cluster.handler.call (.getPuller p.name) (s.spend k) =
          (.ok (some p), s.spend k) := by rw [← stored]; rfl
      refine (Program.leads_ask_ok found).2 ⟨trivial, ?_⟩
      simp only [lacks, if_false]
      exact written

/-- Reporting about a stored puller: whatever is written, it stays the same puller, with its
finalizers. -/
theorem update_ends (stored : s.pullers.get? p.name = some p) (status : PullerStatus) :
    (update policy p status).Ends (fun r t => s.Tended t ∧
      (∃ q, t.pullers.get? p.name = some q ∧ q.hasFinalizer = p.hasFinalizer ∧ p.Akin q) ∧
      (s.pendingConflicts = 0 → ∃ b, r = .ok b)) s := by
  apply (update_cases stored status).mono
  rintro r t (⟨-, rfl, rfl⟩ | ⟨-, ended⟩)
  · exact ⟨.of_alike (Alike.refl t), ⟨p, stored, rfl, .refl p⟩, fun _ => ⟨false, rfl⟩⟩
  · refine ⟨ended.tended (Cluster.tended_putPuller _ _ _), ?_, ?_⟩
    · cases ended with
      | through spared few =>
        refine ⟨({ p with status := some status } : Puller).stamp s.calm.advance.versionText, ?_,
          rfl, rfl, p.metadata.finalizers, _, rfl⟩
        simp [Cluster.putPuller]
      | refused at_place broken => cases at_place
      | contended => exact ⟨p, stored, rfl, .refl p⟩
    · intro calm
      exact ⟨true, (ended.of_calm calm s.open_none policy.budget_pos).1⟩

end Report

end PullSecrets
