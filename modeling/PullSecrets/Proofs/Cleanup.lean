import PullSecrets.Proofs.Accounts
import PullSecrets.Proofs.Pullers
import PullSecrets.Reconcile.Basic

/-!
# Reconciling a puller that is to be deleted

Before such a puller is let go, every account of the cluster is unbound, in whatever namespace it
is. Unbinding takes one occurrence of the secret from the list of an account. A list that holds
the secret several times, which other clients may have written, keeps the others.

## Main facts

* `Reconcile.reconcile_ends_of_terminating`: what holds when cleaning up has succeeded.
* `Reconcile.unbound_of_reconcile_iff`: cleaning up is complete if and only if no list held the
  secret twice.
* `Reconcile.bound_after_reconcile`: a cluster in which an account stays bound.
-/

namespace PullSecrets

open Cluster (Alike)
open Program (ask Ends Leads)

namespace Reconcile

variable {policy : RetryPolicy} {p : Puller} {name : String} {s t : Cluster}

/-- Every account has lost one occurrence of the secret, if it had any. -/
def Unbound (s t : Cluster) : Prop :=
  ∀ key, (t.serviceAccounts.get? key).map (·.pullSecretList) =
    (s.serviceAccounts.get? key).map (·.pullSecretList.erase Names.secret)

/-- Unbinding all accounts without a failure. -/
theorem unbound_of_swept {results : List (ObjectKey × Except StoreError Bool)}
    (complete : results.map (·.1) = s.boundTo Names.secret)
    (swept : Binding.Swept (Binding.removed Names.secret) s results t)
    (fine : ∀ key e, (key, .error e) ∉ results) : Unbound s t := by
  intro key
  have lists := swept.pullSecretList_eq key fine fun a stored asked => by
    rw [complete]
    rw [ne_eq, Binding.removed_eq_none_iff, not_not] at asked
    exact Cluster.mem_boundTo.2 ⟨a, stored, asked⟩
  rw [lists]
  congr 1
  funext a
  unfold Binding.removed
  split
  next bound => rfl
  next free => exact (List.erase_of_not_mem free).symm

/-- When every account has lost one occurrence of the secret, those are still bound that held it
more than once. -/
theorem Unbound.references_iff (h : Unbound s t) {key : ObjectKey} {a : ServiceAccount}
    (stored : s.serviceAccounts.get? key = some a) :
    ∃ b, t.serviceAccounts.get? key = some b ∧
      (b.references Names.secret = true ↔ 2 ≤ a.pullSecretList.count Names.secret) := by
  have lists := h key
  rw [stored, Option.map_some, Option.map_eq_some_iff] at lists
  obtain ⟨b, stored_t, names⟩ := lists
  refine ⟨b, stored_t, ?_⟩
  rw [ServiceAccount.references_iff, names, ← List.count_pos_iff, List.count_erase_self]
  omega

/-- An account is unbound in the end if and only if it held the secret once at most. -/
theorem Unbound.free_iff (h : Unbound s t) :
    (∀ key a, t.serviceAccounts.get? key = some a → a.references Names.secret = false) ↔
      ∀ key a, s.serviceAccounts.get? key = some a → a.pullSecretList.count Names.secret ≤ 1 := by
  constructor
  · intro unbound key a stored
    obtain ⟨b, stored_t, still⟩ := h.references_iff stored
    by_contra several
    have bound := still.2 (by omega)
    rw [unbound key b stored_t] at bound
    cases bound
  · intro single key b stored_t
    have lists := h key
    rw [stored_t, Option.map_some, eq_comm, Option.map_eq_some_iff] at lists
    obtain ⟨a, stored, -⟩ := lists
    obtain ⟨b', stored_t', still⟩ := h.references_iff stored
    obtain rfl := Option.some.inj (stored_t.symm.trans stored_t')
    have one := single key a stored
    rw [← Bool.not_eq_true, still]
    omega

/-- Cleaning up after a stored puller: success means that all accounts were worked on, and that
the puller has been released. -/
theorem cleanup_ends (filed : s.Filed) (stored : s.pullers.get? p.name = some p) :
    (cleanup policy p).Ends (fun r t => ∀ n, r = .ok n → Unbound s t ∧
      ∀ q, t.pullers.get? p.name = some q → q.hasFinalizer = false) s := by
  unfold cleanup
  refine Program.leads_bind.2 ((Binding.unbindAll_ends filed).mono ?_)
  rintro r u (⟨-, rfl, e, rfl⟩ | ⟨-, results, complete, swept, rfl⟩)
  · intro n hn
    cases hn
  · cases result : Binding.outcome results with
    | error e =>
      intro n hn
      cases hn
    | ok n =>
      have unbound := unbound_of_swept complete swept (Binding.outcome_eq_ok_iff.1 result).1
      -- Unbinding has left the puller alone, so releasing it finds the one that was stored.
      have stored : u.pullers.get? p.name = some p := by
        rw [swept.rest.pullers]
        exact stored
      refine Program.leads_bind.2 (Program.leads_bind.2 (Program.leads_liftM.2
        ((Finalizer.release_ends stored).mono ?_)))
      rintro (e | _) t ⟨tended, -, released⟩
      · intro n hn
        cases hn
      · intro n _
        refine ⟨fun key => ?_, released rfl⟩
        rw [tended.serviceAccounts]
        exact unbound key

/-- Reconciling a puller that is to be deleted is cleaning up after it. -/
theorem leads_reconcile_of_terminating {each : Cluster → Call → Prop} {config : Config}
    {ends : Except ReconcileError Action → Cluster → Prop}
    (stored : s.pullers.get? name = some p) (terminating : p.metadata.isTerminating = true)
    (asked : each s (.getPuller name))
    (h : (cleanup config.retryPolicy p).Leads Cluster.handler each
      (fun r t => ends (r.map fun _ => .awaitChange) t) s) :
    (reconcile config name).Leads Cluster.handler each ends s := by
  unfold reconcile
  refine Program.leads_bind.2 (Program.leads_bind.2 (Program.leads_attempt.2 ?_))
  -- The notes before and after the steps leave the cluster and the result alone.
  suffices steps : (steps config name).Leads Cluster.handler each ends s by
    refine steps.mono fun r t ended => Program.leads_bind.2 (Program.leads_ofExcept.2 ended)
  unfold steps
  refine (Program.leads_liftM_ask_ok (v := s.pullers.get? name) rfl).2 ⟨asked, ?_⟩
  simp only [stored, terminating, if_true]
  refine Program.leads_bind.2 (h.mono ?_)
  rintro (e | n) t ended
  · exact ended
  · exact ended

/-- The reconcile of a stored puller that is to be deleted. -/
theorem reconcile_ends_of_terminating (config : Config) (filed : s.Filed)
    (stored : s.pullers.get? name = some p) (terminating : p.metadata.isTerminating = true) :
    (reconcile config name).Ends (fun r t => ∀ action, r = .ok action → Unbound s t ∧
      ∀ q, t.pullers.get? name = some q → q.hasFinalizer = false) s := by
  obtain rfl : p.name = name := filed.pullers name p stored
  refine leads_reconcile_of_terminating stored terminating trivial
    ((cleanup_ends filed stored).mono ?_)
  rintro (e | n) t ended
  · intro action haction
    cases haction
  · intro action _
    exact ended n rfl

/-- When the reconcile of a puller that is to be deleted has succeeded, the finalizer is released,
and no account in any namespace is bound any more, if and only if no account held the secret
twice. -/
theorem unbound_of_reconcile_iff {σ : Type} (w : Surroundings σ) (config : Config) {x : σ}
    {action : Action} (reachable : Reachable (w.cluster x))
    (stored : (w.cluster x).pullers.get? name = some p)
    (terminating : p.metadata.isTerminating = true)
    (fine : ((reconcile config name).run w.toHandler x).1 = .ok action) :
    let s := w.cluster x
    let t := w.cluster ((reconcile config name).run w.toHandler x).2
    (∀ q, t.pullers.get? name = some q → q.hasFinalizer = false) ∧
      ((∀ key a, t.serviceAccounts.get? key = some a → a.references Names.secret = false) ↔
        ∀ key a, s.serviceAccounts.get? key = some a →
          a.pullSecretList.count Names.secret ≤ 1) := by
  intro s t
  have ended := (reconcile_ends_of_terminating config reachable.filed stored
    terminating).run (w := w)
  obtain ⟨unbound, released⟩ := ended action fine
  exact ⟨released, unbound.free_iff⟩

/-- A cluster with one account, to which a client has given some names, and with a guarded puller
whose deletion is asked for. -/
def leaving (names : List String) : Cluster :=
  let guarded := Puller.sample.withFinalizers [Names.finalizer]
  let account : ServiceAccount := {
    metadata := { name := some "default", inNamespace := some "default" }
    imagePullSecrets := some names }
  let s := Cluster.empty.changes [
    .addNamespace "default" .empty, .addServiceAccount "default" "default", .createPuller guarded]
  ((s.answer (.replaceServiceAccount account)).2.change (.deletePuller "creds1" ⟨0, false⟩)).2

theorem reachable_leaving (names : List String) : Reachable (leaving names) :=
  .change (.call (Reachable.empty.changes _) _) _

/-- An account that holds the secret once is free of it when the puller has gone. -/
theorem unbound_of_reconcile_leaving :
    let t := ((reconcile {} "creds1").run (Cluster.alone "").toHandler
      (leaving ["other", Names.secret])).2
    ∀ key a, t.serviceAccounts.get? key = some a → a.references Names.secret = false := by
  have there : ((leaving ["other", Names.secret]).pullers.get? "creds1").any
      (·.metadata.isTerminating) = true := by decide +kernel
  have fine : ((reconcile {} "creds1").run (Cluster.alone "").toHandler
      (leaving ["other", Names.secret])).1.toOption = some .awaitChange := by decide +kernel
  have single : ∀ e ∈ (leaving ["other", Names.secret]).serviceAccounts.entries,
      e.2.pullSecretList.count Names.secret ≤ 1 := by decide +kernel
  obtain ⟨p, stored, terminating⟩ := (Option.any_eq_true _ _).1 there
  have ended := unbound_of_reconcile_iff (Cluster.alone "") {}
    (x := leaving ["other", Names.secret]) (reachable_leaving _) stored terminating
    (eq_ok_of_toOption fine)
  exact ended.2.2 fun key a stored => single _ (Dict.get?_eq_some_iff.1 stored)

/-- An account that holds the secret twice stays bound, although the puller goes away. -/
theorem bound_after_reconcile :
    let s := leaving [Names.secret, Names.secret]
    let r := (reconcile {} "creds1").run (Cluster.alone "").toHandler s
    Reachable s ∧ (∃ p, s.pullers.get? "creds1" = some p ∧ p.metadata.isTerminating = true) ∧
      r.1 = .ok .awaitChange ∧ r.2.pullers.get? "creds1" = none ∧
      ∃ a, r.2.serviceAccounts.get? ⟨"default", "default"⟩ = some a ∧
        a.references Names.secret = true := by
  intro s r
  have there : (s.pullers.get? "creds1").any (·.metadata.isTerminating) = true := by
    decide +kernel
  have fine : r.1.toOption = some .awaitChange := by decide +kernel
  have gone : r.2.pullers.get? "creds1" = none := by decide +kernel
  have bound : (r.2.serviceAccounts.get? ⟨"default", "default"⟩).any
      (·.references Names.secret) = true := by decide +kernel
  obtain ⟨p, stored, terminating⟩ := (Option.any_eq_true _ _).1 there
  obtain ⟨a, kept, references⟩ := (Option.any_eq_true _ _).1 bound
  exact ⟨reachable_leaving _, ⟨p, stored, terminating⟩, eq_ok_of_toOption fine, gone,
    a, kept, references⟩

end Reconcile

end PullSecrets
