import PullSecrets.Proofs.Accounts
import PullSecrets.Proofs.Secrets
import PullSecrets.Proofs.Targets
import PullSecrets.Reconcile.Basic

/-!
# Working on the target namespaces

A namespace is given its secret, then its accounts are bound. What has become of it is settled by
its own objects and by the faults, so it makes no difference which other namespaces were worked on
before, nor how that ended. Every namespace that fails is reported under its name.

## Main facts

* `Puller.Converged`: what a puller has reached in a namespace.
* `Cluster.refusals`: what fails in a namespace in which writes fail.
* `Reconcile.ensureNamespace_ends`: how working on one namespace ends.
* `Reconcile.converge_ends`: how working on all of them ends.
-/

namespace PullSecrets

open Cluster (Persisted Alike)
open Program (ask Ends Leads)

/-! ## Namespaces -/

namespace Cluster

/-- A namespace has the same secrets and accounts in both clusters. -/
structure SameIn (n : String) (s t : Cluster) : Prop where
  secrets : ∀ key, key.inNamespace = n → t.secrets.get? key = s.secrets.get? key
  accounts : ∀ key, key.inNamespace = n →
    t.serviceAccounts.get? key = s.serviceAccounts.get? key

theorem SameIn.refl (n : String) (s : Cluster) : SameIn n s s := ⟨fun _ _ => rfl, fun _ _ => rfl⟩

theorem SameIn.symm {n : String} {s t : Cluster} (h : SameIn n s t) : SameIn n t s :=
  ⟨fun key hkey => (h.secrets key hkey).symm, fun key hkey => (h.accounts key hkey).symm⟩

theorem SameIn.trans {n : String} {s t u : Cluster} (hst : SameIn n s t) (htu : SameIn n t u) :
    SameIn n s u where
  secrets := fun key hkey => (htu.secrets key hkey).trans (hst.secrets key hkey)
  accounts := fun key hkey => (htu.accounts key hkey).trans (hst.accounts key hkey)

/-- A cluster in which nothing but secrets and accounts differs, up to counters and faults used
up. -/
def Worked (s t : Cluster) : Prop :=
  Alike { s with secrets := t.secrets, serviceAccounts := t.serviceAccounts } t

theorem Worked.refl (s : Cluster) : s.Worked s := Alike.refl s

theorem Worked.trans {s t u : Cluster} (hst : s.Worked t) (htu : t.Worked u) : s.Worked u where
  pullers := htu.pullers.trans hst.pullers
  namespaces := htu.namespaces.trans hst.namespaces
  secrets := rfl
  serviceAccounts := rfl
  listsFail := htu.listsFail.trans hst.listsFail
  failingNamespaces := htu.failingNamespaces.trans hst.failingNamespaces
  pendingConflicts := Nat.le_trans htu.pendingConflicts hst.pendingConflicts

/-- Working on secrets alone. -/
theorem Worked.of_secrets {s t : Cluster} (h : Alike { s with secrets := t.secrets } t) :
    s.Worked t :=
  ⟨h.pullers, h.namespaces, rfl, rfl, h.listsFail, h.failingNamespaces, h.pendingConflicts⟩

/-- Working on accounts alone. -/
theorem Worked.of_accounts {s t : Cluster}
    (h : Alike { s with serviceAccounts := t.serviceAccounts } t) : s.Worked t :=
  ⟨h.pullers, h.namespaces, rfl, rfl, h.listsFail, h.failingNamespaces, h.pendingConflicts⟩

/-- What is refused in a namespace in which writes fail: the secret, unless it is current, and
otherwise every account that is not bound, in ascending order. -/
def refusals (s : Cluster) (p : Puller) (n : String) : List String :=
  if (s.secrets.get? ⟨n, Names.secret⟩).any
      (PullSecret.isCurrent · (PullSecret.wanted p p.document n)) then
    (s.unboundIn n Names.secret).map fun key =>
      Aggregate.about ("service account " ++ key.text)
        (StoreError.injected .serviceAccount key.inNamespace key.name).message
  else [(StoreError.injected .secret n Names.secret).message]

/-- What is refused in a namespace can be told from its objects alone. -/
theorem SameIn.refusals_eq {n : String} {s t : Cluster} (h : SameIn n s t) (p : Puller) :
    t.refusals p n = s.refusals p n := by
  have unbound : t.unboundIn n Names.secret = s.unboundIn n Names.secret := by
    refine placesOf_congr _ fun key hkey => h.accounts key ?_
    rw [beq_iff_eq] at hkey
    exact hkey.symm
  rw [refusals, refusals, unbound, h.secrets ⟨n, Names.secret⟩ rfl]

/-- Whether a puller has anything left to write in a namespace: its secret, or an account. -/
def Behind (s : Cluster) (p : Puller) (n : String) : Prop :=
  (∀ x, s.secrets.get? ⟨n, Names.secret⟩ = some x → ¬ x.Carries p) ∨
    ∃ name a, s.serviceAccounts.get? ⟨n, name⟩ = some a ∧ Names.secret ∉ a.pullSecretList

/-- Something is refused if and only if there is anything to write. -/
theorem refusals_ne_nil_iff {s : Cluster} {p : Puller} {n : String} :
    s.refusals p n ≠ [] ↔ s.Behind p n := by
  have current : (s.secrets.get? ⟨n, Names.secret⟩).any
      (PullSecret.isCurrent · (PullSecret.wanted p p.document n)) = true ↔
        ∃ x, s.secrets.get? ⟨n, Names.secret⟩ = some x ∧ x.Carries p := by
    simp only [Option.any_eq_true, PullSecret.isCurrent_wanted_iff]
  unfold refusals Behind
  split
  next has =>
    obtain ⟨x, hx, carries⟩ := current.1 has
    rw [ne_eq, List.map_eq_nil_iff, List.eq_nil_iff_forall_not_mem]
    push Not
    constructor
    · rintro ⟨⟨ns, name⟩, hkey⟩
      obtain ⟨rfl, a, stored, unbound⟩ := mem_unboundIn.1 hkey
      exact .inr ⟨name, a, stored, unbound⟩
    · rintro (outdated | ⟨name, a, stored, unbound⟩)
      · exact absurd carries (outdated x hx)
      · exact ⟨⟨n, name⟩, mem_unboundIn.2 ⟨rfl, a, stored, unbound⟩⟩
  next lacks =>
    refine iff_of_true (List.cons_ne_nil _ _) (.inl fun x hx carries => ?_)
    exact lacks (current.2 ⟨x, hx, carries⟩)

/-- What is reported about the targets of a puller in which writes fail, each under its name. -/
def report (s : Cluster) (p : Puller) : List String :=
  ((s.targets p.spec.namespaceSelector).filter (s.failingNamespaces.contains ·)).flatMap fun n =>
    (s.refusals p n).map (Aggregate.about ("namespace " ++ n))

/-- Something is reported if and only if there is anything to write in a broken target. -/
theorem report_ne_nil_iff {s : Cluster} {p : Puller} :
    s.report p ≠ [] ↔
      ∃ n ∈ s.targets p.spec.namespaceSelector, n ∈ s.failingNamespaces ∧ s.Behind p n := by
  rw [report, ne_eq, List.flatMap_eq_nil_iff]
  push Not
  simp only [List.mem_filter, List.contains_iff_mem, List.map_eq_nil_iff, ← refusals_ne_nil_iff,
    and_assoc, ne_eq]

end Cluster

/-- What a puller has reached in a namespace, seen from the cluster before: there is a secret that
is current, and every account is bound to it, its other names being as before. -/
structure Puller.Converged (p : Puller) (n : String) (s t : Cluster) : Prop where
  secret : ∃ x, t.secrets.get? ⟨n, Names.secret⟩ = some x ∧ x.Carries p
  accounts : ∀ name, (t.serviceAccounts.get? ⟨n, name⟩).map (·.pullSecretList) =
    (s.serviceAccounts.get? ⟨n, name⟩).map fun a =>
      if Names.secret ∈ a.pullSecretList then a.pullSecretList
      else a.pullSecretList ++ [Names.secret]

namespace Reconcile

/-! ## One namespace -/

/-- What a result reports. -/
def reported {α : Type} : Except ReconcileError α → List String
  | .ok _ => []
  | .error e => e.parts.entries

/-- What has become of a namespace, by the result of working on it. The first cluster is the one
before, and the second one comes at any time after. -/
structure Settled (p : Puller) (n : String) (s : Cluster)
    (r : Except ReconcileError NamespaceOutcome) (t : Cluster) : Prop where
  converged : ∀ o, r = .ok o → p.Converged n s t
  named : ∀ e, r = .error e → e.parts.entries ≠ []
  spared : n ∉ s.failingNamespaces → s.listsFail = false → s.pendingConflicts = 0 →
    ∃ o, r = .ok o
  unchanged : n ∈ s.failingNamespaces → s.SameIn n t
  refused : n ∈ s.failingNamespaces → s.listsFail = false → reported r = s.refusals p n

section Namespace

variable {policy : RetryPolicy} {p : Puller} {n : String} {s t u : Cluster}

/-- What has become of a namespace can be told from its objects alone, before and after. -/
theorem Settled.congr {s' t' : Cluster} {r : Except ReconcileError NamespaceOutcome}
    (h : Settled p n s r t) (worked : s'.Worked s) (before : s'.SameIn n s)
    (after : t.SameIn n t') : Settled p n s' r t' where
  converged := by
    intro o ho
    obtain ⟨⟨x, hx, carries⟩, accounts⟩ := h.converged o ho
    refine ⟨⟨x, (after.secrets _ rfl).trans hx, carries⟩, fun name => ?_⟩
    rw [after.accounts _ rfl, ← before.accounts _ rfl]
    exact accounts name
  named := h.named
  spared := by
    intro spared lists calm
    have fewer : s.pendingConflicts ≤ s'.pendingConflicts := worked.pendingConflicts
    exact h.spared (worked.failingNamespaces ▸ spared) (worked.listsFail.trans lists) (by omega)
  unchanged := by
    intro broken
    have broken : n ∈ s.failingNamespaces := worked.failingNamespaces ▸ broken
    exact (before.trans (h.unchanged broken)).trans after
  refused := by
    intro broken lists
    have broken : n ∈ s.failingNamespaces := worked.failingNamespaces ▸ broken
    rw [h.refused broken (worked.listsFail.trans lists), before.refusals_eq]

/-- A namespace whose secret could not be written. -/
theorem settled_of_secret {e : StoreError}
    (ensured : PullSecret.Ensured policy (PullSecret.wanted p p.document n) ⟨n, Names.secret⟩ s
      (.error e) t) : Settled p n s (.error (.store e)) t where
  converged := fun o ho => by cases ho
  named := by
    rintro _ ⟨⟩
    exact List.cons_ne_nil _ _
  spared := by
    intro spared _ calm
    obtain ⟨b, hb⟩ := ensured.of_calm calm spared
    cases hb
  unchanged := by
    intro broken
    obtain ⟨rfl, -⟩ := ensured.of_broken broken
    exact .refl n t
  refused := by
    intro broken _
    obtain ⟨-, he⟩ := ensured.of_broken broken
    unfold Cluster.refusals
    split at he
    · cases he
    next outdated =>
      cases he
      rw [if_neg outdated]
      rfl

/-- A namespace whose accounts could not be listed. -/
theorem settled_of_list {b : Bool} {e : StoreError}
    (ensured : PullSecret.Ensured policy (PullSecret.wanted p p.document n) ⟨n, Names.secret⟩ s
      (.ok b) t) (lists : t.listsFail = true) : Settled p n s (.error (.store e)) t where
  converged := fun o ho => by cases ho
  named := by
    rintro _ ⟨⟩
    exact List.cons_ne_nil _ _
  spared := by
    intro _ fine
    rw [ensured.frame.1.listsFail, fine] at lists
    cases lists
  unchanged := by
    intro broken
    obtain ⟨rfl, -⟩ := ensured.of_broken broken
    exact .refl n t
  refused := by
    intro _ fine
    rw [ensured.frame.1.listsFail, fine] at lists
    cases lists

/-- A namespace that has its secret, and whose accounts were worked on. -/
theorem settled_of_accounts {b : Bool} {results : List (ObjectKey × Except StoreError Bool)}
    (ensured : PullSecret.Ensured policy (PullSecret.wanted p p.document n) ⟨n, Names.secret⟩ s
      (.ok b) u)
    (covered : results.map (·.1) = u.unboundIn n Names.secret)
    (swept : Binding.Swept (Binding.appended Names.secret) u results t) :
    Settled p n s ((Binding.outcome results).map fun bound => ⟨b, bound⟩) t where
  converged := by
    intro o ho
    cases hr : Binding.outcome results with
    | error e =>
      rw [hr] at ho
      cases ho
    | ok count =>
      have fine := (Binding.outcome_eq_ok_iff.1 hr).1
      obtain ⟨x, hx, carries⟩ := ensured.carries
      refine ⟨⟨x, by rw [swept.rest.secrets]; exact hx, carries⟩, fun name => ?_⟩
      have lists := swept.pullSecretList_eq ⟨n, name⟩ fine fun a stored asked => by
        rw [covered]
        rw [ne_eq, Binding.appended_eq_none_iff] at asked
        exact Cluster.mem_unboundIn.2 ⟨rfl, a, stored, asked⟩
      rw [lists, ensured.frame.1.serviceAccounts]
      congr 1
      funext a
      rw [Binding.appended]
      split <;> rfl
  named := by
    intro e he
    cases hr : Binding.outcome results with
    | ok count =>
      rw [hr] at he
      cases he
    | error e' =>
      rw [hr] at he
      cases he
      obtain ⟨rfl, some⟩ := Binding.outcome_eq_error hr
      exact some
  spared := by
    intro spared _ calm
    have calm : u.pendingConflicts = 0 := Nat.le_zero.1 (calm ▸ ensured.frame.1.pendingConflicts)
    have fine : ∀ key e, (key, .error e) ∉ results := by
      intro key e hmem
      have hkey : key ∈ u.unboundIn n Names.secret := covered ▸ List.mem_map.2 ⟨_, hmem, rfl⟩
      refine swept.no_error calm ?_ e hmem
      rw [(Cluster.mem_unboundIn.1 hkey).1, ensured.frame.1.failingNamespaces]
      exact spared
    rw [Binding.outcome_eq_ok_iff.2 ⟨fine, rfl⟩]
    exact ⟨_, rfl⟩
  unchanged := by
    intro broken
    obtain ⟨rfl, -⟩ := ensured.of_broken broken
    refine ⟨fun key _ => by rw [swept.rest.secrets], ?_⟩
    rintro key rfl
    exact swept.get?_of_broken broken
  refused := by
    intro broken _
    obtain ⟨rfl, he⟩ := ensured.of_broken broken
    -- The secret was current already, or the accounts would not have been reached.
    have current : (u.secrets.get? ⟨n, Names.secret⟩).any
        (PullSecret.isCurrent · (PullSecret.wanted p p.document n)) = true := by
      by_contra outdated
      rw [if_neg outdated] at he
      cases he
    have failed := swept.failures_of_broken (fun key hkey => by
      rw [covered] at hkey
      rw [(Cluster.mem_unboundIn.1 hkey).1]
      exact broken) fun key hkey => by
        rw [covered] at hkey
        obtain ⟨-, a, stored, unbound⟩ := Cluster.mem_unboundIn.1 hkey
        refine ⟨a, stored, ?_⟩
        rw [ne_eq, Binding.appended_eq_none_iff]
        exact unbound
    rw [Cluster.refusals, if_pos current, ← covered, ← failed]
    cases hr : Binding.outcome results with
    | ok count =>
      have none := (Binding.outcome_eq_ok_iff.1 hr).1
      symm
      apply List.filterMap_eq_nil_iff.2
      rintro ⟨key, e | a⟩ hmem
      · exact absurd hmem (none key e)
      · rfl
    | error e =>
      obtain ⟨rfl, -⟩ := Binding.outcome_eq_error hr
      rfl

/-- Working on a namespace that is there: only its own objects change, and it is settled. -/
theorem ensureNamespace_ends (filed : s.Filed) (there : s.namespaces.contains n = true) :
    (ensureNamespace policy p p.document n).Ends (fun r t =>
      s.Worked t ∧ (∀ m, m ≠ n → s.SameIn m t) ∧ Settled p n s r t) s := by
  unfold ensureNamespace
  refine Program.leads_bind.2 (Program.leads_liftM.2 ?_)
  -- The accounts are listed after the secret was written, in a cluster that is still filed.
  have secret := PullSecret.ensure_ends policy
    (PullSecret.key_wanted p p.document n) filed there
  refine (secret.and (Program.ends_filed _ filed)).mono ?_
  rintro r u ⟨ensured, filed_u⟩
  obtain ⟨frame, elsewhere⟩ := ensured.frame
  have worked : s.Worked u := .of_secrets frame
  have apart : ∀ m, m ≠ n → s.SameIn m u := by
    intro m hm
    refine ⟨?_, fun key _ => by rw [frame.serviceAccounts]⟩
    rintro key rfl
    apply elsewhere key
    rintro rfl
    exact hm rfl
  cases r with
  | error e => exact ⟨worked, apart, settled_of_secret ensured⟩
  | ok b =>
    refine Program.leads_bind.2 ((Binding.bindAll_ends filed_u n).mono ?_)
    rintro r t (⟨lists, rfl, e, rfl⟩ | ⟨-, results, covered, swept, rfl⟩)
    · exact ⟨worked, apart, settled_of_list ensured lists⟩
    · have rest : u.Worked t := .of_accounts swept.rest
      have others : ∀ m, m ≠ n → u.SameIn m t := by
        intro m hm
        refine ⟨fun key _ => by rw [swept.rest.secrets], ?_⟩
        rintro key rfl
        refine swept.others key fun hkey => hm ?_
        rw [covered] at hkey
        exact (Cluster.mem_unboundIn.1 hkey).1
      have settled := settled_of_accounts ensured covered swept
      have all := And.intro (worked.trans rest)
        (And.intro (fun m hm => (apart m hm).trans (others m hm)) settled)
      cases hr : Binding.outcome results with
      | ok count =>
        rw [hr] at all
        exact all
      | error e =>
        rw [hr] at all
        exact all

end Namespace

/-! ## All namespaces -/

/-- How far working on namespaces has come: every namespace that was worked on is settled, and the
others are as before. -/
structure Covered (p : Puller) (s : Cluster) (results : Results) (t : Cluster) : Prop where
  worked : s.Worked t
  settled : ∀ n r, (n, r) ∈ results → Settled p n s r t
  others : ∀ n, n ∉ results.map (·.1) → s.SameIn n t

/-- What the results of all namespaces amount to. -/
def outcome (results : Results) : Except ReconcileError Summary :=
  if (failures results).isEmpty then .ok (summarize results)
  else .error (.several (failures results))

/-- How working on all target namespaces ends. -/
inductive Converging (p : Puller) (s : Cluster) : Except ReconcileError Summary → Cluster → Prop
  | unresolved {e : ReconcileError}
    (reason : s.listsFail = true ∨ ¬ LabelSelector.Valid p.spec.namespaceSelector) :
    Converging p s (.error e) s
  | covered {results : Results} {t : Cluster}
    (complete : results.map (·.1) = s.targets p.spec.namespaceSelector)
    (covered : Covered p s results t) : Converging p s (outcome results) t

section All

variable {policy : RetryPolicy} {p : Puller} {n : String} {s t u : Cluster} {results : Results}

theorem Covered.nil (p : Puller) (s : Cluster) : Covered p s [] s where
  worked := .refl s
  settled := fun _ _ h => by cases h
  others := fun n _ => .refl n s

/-- One more namespace is settled, and the others are left as they are. -/
theorem Covered.step {r : Except ReconcileError NamespaceOutcome} (h : Covered p s results t)
    (new : n ∉ results.map (·.1)) (worked : t.Worked u) (apart : ∀ m, m ≠ n → t.SameIn m u)
    (settled : Settled p n t r u) : Covered p s (results ++ [(n, r)]) u where
  worked := h.worked.trans worked
  settled := by
    intro m q hmem
    rcases List.mem_append.1 hmem with earlier | last
    · have differs : m ≠ n := by
        rintro rfl
        exact new (List.mem_map.2 ⟨_, earlier, rfl⟩)
      exact (h.settled m q earlier).congr (.refl s) (.refl m s) (apart m differs)
    · cases List.mem_singleton.1 last
      exact settled.congr h.worked (h.others n new) (.refl n u)
  others := by
    intro m hm
    simp only [List.map_append, List.map_cons, List.map_nil, List.mem_append,
      List.mem_singleton, not_or] at hm
    exact (h.others m hm.1).trans (apart m hm.2)

/-- Targets are worked on once each, so the next one has not been touched yet; and it is there. -/
theorem Covered.next {rest : List String} (h : Covered p s results t)
    (left : s.targets p.spec.namespaceSelector = results.map (·.1) ++ n :: rest) :
    n ∉ results.map (·.1) ∧ t.namespaces.contains n = true := by
  refine ⟨Program.not_mem_of_reached (s.nodup_targets _) left, ?_⟩
  have target : n ∈ s.targets p.spec.namespaceSelector := by
    rw [left]
    exact List.mem_append_right _ List.mem_cons_self
  rw [h.worked.namespaces]
  exact Cluster.contains_of_mem_targets target

/-- Working on all target namespaces. -/
theorem converge_ends (filed : s.Filed) : (converge policy p).Ends (Converging p s) s := by
  unfold converge
  refine Program.leads_bind.2 (Program.leads_liftM.2 ((Target.resolve_ends filed _).mono ?_))
  rintro r t ⟨same, found⟩
  obtain rfl := same.symm
  rcases found with rfl | ⟨⟨e, rfl⟩, reason⟩
  · refine Program.leads_bind.2 ((Leads.forEach
      (fun results u => Covered p s results u ∧ u.Filed) ?_ ⟨.nil p s, filed⟩).mono ?_)
    · rintro results n rest u htargets ⟨h, filed_u⟩
      obtain ⟨new, there⟩ := h.next htargets
      refine ((ensureNamespace_ends filed_u there).and (Program.ends_filed _ filed_u)).mono ?_
      rintro q v ⟨⟨worked, apart, settled⟩, filed_v⟩
      exact ⟨h.step new worked apart settled, filed_v⟩
    · rintro _ u ⟨results, rfl, complete, covered, -⟩
      exact Program.leads_settle.2 (.covered complete covered)
  · exact .unresolved reason

/-! ## What it comes to -/

theorem failures_cons (n : String) (r : Except ReconcileError NamespaceOutcome)
    (rest : Results) :
    (failures ((n, r) :: rest)).entries =
      (reported r).map (Aggregate.about ("namespace " ++ n)) ++ (failures rest).entries := by
  cases r <;> rfl

/-- Without failures every namespace has succeeded. -/
theorem Covered.exists_ok {summary : Summary} (h : Covered p s results t)
    (fine : outcome results = .ok summary) (worked : n ∈ results.map (·.1)) :
    ∃ o, (n, .ok o) ∈ results := by
  obtain ⟨⟨_, r⟩, hmem, rfl⟩ := List.mem_map.1 worked
  cases r with
  | ok o => exact ⟨o, hmem⟩
  | error e =>
    rw [outcome] at fine
    split at fine
    next none =>
      rw [Aggregate.isEmpty, List.isEmpty_iff, failures, List.flatMap_eq_nil_iff] at none
      exact absurd (List.map_eq_nil_iff.1 (none _ hmem)) ((h.settled _ _ hmem).named e rfl)
    next => cases fine

/-- Without other faults, the failures are those of the broken namespaces. -/
theorem Covered.failures_eq (h : Covered p s results t) (lists : s.listsFail = false)
    (calm : s.pendingConflicts = 0)
    (complete : results.map (·.1) = s.targets p.spec.namespaceSelector) :
    (failures results).entries = s.report p := by
  -- What a namespace adds depends on its name alone.
  have each : ∀ x ∈ results, (reported x.2).map (Aggregate.about ("namespace " ++ x.1)) =
      if s.failingNamespaces.contains x.1 then
        (s.refusals p x.1).map (Aggregate.about ("namespace " ++ x.1)) else [] := by
    rintro ⟨n, r⟩ hmem
    have settled := h.settled n r hmem
    by_cases broken : n ∈ s.failingNamespaces
    · rw [settled.refused broken lists, if_pos (List.contains_iff_mem.2 broken)]
    · obtain ⟨o, rfl⟩ := settled.spared broken lists calm
      rw [if_neg fun contained => broken (List.contains_iff_mem.1 contained)]
      rfl
  rw [Cluster.report, ← complete]
  -- The induction is on the results, so nothing may be left that speaks of all of them.
  clear h complete
  induction results with
  | nil => rfl
  | cons x rest ih =>
    have head := each x List.mem_cons_self
    have tail := ih fun y hy => each y (List.mem_cons_of_mem x hy)
    rw [failures_cons, head, tail, List.map_cons, List.filter_cons]
    split
    · rw [List.flatMap_cons]
    · rw [List.nil_append]

section Converging

variable {r : Except ReconcileError Summary}

/-- Nothing but secrets and accounts changes. -/
theorem Converging.worked (h : Converging p s r t) : s.Worked t := by
  cases h with
  | unresolved => exact .refl s
  | covered complete covered => exact covered.worked

/-- Success means that every target has been converged. -/
theorem Converging.converged {summary : Summary} (h : Converging p s (.ok summary) t)
    (target : n ∈ s.targets p.spec.namespaceSelector) : p.Converged n s t := by
  generalize fine : Except.ok summary = r at h
  cases h with
  | unresolved => cases fine
  | covered complete covered =>
    obtain ⟨o, hmem⟩ := covered.exists_ok fine.symm (complete ▸ target)
    exact (covered.settled n _ hmem).converged o rfl

/-- A namespace in which writes fail is left as it was. -/
theorem Converging.unchanged (h : Converging p s r t) (broken : n ∈ s.failingNamespaces) :
    s.SameIn n t := by
  cases h with
  | unresolved => exact .refl n s
  | @covered results _ complete covered =>
    by_cases worked : n ∈ results.map (·.1)
    · obtain ⟨⟨_, r⟩, hmem, rfl⟩ := List.mem_map.1 worked
      exact (covered.settled _ r hmem).unchanged broken
    · exact covered.others n worked

/-- Without other faults every target is converged in which writes succeed, and the failures are
those of the other targets. -/
theorem Converging.of_calm (h : Converging p s r t)
    (valid : LabelSelector.Valid p.spec.namespaceSelector) (lists : s.listsFail = false)
    (calm : s.pendingConflicts = 0) :
    (∀ n ∈ s.targets p.spec.namespaceSelector, n ∉ s.failingNamespaces → p.Converged n s t) ∧
      ((∃ summary, r = .ok summary ∧ s.report p = []) ∨
        (r = .error (.several ⟨s.report p⟩) ∧ s.report p ≠ [])) := by
  cases h with
  | unresolved reason =>
    rcases reason with fails | invalid
    · rw [lists] at fails
      cases fails
    · exact absurd valid invalid
  | @covered results _ complete covered =>
    have entries := covered.failures_eq lists calm complete
    constructor
    · intro n target spared
      obtain ⟨⟨_, r⟩, hmem, rfl⟩ := List.mem_map.1 (complete ▸ target)
      have settled := covered.settled _ r hmem
      obtain ⟨o, rfl⟩ := settled.spared spared lists calm
      exact settled.converged o rfl
    · unfold outcome
      split
      next none =>
        rw [Aggregate.isEmpty, List.isEmpty_iff, entries] at none
        exact .inl ⟨_, rfl, none⟩
      next some =>
        rw [Aggregate.isEmpty, List.isEmpty_iff, entries] at some
        exact .inr ⟨by rw [← entries], some⟩

end Converging

end All

end Reconcile

end PullSecrets
