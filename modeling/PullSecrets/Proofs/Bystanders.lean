import PullSecrets.Proofs.Cleanup
import PullSecrets.Proofs.Quiescence

/-!
# What a deletion does to other pullers

All pullers bind accounts to a secret of the same name, and cleaning up after one of them unbinds
every account of the cluster. So the deletion of a puller unbinds the accounts of the others as
well, whatever their selectors choose. It touches nothing else of theirs, and the next reconcile of
another puller that succeeds binds its accounts again.

## Main facts

* `ServiceAccount.Loosened`: all that happens to an account.
* `Reconcile.loosened_of_reconcile`: what a deletion leaves behind, and how the others recover.
* `Reconcile.stripped_of_reconcile`: two pullers of which one strips the accounts of the other.
-/

namespace PullSecrets

open Program (ask Ends Leads)

/-! ## Accounts -/

/-- The second account is the first one, or the first one without the first occurrence of the secret
in its list, up to its version. -/
inductive ServiceAccount.Loosened (a : ServiceAccount) : ServiceAccount → Prop
  | same : Loosened a a
  | erased (version : String) (bound : a.references Names.secret = true) :
    Loosened a ((a.withPullSecrets (a.pullSecretList.erase Names.secret)).stamp version)

theorem ServiceAccount.rel_loosened (o : Option ServiceAccount) : Option.Rel Loosened o o := by
  cases o with
  | none => exact .none
  | some a => exact .some .same

/-- Unbinding loosens accounts, whether all of them could be written or not. -/
theorem Binding.Swept.loosened {s t : Cluster} {results : List (ObjectKey × Except StoreError Bool)}
    (h : Swept (removed Names.secret) s results t) (key : ObjectKey) :
    Option.Rel ServiceAccount.Loosened (s.serviceAccounts.get? key)
      (t.serviceAccounts.get? key) := by
  refine h.rel (fun _ => .same) (fun a names version asked => ?_) key
  unfold removed at asked
  split at asked
  next bound =>
    cases asked
    exact .erased version (ServiceAccount.references_iff.2 bound)
  next => cases asked

namespace Reconcile

variable {policy : RetryPolicy} {config : Config} {p q : Puller} {name other : String}
  {s t : Cluster}

/-! ## The cluster -/

/-- Nothing differs but one puller and the lists of accounts, from which the secret may have been
taken once. -/
structure Bypassed (p : Puller) (s t : Cluster) : Prop where
  namespaces : t.namespaces = s.namespaces
  secrets : t.secrets = s.secrets
  pullers : ∀ other, other ≠ p.name → t.pullers.get? other = s.pullers.get? other
  accounts : ∀ key, Option.Rel ServiceAccount.Loosened (s.serviceAccounts.get? key)
    (t.serviceAccounts.get? key)
  faulty : ∀ key, s.listsFail = true ∨ key.inNamespace ∈ s.failingNamespaces →
    t.serviceAccounts.get? key = s.serviceAccounts.get? key

/-- Cleaning up after a stored puller, whether it succeeds or not. -/
theorem cleanup_bypassed (filed : s.Filed) (stored : s.pullers.get? p.name = some p) :
    (cleanup policy p).Ends (fun _ t => Bypassed p s t) s := by
  unfold cleanup
  refine Program.leads_bind.2 ((Binding.unbindAll_ends filed).mono ?_)
  rintro r u (⟨-, rfl, e, rfl⟩ | ⟨lists, results, -, swept, rfl⟩)
  · exact ⟨rfl, rfl, fun _ _ => rfl, fun _ => ServiceAccount.rel_loosened _, fun _ _ => rfl⟩
  · have unbound : Bypassed p s u := by
      refine ⟨swept.rest.namespaces, swept.rest.secrets, fun _ _ => by rw [swept.rest.pullers],
        swept.loosened, ?_⟩
      rintro key (fails | broken)
      · exact absurd (lists.symm.trans fails) Bool.false_ne_true
      · exact swept.get?_of_broken broken
    cases Binding.outcome results with
    | error e => exact unbound
    | ok n =>
      have stored : u.pullers.get? p.name = some p := by
        rw [swept.rest.pullers]
        exact stored
      refine Program.leads_bind.2 (Program.leads_bind.2 (Program.leads_liftM.2
        ((Finalizer.release_ends stored).mono ?_)))
      rintro r t ⟨tended, others, -⟩
      have released : Bypassed p s t := by
        refine ⟨tended.namespaces.trans unbound.namespaces, tended.secrets.trans unbound.secrets,
          fun other hother => (others other hother).trans (unbound.pullers other hother), ?_, ?_⟩
        · rw [tended.serviceAccounts]
          exact unbound.accounts
        · rw [tended.serviceAccounts]
          exact unbound.faulty
      cases r with
      | error e => exact released
      | ok a => exact released

/-- The reconcile of a stored puller that is to be deleted, whether it succeeds or not. -/
theorem reconcile_bypassed (filed : s.Filed) (stored : s.pullers.get? name = some p)
    (terminating : p.metadata.isTerminating = true) :
    (reconcile config name).Ends (fun _ t => Bypassed p s t) s := by
  obtain rfl : p.name = name := filed.pullers name p stored
  exact leads_reconcile_of_terminating stored terminating trivial (cleanup_bypassed filed stored)

/-- A converged namespace has all its accounts bound. -/
theorem references_of_converged {n account : String} {b : ServiceAccount}
    (h : p.Converged n s t) (stored : t.serviceAccounts.get? ⟨n, account⟩ = some b) :
    b.references Names.secret = true := by
  have lists := h.accounts account
  rw [stored, Option.map_some, eq_comm, Option.map_eq_some_iff] at lists
  obtain ⟨a, -, names⟩ := lists
  rw [ServiceAccount.references_iff, ← names]
  split
  next bound => exact bound
  next => simp

/-- A reconcile of a live puller that succeeds binds every account in the chosen namespaces. -/
theorem references_of_reconcile {σ : Type} (w : Surroundings σ) (config : Config) {x : σ}
    (filed : (w.cluster x).Filed) (stored : (w.cluster x).pullers.get? name = some p)
    (live : p.metadata.isTerminating = false) {action : Action}
    (fine : ((reconcile config name).run w.toHandler x).1 = .ok action) {n account : String}
    {ns : Namespace} {b : ServiceAccount} :
    let t := w.cluster ((reconcile config name).run w.toHandler x).2
    t.namespaces.get? n = some ns → ns.isChosen p.spec.namespaceSelector = true →
      t.serviceAccounts.get? ⟨n, account⟩ = some b → b.references Names.secret = true := by
  intro t there chosen found
  have reconciled : Reconciled config p (w.cluster x) _ t :=
    (reconcile_ends_of_live filed stored live).run
  obtain ⟨-, -, converged⟩ := reconciled.converged action fine
  rw [reconciled.rest.namespaces] at there
  exact references_of_converged (converged n (Cluster.mem_targets.2 ⟨ns, there, chosen⟩)) found

/-- The reconcile of a puller that is to be deleted leaves other pullers and all secrets alone,
whatever comes out of it. From the list of an account it takes the secret once at most, and never
where faults are in the way; when it succeeds, it has done so wherever it could. The next reconcile
of another live puller that succeeds binds every account in the chosen namespaces again. -/
theorem loosened_of_reconcile {σ : Type} (w : Surroundings σ) (config : Config) {x : σ}
    (reachable : Reachable (w.cluster x)) (stored : (w.cluster x).pullers.get? name = some p)
    (terminating : p.metadata.isTerminating = true)
    (stored' : (w.cluster x).pullers.get? other = some q)
    (live : q.metadata.isTerminating = false) :
    let s := w.cluster x
    let r := (reconcile config name).run w.toHandler x
    let t := w.cluster r.2
    t.secrets = s.secrets ∧ t.namespaces = s.namespaces ∧ t.pullers.get? other = some q ∧
      (∀ key, Option.Rel ServiceAccount.Loosened (s.serviceAccounts.get? key)
        (t.serviceAccounts.get? key)) ∧
      (∀ key, s.listsFail = true ∨ key.inNamespace ∈ s.failingNamespaces →
        t.serviceAccounts.get? key = s.serviceAccounts.get? key) ∧
      (∀ action, r.1 = .ok action → ∀ key a, s.serviceAccounts.get? key = some a →
        ∃ b, t.serviceAccounts.get? key = some b ∧
          (b.references Names.secret = true ↔ 2 ≤ a.pullSecretList.count Names.secret)) ∧
      ∀ {σ' : Type} (w' : Surroundings σ') (config' : Config) (y : σ') (action : Action),
        w'.cluster y = t → ((reconcile config' other).run w'.toHandler y).1 = .ok action →
        let u := w'.cluster ((reconcile config' other).run w'.toHandler y).2
        ∀ n ns account b, u.namespaces.get? n = some ns →
          ns.isChosen q.spec.namespaceSelector = true →
          u.serviceAccounts.get? ⟨n, account⟩ = some b → b.references Names.secret = true := by
  intro s r t
  have filed := reachable.filed
  have different : other ≠ p.name := by
    rintro rfl
    rw [filed.pullers name p stored, stored] at stored'
    cases stored'
    rw [terminating] at live
    cases live
  have ended := ((reconcile_bypassed filed stored terminating).and
    (reconcile_ends_of_terminating config filed stored terminating)).run (w := w)
  obtain ⟨bypassed, cleaned⟩ := ended
  have kept : t.pullers.get? other = some q := (bypassed.pullers other different).trans stored'
  refine ⟨bypassed.secrets, bypassed.namespaces, kept, bypassed.accounts, bypassed.faulty,
    fun action fine key a hkey => (cleaned action fine).1.references_iff hkey, ?_⟩
  intro σ' w' config' y action same fine u n ns account b
  have filed' : (w'.cluster y).Filed := same ▸ (Program.reachable_run w _ reachable).filed
  exact references_of_reconcile w' config' filed' (same ▸ kept) live fine

/-! ## Two teams -/

/-- The cluster of two teams after both pullers were reconciled and the deletion of the first one
was asked for. -/
def parting : Cluster :=
  ((turns (Cluster.alone "").toHandler {} ["creds1", "creds2"] teams).change
    (.deletePuller "creds1" ⟨0, false⟩)).2

/-- Reconciles lead to clusters that can be reached. -/
theorem reachable_turns (time : String) (config : Config) (names : List String) {s : Cluster}
    (h : Reachable s) : Reachable (turns (Cluster.alone time).toHandler config names s) := by
  induction names generalizing s with
  | nil => exact h
  | cons name names ih =>
    exact ih (Program.reachable_run (Cluster.alone time) (reconcile config name) h)

theorem reachable_parting : Reachable parting :=
  .change (reachable_turns "" {} _ (Reachable.empty.changes _)) _

/-- The pullers of two teams: whether they are to be deleted, and their targets. -/
theorem pullers_parting :
    (∃ p, parting.pullers.get? "creds1" = some p ∧ p.metadata.isTerminating = true ∧
      parting.targets p.spec.namespaceSelector = ["default"]) ∧
    ∃ q, parting.pullers.get? "creds2" = some q ∧ q.metadata.isTerminating = false ∧
      parting.targets q.spec.namespaceSelector = ["kube-system"] := by
  have seen : (parting.pullers.get? "creds1").map (fun p =>
        (p.metadata.isTerminating, parting.targets p.spec.namespaceSelector)) =
          some (true, ["default"]) ∧
      (parting.pullers.get? "creds2").map (fun q =>
        (q.metadata.isTerminating, parting.targets q.spec.namespaceSelector)) =
          some (false, ["kube-system"]) := by decide +kernel
  obtain ⟨p, stored, first⟩ := Option.map_eq_some_iff.1 seen.1
  obtain ⟨q, stored', second⟩ := Option.map_eq_some_iff.1 seen.2
  exact ⟨⟨p, stored, (Prod.mk.inj first).1, (Prod.mk.inj first).2⟩,
    q, stored', (Prod.mk.inj second).1, (Prod.mk.inj second).2⟩

/-- The deletion of the first puller leaves the second one and all secrets alone, and the next
reconcile of the second one binds its account again. -/
theorem loosened_of_reconcile_parting :
    let h := (Cluster.alone "").toHandler
    let t := ((reconcile {} "creds1").run h parting).2
    let u := ((reconcile {} "creds2").run h t).2
    t.secrets = parting.secrets ∧ t.pullers.get? "creds2" = parting.pullers.get? "creds2" ∧
      (∀ key, Option.Rel ServiceAccount.Loosened (parting.serviceAccounts.get? key)
        (t.serviceAccounts.get? key)) ∧
      ∀ b, u.serviceAccounts.get? ⟨"kube-system", "default"⟩ = some b →
        b.references Names.secret = true := by
  dsimp only
  have seen : ((reconcile {} "creds2").run (Cluster.alone "").toHandler
        ((reconcile {} "creds1").run (Cluster.alone "").toHandler parting).2).1.toOption =
          some (.requeue 600) ∧
      (((reconcile {} "creds2").run (Cluster.alone "").toHandler
        ((reconcile {} "creds1").run (Cluster.alone "").toHandler parting).2).2.namespaces.get?
          "kube-system").map (fun ns => (parting.pullers.get? "creds2").map fun q =>
            ns.isChosen q.spec.namespaceSelector) = some (some true) := by decide +kernel
  obtain ⟨fine, there⟩ := seen
  have reachable := reachable_parting
  obtain ⟨⟨p, stored, terminating, -⟩, q, stored', live, -⟩ := pullers_parting
  -- No more is evaluated from here on.
  generalize parting = s at *
  obtain ⟨ns, hns, chosen⟩ := Option.map_eq_some_iff.1 there
  rw [stored', Option.map_some, Option.some.injEq] at chosen
  obtain ⟨secrets, -, kept, accounts, -, -, recovered⟩ :=
    loosened_of_reconcile (Cluster.alone "") {} (x := s) reachable stored terminating stored' live
  exact ⟨secrets, kept.trans stored'.symm, accounts, fun b found =>
    recovered (Cluster.alone "") {} _ _ rfl (eq_ok_of_toOption fine) "kube-system" ns "default" b
      hns chosen found⟩

/-- The pullers of two teams choose different namespaces, and the last reconcile of each has
succeeded. The deletion of the first one strips the account of the other. -/
theorem stripped_of_reconcile :
    let h := (Cluster.alone "").toHandler
    let r := (reconcile {} "creds1").run h parting
    Reachable parting ∧
      ((reconcile {} "creds2").run h (turns h {} ["creds1"] teams)).1 = .ok (.requeue 600) ∧
      (∃ p, parting.pullers.get? "creds1" = some p ∧ p.metadata.isTerminating = true ∧
        parting.targets p.spec.namespaceSelector = ["default"]) ∧
      (∃ q, parting.pullers.get? "creds2" = some q ∧ q.metadata.isTerminating = false ∧
        parting.targets q.spec.namespaceSelector = ["kube-system"]) ∧
      (∃ a, parting.serviceAccounts.get? ⟨"kube-system", "default"⟩ = some a ∧
        a.references Names.secret = true) ∧
      ∃ a, r.2.serviceAccounts.get? ⟨"kube-system", "default"⟩ = some a ∧
        a.references Names.secret = false := by
  intro h r
  have fine : ((reconcile {} "creds2").run h (turns h {} ["creds1"] teams)).1.toOption =
      some (.requeue 600) := by decide +kernel
  have seen : (parting.serviceAccounts.get? ⟨"kube-system", "default"⟩).map
        (·.references Names.secret) = some true ∧
      (r.2.serviceAccounts.get? ⟨"kube-system", "default"⟩).map
        (·.references Names.secret) = some false := by decide +kernel
  obtain ⟨before, after⟩ := seen
  exact ⟨reachable_parting, eq_ok_of_toOption fine, pullers_parting.1, pullers_parting.2,
    Option.map_eq_some_iff.1 before, Option.map_eq_some_iff.1 after⟩

end Reconcile

end PullSecrets
