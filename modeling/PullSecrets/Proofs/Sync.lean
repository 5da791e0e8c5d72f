import PullSecrets.Proofs.Namespaces
import PullSecrets.Proofs.Pullers

/-!
# Reconciling a live puller

A live puller is guarded, its targets are worked on, and the outcome is reported in its status.
Guarding and reporting touch pullers alone, so what has become of the targets is settled by the
cluster from which the reconcile started.

## Main facts

* `Reconcile.reconcile_ends_of_live`: how the reconcile of a live puller ends.
* `Reconcile.converged_of_reconcile`: a reconcile that succeeds has converged every target.
* `Reconcile.isolated_and_recovered`: failing namespaces neither disturb the others nor stay
  behind once their writes succeed again.
-/

namespace PullSecrets

open Cluster (Persisted Alike)
open Program (ask Ends Leads)

/-! ## Steps that touch pullers alone -/

section Tended

variable {p q : Puller} {n : String} {s s' t t' : Cluster}

/-- No namespace is affected by writes of pullers. -/
theorem Cluster.Tended.sameIn (h : s.Tended t) (n : String) : s.SameIn n t :=
  ⟨fun _ _ => by rw [h.secrets], fun _ _ => by rw [h.serviceAccounts]⟩

theorem Cluster.targets_congr (selector : Option LabelSelector)
    (same : t.namespaces = s.namespaces) : t.targets selector = s.targets selector := by
  rw [targets, targets, same]

/-- What is reported is settled by the objects, the faults, and what the puller wants. -/
theorem Cluster.Tended.report_eq (h : s.Tended t) (akin : p.Akin q) : t.report q = s.report p := by
  have refusals (n : String) : t.refusals q n = s.refusals p n := by
    rw [(h.sameIn n).refusals_eq, refusals, refusals, akin.wanted_eq]
  have targets := targets_congr (s := s) (t := t) p.spec.namespaceSelector h.namespaces
  have broken : t.failingNamespaces = s.failingNamespaces := h.failingNamespaces
  rw [report, report, akin.spec, targets, broken]
  simp only [refusals]

/-- A namespace is converged for all pullers that want the same, wherever its objects are the
same. -/
theorem Puller.Converged.congr (h : q.Converged n s t) (akin : p.Akin q) (before : s'.SameIn n s)
    (after : t.SameIn n t') : p.Converged n s' t' := by
  obtain ⟨⟨x, hx, carries⟩, accounts⟩ := h
  refine ⟨⟨x, (after.secrets _ rfl).trans hx, akin.carries_iff.1 carries⟩, fun name => ?_⟩
  rw [after.accounts _ rfl, ← before.accounts _ rfl]
  exact accounts name

/-- Converging a namespace once more changes nothing that matters. -/
theorem Puller.Converged.trans {u : Cluster} (h : p.Converged n s t) (again : p.Converged n t u) :
    p.Converged n s u := by
  refine ⟨again.secret, fun name => ?_⟩
  rw [again.accounts name]
  have before := h.accounts name
  cases stored : s.serviceAccounts.get? ⟨n, name⟩ with
  | none =>
    rw [stored, Option.map_none, Option.map_eq_none_iff] at before
    rw [before]
  | some a =>
    rw [stored, Option.map_some, Option.map_eq_some_iff] at before
    obtain ⟨b, found, names⟩ := before
    rw [found, Option.map_some, Option.map_some, names]
    -- An account that was bound in `t` keeps its list, whether it was bound in `s` or not.
    have bound : Names.secret ∈ (if Names.secret ∈ a.pullSecretList then a.pullSecretList
        else a.pullSecretList ++ [Names.secret]) := by
      split
      next there => exact there
      next => simp
    rw [if_pos bound]

end Tended

namespace Reconcile

section Live

variable {policy : RetryPolicy} {p : Puller} {name : String} {s t : Cluster}

/-! ## Working and reporting -/

/-- The failure that is reported about a result. -/
def failure? : Except ReconcileError Summary → Option String
  | .ok _ => none
  | .error e => some e.message

/-- Working on the targets, and reporting how that ended, whatever the clock says. -/
theorem leads_sync {σ : Type} {h : Handler σ} {each : σ → Call → Prop}
    {ends : Except ReconcileError Summary → σ → Prop} {x : σ}
    (led : (converge policy p).Leads h each (fun r u => ∀ readyTime errorTime,
      (Report.update policy p (Report.status p.status (failure? r) readyTime errorTime)).Leads
        h each (fun b t => match b with
          | .ok _ => ends r t
          | .error e => ends (.error (.store e)) t) u) x) :
    (sync policy p).Leads h each ends x := by
  unfold sync Report.statusNow
  refine Program.leads_bind.2 (Program.leads_attempt.2 (led.mono fun r u reporting => ?_))
  -- The clock is read twice for the status.
  refine Program.leads_bind.2 (Program.leads_bind.2 fun readyTime =>
    Program.leads_bind.2 fun errorTime => ?_)
  refine Program.leads_bind.2 (Program.leads_liftM.2 ((reporting readyTime errorTime).mono ?_))
  rintro (e | b) t ended
  · exact ended
  · exact Program.leads_ofExcept.2 ended

/-- Working on the targets of a stored puller, and reporting how that ended. -/
theorem sync_ends (filed : s.Filed) (stored : s.pullers.get? p.name = some p) :
    (sync policy p).Ends (fun r t => ∃ r' u, Converging p s r' u ∧ u.Tended t ∧
      (∃ q, t.pullers.get? p.name = some q ∧ q.hasFinalizer = p.hasFinalizer ∧ p.Akin q) ∧
      (∀ summary, r = .ok summary → r' = .ok summary) ∧ (s.pendingConflicts = 0 → r = r')) s := by
  refine leads_sync ((converge_ends filed).mono ?_)
  intro r' u converging readyTime errorTime
  have stored : u.pullers.get? p.name = some p := by
    rw [converging.worked.pullers]
    exact stored
  have calm_u : s.pendingConflicts = 0 → u.pendingConflicts = 0 := fun calm =>
    Nat.le_zero.1 (calm ▸ converging.worked.pendingConflicts)
  refine (Report.update_ends stored _).mono ?_
  rintro (e | b) t ⟨tended, kept, written⟩
  · refine ⟨r', u, converging, tended, kept, ?_, ?_⟩
    · intro _ h
      cases h
    · intro calm
      obtain ⟨b, hb⟩ := written (calm_u calm)
      cases hb
  · exact ⟨r', u, converging, tended, kept, fun _ h => h, fun _ => rfl⟩

/-! ## The whole reconcile -/

/-- How the reconcile of a live puller ends. -/
structure Reconciled (config : Config) (p : Puller) (s : Cluster)
    (r : Except ReconcileError Action) (t : Cluster) : Prop where
  rest : Alike { s with
    pullers := t.pullers, secrets := t.secrets, serviceAccounts := t.serviceAccounts } t
  converged : ∀ action, r = .ok action → action = .requeue config.resyncSeconds ∧
    (∃ q, t.pullers.get? p.name = some q ∧ q.hasFinalizer = true) ∧
    ∀ n ∈ s.targets p.spec.namespaceSelector, p.Converged n s t
  unchanged : ∀ n ∈ s.failingNamespaces, s.SameIn n t
  calm : LabelSelector.Valid p.spec.namespaceSelector → s.listsFail = false →
    s.pendingConflicts = 0 →
    (∃ q, t.pullers.get? p.name = some q ∧ p.Akin q) ∧
    (∀ n ∈ s.targets p.spec.namespaceSelector, n ∉ s.failingNamespaces → p.Converged n s t) ∧
    r = if s.report p = [] then .ok (.requeue config.resyncSeconds)
      else .error (.several ⟨s.report p⟩)

/-- The reconcile of a live puller that could not be guarded has changed nothing. -/
theorem reconciled_of_unguarded {e : StoreError} (tended : s.Tended t)
    (conflicts : s.pendingConflicts = 0 → False) : Reconciled config p s (.error (.store e)) t where
  rest := ⟨rfl, tended.namespaces, rfl, rfl, tended.listsFail, tended.failingNamespaces,
    tended.pendingConflicts⟩
  converged := fun _ h => by cases h
  unchanged := fun n _ => tended.sameIn n
  calm := fun _ _ calm => absurd calm conflicts

/-- A puller that was guarded, and whose targets were worked on and reported about. -/
theorem reconciled_of_synced {q q' : Puller} {u v : Cluster} {r : Except ReconcileError Summary}
    {r' : Except ReconcileError Action} (guarded : s.Tended u) (akin : p.Akin q)
    (has : q.hasFinalizer = true) (converging : Converging q u r v) (tended : v.Tended t)
    (stored : t.pullers.get? p.name = some q') (kept : q'.hasFinalizer = q.hasFinalizer)
    (akin' : q.Akin q')
    (ok : ∀ action, r' = .ok action →
      action = .requeue config.resyncSeconds ∧ ∃ summary, r = .ok summary)
    (same : s.pendingConflicts = 0 → r' = r.map fun _ => .requeue config.resyncSeconds) :
    Reconciled config p s r' t := by
  have targets : u.targets q.spec.namespaceSelector = s.targets p.spec.namespaceSelector := by
    rw [akin.spec]
    exact Cluster.targets_congr _ guarded.namespaces
  have broken : u.failingNamespaces = s.failingNamespaces := guarded.failingNamespaces
  have back {n : String} (h : q.Converged n u v) : p.Converged n s t :=
    h.congr akin (guarded.sameIn n) (tended.sameIn n)
  have worked := converging.worked
  refine ⟨⟨rfl, ?_, rfl, rfl, ?_, ?_, ?_⟩, ?_, ?_, ?_⟩
  · exact tended.namespaces.trans (worked.namespaces.trans guarded.namespaces)
  · exact tended.listsFail.trans (worked.listsFail.trans guarded.listsFail)
  · exact tended.failingNamespaces.trans (worked.failingNamespaces.trans broken)
  · exact Nat.le_trans tended.pendingConflicts
      (Nat.le_trans worked.pendingConflicts guarded.pendingConflicts)
  · intro action haction
    obtain ⟨requeued, summary, rfl⟩ := ok action haction
    refine ⟨requeued, ⟨q', stored, kept.trans has⟩, fun n target => ?_⟩
    exact back (converging.converged (targets ▸ target))
  · intro n hn
    have unchanged := converging.unchanged (n := n) (broken ▸ hn)
    exact ((guarded.sameIn n).trans unchanged).trans (tended.sameIn n)
  · intro valid lists calm
    obtain ⟨isolated, result⟩ := converging.of_calm (akin.spec ▸ valid)
      (guarded.listsFail.trans lists) (Nat.le_zero.1 (calm ▸ guarded.pendingConflicts))
    refine ⟨⟨q', stored, akin.trans akin'⟩, ?_, ?_⟩
    · intro n target spared
      exact back (isolated n (targets ▸ target) (broken ▸ spared))
    · rw [same calm, ← guarded.report_eq akin]
      rcases result with ⟨summary, rfl, none⟩ | ⟨rfl, some⟩
      · rw [if_pos none]
        rfl
      · rw [if_neg some]
        rfl

/-- Reconciling a live puller is guarding it, and working and reporting, whatever it is run
against, as long as notes are not kept. -/
theorem leads_reconcile_of_found {σ : Type} {h : Handler σ} {each : σ → Call → Prop}
    {ends : Except ReconcileError Action → σ → Prop} {x : σ} (noted : ∀ n y, h.note n y = y)
    (found : h.call (.getPuller name) x = (.ok (some p), x))
    (live : p.metadata.isTerminating = false) (asked : each x (.getPuller name))
    (led : (Finalizer.ensure config.retryPolicy p).Leads h each (fun r u => match r with
      | .ok q => (sync config.retryPolicy q).Leads h each
          (fun r t => ends (r.map fun _ => .requeue config.resyncSeconds) t) u
      | .error e => ends (.error (.store e)) u) x) :
    (reconcile config name).Leads h each ends x := by
  unfold reconcile
  refine Program.leads_bind.2 ?_
  rw [Program.leads_leave, noted]
  refine Program.leads_bind.2 (Program.leads_attempt.2 ?_)
  suffices steps : (steps config name).Leads h each ends x by
    refine steps.mono fun r t ended => Program.leads_bind.2 ?_
    rw [Program.leads_leave, noted]
    exact Program.leads_ofExcept.2 ended
  unfold steps
  refine (Program.leads_liftM_ask_ok found).2 ⟨asked, ?_⟩
  simp only [live, Bool.false_eq_true, if_false]
  refine Program.leads_bind.2 (Program.leads_liftM.2 (led.mono ?_))
  rintro (e | q) u guarding
  · exact guarding
  · refine Program.leads_bind.2 (Leads.mono guarding ?_)
    rintro (e | summary) t ended
    · exact ended
    · refine Program.leads_bind.2 ?_
      rw [Program.leads_leave, noted]
      exact ended

/-- Reconciling a live puller that is stored. -/
theorem leads_reconcile_of_live {each : Cluster → Call → Prop}
    {ends : Except ReconcileError Action → Cluster → Prop}
    (stored : s.pullers.get? name = some p) (live : p.metadata.isTerminating = false)
    (asked : each s (.getPuller name))
    (h : (Finalizer.ensure config.retryPolicy p).Leads Cluster.handler each (fun r u => match r with
      | .ok q => (sync config.retryPolicy q).Leads Cluster.handler each
          (fun r t => ends (r.map fun _ => .requeue config.resyncSeconds) t) u
      | .error e => ends (.error (.store e)) u) s) :
    (reconcile config name).Leads Cluster.handler each ends s :=
  leads_reconcile_of_found (fun _ _ => rfl) (by rw [← stored]; rfl) live asked h

/-- The reconcile of a stored puller that is not to be deleted. -/
theorem reconcile_ends_of_live (filed : s.Filed) (stored : s.pullers.get? name = some p)
    (live : p.metadata.isTerminating = false) :
    (reconcile config name).Ends (Reconciled config p s) s := by
  obtain rfl : p.name = name := filed.pullers name p stored
  refine leads_reconcile_of_live stored live trivial
    (((Finalizer.ensure_ends stored).and (Program.ends_filed _ filed)).mono ?_)
  rintro (e | q) u ⟨⟨guarded, ok, calm⟩, filed_u⟩
  · refine reconciled_of_unguarded guarded fun quiet => ?_
    obtain ⟨q, hq⟩ := calm quiet
    cases hq
  · obtain ⟨stored_u, has, akin⟩ := ok q rfl
    rw [← akin.name_eq] at stored_u
    refine (sync_ends filed_u stored_u).mono ?_
    rintro r t ⟨r', v, converging, tended, ⟨q', stored_t, kept, akin'⟩, fine, same⟩
    rw [akin.name_eq] at stored_t
    have quiet : s.pendingConflicts = 0 → u.pendingConflicts = 0 := fun calm =>
      Nat.le_zero.1 (calm ▸ guarded.pendingConflicts)
    refine reconciled_of_synced guarded akin has converging tended stored_t kept akin' ?_ ?_
    · intro action haction
      cases r with
      | error e => cases haction
      | ok summary =>
        cases haction
        exact ⟨rfl, summary, fine summary rfl⟩
    · intro calm
      rw [← same (quiet calm)]

/-! ## Convergence and recovery -/

/-- A reconcile that succeeds has guarded the puller, and has converged every namespace that its
selector chooses. -/
theorem converged_of_reconcile {σ : Type} (w : Surroundings σ) (config : Config) {x : σ}
    {action : Action} (reachable : Reachable (w.cluster x))
    (stored : (w.cluster x).pullers.get? name = some p)
    (live : p.metadata.isTerminating = false)
    (fine : ((reconcile config name).run w.toHandler x).1 = .ok action) :
    let t := w.cluster ((reconcile config name).run w.toHandler x).2
    (∃ q, t.pullers.get? name = some q ∧ q.hasFinalizer = true) ∧
      ∀ n ns, t.namespaces.get? n = some ns → ns.isChosen p.spec.namespaceSelector = true →
        p.Converged n (w.cluster x) t := by
  intro t
  have named : p.name = name := reachable.filed.pullers name p stored
  have ended : Reconciled config p (w.cluster x) _ t :=
    (reconcile_ends_of_live reachable.filed stored live).run
  obtain ⟨-, guarded, converged⟩ := ended.converged action fine
  refine ⟨named ▸ guarded, ?_⟩
  intro n ns there chosen
  rw [ended.rest.namespaces] at there
  exact converged n (Cluster.mem_targets.2 ⟨ns, there, chosen⟩)

/-- The puller of the small cluster is guarded, and converged in a namespace. -/
theorem converged_of_reconcile_sample :
    let t := ((reconcile {} "creds1").run (Cluster.alone "").toHandler .sample).2
    (∃ q, t.pullers.get? "creds1" = some q ∧ q.hasFinalizer = true) ∧
      Puller.sample.Converged "kube-system" .sample t := by
  have stored : Cluster.sample.pullers.get? "creds1" = some .sample := by decide +kernel
  have fine : ((reconcile {} "creds1").run (Cluster.alone "").toHandler .sample).1.toOption =
      some (.requeue 600) := by decide +kernel
  have there : (((reconcile {} "creds1").run (Cluster.alone "").toHandler
      .sample).2.namespaces.get? "kube-system").isSome = true := by decide +kernel
  obtain ⟨ns, hns⟩ := Option.isSome_iff_exists.1 there
  have ended := converged_of_reconcile (p := .sample) (Cluster.alone "") {} (x := .sample)
    Cluster.reachable_sample stored rfl (eq_ok_of_toOption fine)
  exact ⟨ended.1, ended.2 "kube-system" ns hns rfl⟩

/-- Without other faults, namespaces in which writes fail do not keep the other targets from being
converged, and they are left as they were. Each failure is reported once. When their writes
succeed again, one more reconcile converges them too. -/
theorem isolated_and_recovered {σ : Type} (w : Surroundings σ) (config : Config) {x : σ}
    (reachable : Reachable (w.cluster x)) (lists : (w.cluster x).listsFail = false)
    (calm : (w.cluster x).pendingConflicts = 0)
    (stored : (w.cluster x).pullers.get? name = some p)
    (live : p.metadata.isTerminating = false)
    (valid : LabelSelector.Valid p.spec.namespaceSelector) :
    let s := w.cluster x
    let targets := s.targets p.spec.namespaceSelector
    let r := ((reconcile config name).run w.toHandler x).1
    let t := w.cluster ((reconcile config name).run w.toHandler x).2
    (∀ n ∈ targets, n ∉ s.failingNamespaces → p.Converged n s t) ∧
      (∀ n ∈ s.failingNamespaces, s.SameIn n t) ∧
      ((∃ e, r = .error e) ↔ ∃ n ∈ targets, n ∈ s.failingNamespaces ∧ s.Behind p n) ∧
      (∀ e, r = .error e → e = .several ⟨s.report p⟩) ∧
      ∀ {τ : Type} (w' : Surroundings τ) (config' : Config) (y : τ),
        w'.cluster y = t.heal s.failingNamespaces →
        ((reconcile config' name).run w'.toHandler y).1 = .ok (.requeue config'.resyncSeconds) ∧
          ∀ n ∈ targets,
            p.Converged n s (w'.cluster ((reconcile config' name).run w'.toHandler y).2) := by
  intro s targets r t
  have named : p.name = name := reachable.filed.pullers name p stored
  have ended : Reconciled config p s r t :=
    (reconcile_ends_of_live reachable.filed stored live).run
  obtain ⟨⟨q, stored_t, akin⟩, isolated, result⟩ := ended.calm valid lists calm
  rw [named] at stored_t
  refine ⟨isolated, ended.unchanged, ?_, ?_, ?_⟩
  · rw [← Cluster.report_ne_nil_iff, result]
    split
    next none => simp [none]
    next some => simp [some]
  · intro e he
    rw [result] at he
    split at he
    · cases he
    · cases he
      rfl
  · intro τ w' config' y healed
    -- The second reconcile starts from a cluster without faults.
    have unbroken : (w'.cluster y).failingNamespaces = [] := by
      rw [healed, Cluster.heal_eq]
      simp [ended.rest.failingNamespaces]
    have same : (w'.cluster y).pullers = t.pullers ∧ (w'.cluster y).namespaces = t.namespaces ∧
        (w'.cluster y).listsFail = t.listsFail ∧
        (w'.cluster y).pendingConflicts = t.pendingConflicts ∧ ∀ n, t.SameIn n (w'.cluster y) := by
      rw [healed, Cluster.heal_eq]
      exact ⟨rfl, rfl, rfl, rfl, fun n => ⟨fun _ _ => rfl, fun _ _ => rfl⟩⟩
    obtain ⟨pullers, namespaces, lists', calm', objects⟩ := same
    have reachable' : Reachable (w'.cluster y) := by
      rw [healed]
      exact (Program.reachable_run w _ reachable).changes _
    have ended' : Reconciled config' q (w'.cluster y) _ _ :=
      (reconcile_ends_of_live reachable'.filed (pullers ▸ stored_t)
        (akin.isTerminating_eq.trans live)).run
    obtain ⟨-, converged, result'⟩ := ended'.calm (akin.spec ▸ valid)
      (lists'.trans (ended.rest.listsFail.trans lists))
      (calm'.trans (Nat.le_zero.1 (calm ▸ ended.rest.pendingConflicts)))
    have nothing : (w'.cluster y).report q = [] := by
      by_contra some
      obtain ⟨n, -, broken, -⟩ := Cluster.report_ne_nil_iff.1 some
      rw [unbroken] at broken
      cases broken
    refine ⟨by rw [result', if_pos nothing], fun n target => ?_⟩
    have target' : n ∈ (w'.cluster y).targets q.spec.namespaceSelector := by
      rw [akin.spec, Cluster.targets_congr _ (namespaces.trans ended.rest.namespaces)]
      exact target
    have again : p.Converged n t _ :=
      (converged n target' (by simp [unbroken])).congr akin (objects n) (.refl n _)
    -- A broken target is still as it was in `s`; the others have been converged before.
    by_cases broken : n ∈ s.failingNamespaces
    · exact again.congr (.refl p) (ended.unchanged n broken) (.refl n _)
    · exact (isolated n target broken).trans again

/-- The small cluster with a broken namespace: the other one is converged, the failure is
reported, and both are converged after the next reconcile. -/
theorem isolated_and_recovered_sample :
    let s := Cluster.sample.change (.breakNamespace "default") |>.2
    let r := (reconcile {} "creds1").run (Cluster.alone "").toHandler s
    let u := (reconcile {} "creds1").run (Cluster.alone "").toHandler (r.2.heal ["default"])
    Puller.sample.Converged "kube-system" s r.2 ∧ s.SameIn "default" r.2 ∧
      r.1 = .error (.several ⟨[
        "namespace default: API error 500: injected write failure for Secret default/puller-config"
        ]⟩) ∧
      u.1 = .ok (.requeue 600) ∧ Puller.sample.Converged "default" s u.2 := by
  intro s r u
  have reachable : Reachable s := .change Cluster.reachable_sample _
  have lists : s.listsFail = false := rfl
  have calm : s.pendingConflicts = 0 := rfl
  have broken : s.failingNamespaces = ["default"] := rfl
  have stored : s.pullers.get? "creds1" = some .sample := by decide +kernel
  have targets : s.targets Puller.sample.spec.namespaceSelector = ["default", "kube-system"] := by
    decide +kernel
  have report : s.report .sample = [
      "namespace default: API error 500: injected write failure for Secret default/puller-config"
      ] := by decide +kernel
  clear_value s
  have valid : LabelSelector.Valid Puller.sample.spec.namespaceSelector := by
    rintro l ⟨⟩
  obtain ⟨isolated, unchanged, failed, failures, recovered⟩ :=
    isolated_and_recovered (p := .sample) (Cluster.alone "") {} (x := s) reachable lists calm
      stored rfl valid
  have error : ∃ e, r.1 = .error e := by
    apply failed.2
    apply Cluster.report_ne_nil_iff.1
    show s.report .sample ≠ []
    rw [report]
    exact List.cons_ne_nil _ _
  obtain ⟨e, he⟩ := error
  obtain ⟨ok, all⟩ := recovered (Cluster.alone "") {} (r.2.heal ["default"]) (by
    show _ = r.2.heal s.failingNamespaces
    rw [broken]
    rfl)
  refine ⟨isolated "kube-system" ?_ ?_, unchanged "default" ?_, ?_, ok, all "default" ?_⟩
  · show "kube-system" ∈ s.targets Puller.sample.spec.namespaceSelector
    simp [targets]
  · show "kube-system" ∉ s.failingNamespaces
    simp [broken]
  · show "default" ∈ s.failingNamespaces
    simp [broken]
  · rw [← report, he, failures e he]
    rfl
  · show "default" ∈ s.targets Puller.sample.spec.namespaceSelector
    simp [targets]

end Live

end Reconcile

end PullSecrets
