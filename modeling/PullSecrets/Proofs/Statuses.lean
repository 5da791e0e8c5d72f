import PullSecrets.Proofs.Cleanup
import PullSecrets.Proofs.Twins

/-!
# The status is never read back

A reconcile reports in the status of its puller, and what a status says makes no difference to
anything else. Two clusters that differ in the status of a puller are worked on in step: the puller
is guarded in both or in neither, every call about another object is the same and is answered
alike, and so is the result. Only at the end one of the two reports may be left out, because the
status says so already. Then the counters of versions and of writes differ as well.

## Main facts

* `Cluster.answer_withPullers`: a call about another object than a puller does not look at pullers.
* `Cluster.Restated.answer`: it keeps two clusters alike up to a status.
* `Reconcile.twin_reconcile_of_restated`: two reconciles that start from different statuses.
* `Reconcile.unread_of_reconcile`: what the status has no say in.
-/

namespace PullSecrets

open Program (ask Makes)

/-- Whether a call is about another object than a puller. -/
def Call.isAside (c : Call) : Bool := c.kind != .puller

/-- The puller without its status and its version. -/
def Puller.unreported (p : Puller) : Puller :=
  { p with status := none, metadata := { p.metadata with resourceVersion := none } }

namespace Cluster

variable {s t : Cluster} {p q p' q' : Puller} {name : String}

/-! ## Calls aside -/

/-- The cluster with other pullers. -/
def withPullers (pullers : Dict String Puller) (s : Cluster) : Cluster :=
  { s with pullers := pullers }

section WithPullers

variable (pullers : Dict String Puller) (s : Cluster)

@[simp] theorem namespaces_withPullers : (s.withPullers pullers).namespaces = s.namespaces := rfl

@[simp] theorem secrets_withPullers : (s.withPullers pullers).secrets = s.secrets := rfl

@[simp] theorem serviceAccounts_withPullers :
    (s.withPullers pullers).serviceAccounts = s.serviceAccounts := rfl

theorem allow_withPullers (kind : ResourceKind) (place : Option String) (name : String) :
    (s.withPullers pullers).allow kind place name =
      ((s.allow kind place name).1, (s.allow kind place name).2.withPullers pullers) := by
  unfold allow withPullers
  dsimp only
  split
  · rfl
  · split <;> rfl

theorem allowReplacement_withPullers {α : Type} (kind : ResourceKind) (place : Option String)
    (copy : Metadata) (metadata : α → Metadata) (stored : Option α) :
    (s.withPullers pullers).allowReplacement kind place copy metadata stored =
      ((s.allowReplacement kind place copy metadata stored).1,
        (s.allowReplacement kind place copy metadata stored).2.withPullers pullers) := by
  simp only [allowReplacement, allow_withPullers]
  rcases s.allow kind place copy.effectiveName with ⟨e | _, t⟩
  · rfl
  · cases stored with
    | none => rfl
    | some old =>
      dsimp only
      split <;> rfl

/-- A call about another object than a puller does not look at the pullers. -/
theorem answer_withPullers {c : Call} (aside : c.isAside = true) :
    (s.withPullers pullers).answer c = ((s.answer c).1, (s.answer c).2.withPullers pullers) := by
  cases c with
  | getPuller | replacePuller | replacePullerStatus => cases aside
  | listNamespaces | getSecret | listServiceAccounts | getServiceAccount => rfl
  | createSecret x =>
    simp only [answer, createSecret]
    cases x.metadata.key .secret with
    | error e => rfl
    | ok key =>
      simp only [allow_withPullers]
      rcases s.allow .secret (some key.inNamespace) key.name with ⟨e | _, t⟩
      · rfl
      · by_cases there : t.namespaces.contains key.inNamespace = true
        · by_cases taken : t.secrets.contains key = true
          · simp [there, taken]
          · simp only [namespaces_withPullers, secrets_withPullers, there, taken, Bool.not_true,
              Bool.false_eq_true, if_false]
            rfl
        · simp [there]
  | replaceSecret x =>
    simp only [answer, replaceSecret]
    cases x.metadata.key .secret with
    | error e => rfl
    | ok key =>
      simp only [allowReplacement_withPullers, secrets_withPullers]
      rcases s.allowReplacement .secret (some key.inNamespace) x.metadata Secret.metadata
        (s.secrets.get? key) with ⟨e | old, t⟩
      · rfl
      · rfl
  | replaceServiceAccount a =>
    simp only [answer, replaceServiceAccount]
    cases a.metadata.key .serviceAccount with
    | error e => rfl
    | ok key =>
      simp only [allowReplacement_withPullers, serviceAccounts_withPullers]
      rcases s.allowReplacement .serviceAccount (some key.inNamespace) a.metadata
        ServiceAccount.metadata (s.serviceAccounts.get? key) with ⟨e | old, t⟩
      · rfl
      · rfl

/-- A call about another object than a puller leaves the pullers alone. -/
theorem worked_answer {c : Call} (aside : c.isAside = true) : s.Worked (s.answer c).2 := by
  cases c with
  | getPuller | replacePuller | replacePullerStatus => cases aside
  | listNamespaces | getSecret | listServiceAccounts | getServiceAccount => exact .refl s
  | createSecret x =>
    rcases createSecret_cases x s with ⟨-, same⟩ | ⟨key, version, uid, -, -, -, same⟩
    · exact .of_secrets { same with secrets := rfl }
    · exact .of_secrets { same with secrets := rfl }
  | replaceSecret x =>
    rcases replaceSecret_cases x s with ⟨-, same⟩ | ⟨key, old, version, -, -, -, same⟩
    · exact .of_secrets { same with secrets := rfl }
    · exact .of_secrets { same with secrets := rfl }
  | replaceServiceAccount a =>
    rcases replaceServiceAccount_cases a s with ⟨-, same⟩ | ⟨key, old, version, -, -, -, same⟩
    · exact .of_accounts { same with serviceAccounts := rfl }
    · exact .of_accounts { same with serviceAccounts := rfl }

end WithPullers

/-! ## Two statuses -/

/-- The second cluster is the first one with another status of a puller, which is the first puller
there and the second one here. No conflicts are pending. -/
structure Restated (p q : Puller) (s t : Cluster) : Prop where
  rest : t = s.withPullers (s.pullers.insert p.name q)
  before : s.pullers.get? p.name = some p
  same : q = { p with status := q.status }
  calm : s.pendingConflicts = 0

namespace Restated

theorem name_eq (h : s.Restated p q t) : q.name = p.name := by
  rw [h.same]
  rfl

theorem after (h : s.Restated p q t) : t.pullers.get? q.name = some q := by
  rw [h.name_eq, h.rest, withPullers, Dict.get?_insert, if_pos rfl]

theorem calm_after (h : s.Restated p q t) : t.pendingConflicts = 0 := by
  rw [h.rest]
  exact h.calm

/-- A call about another object than a puller is answered alike. -/
theorem answer (h : s.Restated p q t) {c : Call} (aside : c.isAside = true) :
    (t.answer c).1 = (s.answer c).1 ∧ Restated p q (s.answer c).2 (t.answer c).2 := by
  have worked := s.worked_answer aside
  rw [h.rest, answer_withPullers _ _ aside]
  refine ⟨rfl, ?_, ?_, h.same, ?_⟩
  · rw [worked.pullers]
  · rw [worked.pullers]
    exact h.before
  · exact Nat.le_zero.1 (h.calm ▸ worked.pendingConflicts)

/-- Copies that differ in the status are stored in both clusters. -/
theorem put (h : s.Restated p q t) (named : p'.name = p.name)
    (same : q' = { p' with status := q'.status }) :
    Restated (s.putPuller p.name p').1 (t.putPuller q.name q').1 (s.putPuller p.name p').2
      (t.putPuller q.name q').2 := by
  rw [h.name_eq, h.rest]
  refine ⟨?_, ?_, ?_, h.calm⟩
  · show withPullers ((s.pullers.insert p.name q).insert p.name _) s.advance =
      withPullers ((s.pullers.insert p.name _).insert p'.name _) s.advance
    rw [named, Dict.insert_insert, Dict.insert_insert]
    rfl
  · show (s.putPuller p.name p').2.pullers.get? p'.name = _
    rw [named]
    exact get?_putPuller _ _ _
  · show q'.stamp _ = { p'.stamp _ with status := q'.status }
    rw [same]
    rfl

end Restated

/-- The cluster without what reporting about a puller changes: the status and the version of the
puller, the counter of versions and the counter of writes. -/
def unreported (name : String) (s : Cluster) : Cluster :=
  { s with
    version := 0
    writes := 0
    pullers := s.pullers.map fun key p => if key = name then p.unreported else p }

/-- Storing a puller with another status makes no other difference. -/
theorem unreported_insert (stored : s.pullers.get? name = some p)
    (same : q.unreported = p.unreported) :
    (s.withPullers (s.pullers.insert name q)).unreported name = s.unreported name := by
  suffices pullers : (s.pullers.insert name q).map
      (fun key p => if key = name then p.unreported else p) =
        s.pullers.map fun key p => if key = name then p.unreported else p by
    rw [unreported, unreported, ← pullers]
    rfl
  apply Dict.ext_get?
  intro key
  by_cases this : key = name
  · simp [this, stored, same]
  · simp [this]

theorem Restated.unreported_eq (h : s.Restated p q t) :
    t.unreported p.name = s.unreported p.name := by
  rw [h.rest]
  refine unreported_insert h.before ?_
  rw [h.same]
  rfl

/-- Reporting about a puller changes nothing but what is reported. -/
theorem unreported_putPuller (status : Option PullerStatus)
    (stored : s.pullers.get? p.name = some p) :
    (s.putPuller p.name { p with status := status }).2.unreported p.name = s.unreported p.name :=
  unreported_insert (s := s.advance) stored rfl

/-- In a cluster without its puller, no status is left. -/
theorem Restated.drop (h : s.Restated p q t) :
    (t.dropPuller q.name q').2 = (s.dropPuller p.name p').2 := by
  rw [h.name_eq, h.rest]
  show withPullers ((s.pullers.insert p.name q).erase p.name) s.advance =
    withPullers (s.pullers.erase p.name) s.advance
  rw [Dict.erase_insert]

end Cluster

/-! ## The writes of a reconcile -/

/-- Two surroundings in which everything is watched but the calls about pullers. -/
def Duet.aside {σ τ : Type} (w : Surroundings σ) (w' : Surroundings τ) : Duet σ τ :=
  ⟨w, w', Call.isAside⟩

section Writes

open Cluster (Restated)

variable {σ τ : Type} {w : Surroundings σ} {w' : Surroundings τ} {policy : RetryPolicy}
  {p q : Puller} {s t : Cluster}

theorem Finalizer.makes_ensure (policy : RetryPolicy) (p : Puller) :
    (Finalizer.ensure policy p).Makes fun c => c.isAside = false := by
  unfold ensure
  refine Makes.ite trivial (Makes.retry fun _ => Makes.bind (.ask rfl) fun found => ?_)
  cases found with
  | none => trivial
  | some latest => exact Makes.ite trivial (Makes.ask rfl)

theorem Finalizer.makes_release (policy : RetryPolicy) (name : String) :
    (Finalizer.release policy name).Makes fun c => c.isAside = false := by
  unfold release
  refine Makes.retry fun _ => Makes.bind (.ask rfl) fun found => ?_
  cases found with
  | none => trivial
  | some latest =>
    exact Makes.ite (Makes.bind (Makes.unlessMissing (.ask rfl)) fun _ => trivial) trivial

theorem Report.makes_update (policy : RetryPolicy) (p : Puller) (status : PullerStatus) :
    (Report.update policy p status).Makes fun c => c.isAside = false := by
  unfold update
  refine Makes.ite trivial (Makes.retry fun i => ?_)
  have written (target : Puller) : (if target.status = some status then pure false
      else do
        let _ ← ask (.replacePullerStatus { target with status := some status })
        pure true : Program StoreError Bool).Makes fun c => c.isAside = false :=
    Makes.ite trivial (Makes.bind (.ask rfl) fun _ => trivial)
  -- The first attempt takes the copy, the others read the puller.
  dsimp only
  split
  · exact written p
  · refine Makes.bind (.ask rfl) fun found => ?_
    cases found with
    | none => trivial
    | some latest => exact written latest

theorem PullSecret.makes_ensure (policy : RetryPolicy) (x : Secret) :
    (PullSecret.ensure policy x).Makes fun c => c.isAside = true := by
  unfold ensure
  refine Makes.retry fun _ => Makes.bind (.ask rfl) fun found => ?_
  cases found with
  | none => exact Makes.bind (.ask rfl) fun _ => trivial
  | some old => exact Makes.ite trivial (Makes.bind (.ask rfl) fun _ => trivial)

theorem Binding.makes_changeAll (policy : RetryPolicy)
    (change : List String → Option (List String)) (keys : List ObjectKey) :
    (changeAll policy (amend change) keys).Makes fun c => c.isAside = true := by
  unfold changeAll amend
  refine Makes.bind (Makes.forEach fun key => Makes.retry fun _ =>
    Makes.bind (.ask rfl) fun found => ?_) fun _ => Makes.settle
  cases found with
  | none => trivial
  | some a =>
    dsimp only
    split
    · trivial
    · exact Makes.unlessMissing (.ask rfl)

theorem Binding.makes_bindAll (policy : RetryPolicy) (inNamespace secret : String) :
    (bindAll policy inNamespace secret).Makes fun c => c.isAside = true := by
  unfold bindAll
  rw [bind_eq_amend]
  exact Makes.bind (Makes.liftM (.ask rfl)) fun _ => makes_changeAll _ _ _

theorem Binding.makes_unbindAll (policy : RetryPolicy) (secret : String) :
    (unbindAll policy secret).Makes fun c => c.isAside = true := by
  unfold unbindAll
  rw [unbind_eq_amend]
  exact Makes.bind (Makes.liftM (.ask rfl)) fun _ => makes_changeAll _ _ _

theorem Finalizer.twin_ensure_of_restated (h : s.Restated p q t) :
    (Finalizer.ensure policy p).Twin (.aside w w')
      (Program.Both fun p' q' u v => p'.name = p.name ∧ u.Restated p' q' v)
      (Finalizer.ensure policy q) s t := by
  refine .of_ends (fun x => (makes_ensure policy p).exchanges_eq_nil _ x)
    (fun y => (makes_ensure policy q).exchanges_eq_nil _ y) (ensure_cases h.before)
    (ensure_cases h.after) ?_
  have same : q.hasFinalizer = p.hasFinalizer := by
    rw [h.same]
    rfl
  rintro _ u _ v (⟨has, rfl, rfl⟩ | ⟨lacks, ended⟩) (⟨has', rfl, rfl⟩ | ⟨lacks', ended'⟩)
  · exact ⟨p, q, rfl, rfl, rfl, h⟩
  · exact absurd (lacks'.symm.trans (same.trans has)) Bool.false_ne_true
  · exact absurd (lacks.symm.trans (same.symm.trans has')) Bool.false_ne_true
  · obtain ⟨rfl, rfl⟩ := ended.accepted h.calm policy.budget_pos
    obtain ⟨rfl, rfl⟩ := ended'.accepted h.calm_after policy.budget_pos
    refine ⟨_, _, rfl, rfl, rfl, h.put rfl ?_⟩
    rw [h.same]
    rfl

/-- Writing a status into a calm cluster succeeds, and changes nothing but what is reported. -/
theorem Report.update_unreported (stored : s.pullers.get? p.name = some p)
    (calm : s.pendingConflicts = 0) (status : PullerStatus) :
    (Report.update policy p status).Ends
      (fun r u => (∃ b, r = .ok b) ∧ u.unreported p.name = s.unreported p.name) s := by
  refine (update_cases stored status).mono ?_
  rintro _ _ (⟨-, rfl, rfl⟩ | ⟨-, ended⟩)
  · exact ⟨⟨_, rfl⟩, rfl⟩
  · obtain ⟨rfl, rfl⟩ := ended.accepted calm policy.budget_pos
    exact ⟨⟨_, rfl⟩, Cluster.unreported_putPuller (some status) stored⟩

theorem Report.twin_update_of_restated (h : s.Restated p q t) (status status' : PullerStatus) :
    (Report.update policy p status).Twin (.aside w w')
      (Program.Both fun _ _ u v => v.unreported p.name = u.unreported p.name)
      (Report.update policy q status') s t := by
  refine .of_ends (fun x => (makes_update policy p status).exchanges_eq_nil _ x)
    (fun y => (makes_update policy q status').exchanges_eq_nil _ y)
    (update_unreported h.before h.calm status) (update_unreported h.after h.calm_after status') ?_
  rintro _ u _ v ⟨⟨a, rfl⟩, left⟩ ⟨⟨b, rfl⟩, right⟩
  refine ⟨a, b, rfl, rfl, ?_⟩
  rw [h.name_eq] at right
  exact right.trans (h.unreported_eq.trans left.symm)

/-- Pullers that differ in the status are let go alike. -/
theorem Finalizer.letGo_unreported (h : s.Restated p q t) :
    (letGo q t).2.unreported p.name = (letGo p s).2.unreported p.name := by
  have metadata : q.metadata = p.metadata := by
    rw [h.same]
  have finalizers : (released q).metadata.finalizerList = (released p).metadata.finalizerList := by
    rw [finalizerList_released, finalizerList_released, metadata]
  unfold letGo
  rw [metadata, finalizers]
  split
  · rw [h.drop]
  · have same : released q = { released p with status := (released q).status } := by
      rw [h.same]
      rfl
    have named : (released p).name = p.name := rfl
    exact (h.put named same).unreported_eq

theorem Finalizer.twin_release_of_restated (h : s.Restated p q t) :
    (Finalizer.release policy p.name).Twin (.aside w w')
      (Program.Both fun _ _ u v => v.unreported p.name = u.unreported p.name)
      (Finalizer.release policy q.name) s t := by
  refine .of_ends (fun x => (makes_release policy p.name).exchanges_eq_nil _ x)
    (fun y => (makes_release policy q.name).exchanges_eq_nil _ y) (release_cases h.before)
    (release_cases h.after) ?_
  have same : q.hasFinalizer = p.hasFinalizer := by
    rw [h.same]
    rfl
  rintro _ u _ v (⟨lacks, rfl, rfl⟩ | ⟨has, ended⟩) (⟨lacks', rfl, rfl⟩ | ⟨has', ended'⟩)
  · exact ⟨_, _, rfl, rfl, h.unreported_eq⟩
  · exact absurd (lacks.symm.trans (same.symm.trans has')) Bool.false_ne_true
  · exact absurd (lacks'.symm.trans (same.trans has)) Bool.false_ne_true
  · obtain ⟨rfl, rfl⟩ := ended.accepted h.calm policy.budget_pos
    obtain ⟨rfl, rfl⟩ := ended'.accepted h.calm_after policy.budget_pos
    exact ⟨_, _, rfl, rfl, letGo_unreported h⟩

end Writes

/-! ## Reconciling -/

namespace Reconcile

variable {σ τ : Type} {w : Surroundings σ} {w' : Surroundings τ} {config : Config}
  {policy : RetryPolicy} {p q : Puller} {name : String} {s t : Cluster}

/-- Working on the targets is about other objects than pullers. -/
theorem makes_converge (policy : RetryPolicy) (p : Puller) :
    (converge policy p).Makes fun c => c.isAside = true := by
  unfold converge
  refine Makes.bind (Makes.liftM (Makes.bind (.ask rfl) fun _ => trivial)) fun targets =>
    Makes.bind (Makes.forEach fun n => ?_) fun results =>
      Makes.bind trivial fun _ => Makes.bind trivial fun _ => Makes.settle
  exact Makes.bind (PullSecret.makes_ensure _ _).liftM fun _ =>
    Makes.bind (Binding.makes_bindAll _ _ _) fun _ => trivial

theorem twin_cleanup_of_restated (h : s.Restated p q t) :
    (cleanup policy p).Twin (.aside w w')
      (Program.Agree fun u v => v.unreported p.name = u.unreported p.name) (cleanup policy q)
      s t := by
  unfold cleanup
  refine .bind_agree ((Binding.makes_unbindAll policy Names.secret).twin
    (fun c u v aside related => related.answer aside) h) ?_ fun _ _ related => related.unreported_eq
  intro unbound u v related
  refine .leave_bind (.bind_both (.liftM_both ?_))
  refine (Finalizer.twin_release_of_restated related).mono ?_
  rintro _ _ u v ⟨_, _, rfl, rfl, same⟩
  exact ⟨_, _, rfl, rfl, .pure ⟨rfl, same⟩⟩

theorem twin_sync_of_restated (h : s.Restated p q t) :
    (sync policy p).Twin (.aside w w')
      (Program.Agree fun u v => v.unreported p.name = u.unreported p.name) (sync policy q) s t := by
  have akin : p.Akin q := by
    rw [h.same]
    exact ⟨rfl, p.metadata.finalizers, p.metadata.resourceVersion, rfl⟩
  refine twin_sync ?_
  rw [converge_congr akin]
  refine ((makes_converge policy p).twin (fun c u v aside related => related.answer aside)
    h).mono ?_
  rintro r r' u v ⟨rfl, related⟩
  exact ⟨rfl, fun _ _ _ _ => Report.twin_update_of_restated related _ _⟩

/-- Two reconciles of a puller from clusters that differ in its status. -/
theorem twin_reconcile_of_restated (config : Config) (h : s.Restated p q t) :
    (reconcile config p.name).Twin (.aside w w')
      (Program.Agree fun u v => v.unreported p.name = u.unreported p.name)
      (reconcile config p.name) s t := by
  have after : t.pullers.get? p.name = some q := h.name_eq ▸ h.after
  have metadata : q.metadata = p.metadata := by
    rw [h.same]
  cases deleted : p.metadata.isTerminating with
  | true =>
    exact twin_reconcile_of_terminating rfl h.before after deleted (metadata ▸ deleted)
      (twin_cleanup_of_restated h)
  | false =>
    refine twin_reconcile_of_live rfl h.before after deleted (metadata ▸ deleted)
      ((Finalizer.twin_ensure_of_restated h).mono ?_)
    rintro _ _ u v ⟨p', q', rfl, rfl, named, related⟩
    exact ⟨p', q', rfl, rfl, named ▸ twin_sync_of_restated related⟩

/-- A reconcile of a puller never reads its status. From two clusters without pending conflicts that
differ in the status of the puller alone, whatever the two statuses are, it comes to the same
result, its calls about namespaces, secrets and accounts are the same and are answered alike, and
the clusters in the end differ in the status and the version of the puller, the counter of versions
and the counter of writes alone. -/
theorem unread_of_reconcile (w : Surroundings σ) (w' : Surroundings τ) (config : Config) {x : σ}
    {y : τ} (reachable : Reachable (w.cluster x)) (calm : (w.cluster x).pendingConflicts = 0)
    (stored : (w.cluster x).pullers.get? name = some p) (status : Option PullerStatus)
    (restated : w'.cluster y = { w.cluster x with
      pullers := (w.cluster x).pullers.insert name { p with status := status } }) :
    let r := (reconcile config name).run w.toHandler x
    let r' := (reconcile config name).run w'.toHandler y
    r'.1 = r.1 ∧
      (reconcile config name).exchanges w'.toHandler Call.isAside y =
        (reconcile config name).exchanges w.toHandler Call.isAside x ∧
      (w'.cluster r'.2).unreported name = (w.cluster r.2).unreported name := by
  obtain rfl : p.name = name := reachable.filed.pullers name p stored
  have related : (w.cluster x).Restated p { p with status := status } (w'.cluster y) :=
    ⟨restated, stored, rfl, calm⟩
  obtain ⟨shown, result, same⟩ := twin_reconcile_of_restated config related x y rfl rfl
  exact ⟨result, shown, same⟩

/-- The puller of the small cluster is reconciled for the first time, once without a status and once
with the status that it is about to get. Nothing but the last write is left out. -/
theorem unread_of_reconcile_sample :
    let h := (Cluster.alone "").toHandler
    let t : Cluster := { Cluster.sample with
      pullers := Cluster.sample.pullers.insert "creds1"
        { Puller.sample with status := some (Report.status none none "" "") } }
    let r := (reconcile {} "creds1").run h .sample
    let r' := (reconcile {} "creds1").run h t
    r'.1 = r.1 ∧
      (reconcile {} "creds1").exchanges h Call.isAside t =
        (reconcile {} "creds1").exchanges h Call.isAside .sample ∧
      r'.2.unreported "creds1" = r.2.unreported "creds1" ∧ (r.2.writes, r'.2.writes) = (6, 5) := by
  have counted : (((reconcile {} "creds1").run (Cluster.alone "").toHandler .sample).2.writes,
      ((reconcile {} "creds1").run (Cluster.alone "").toHandler { Cluster.sample with
        pullers := Cluster.sample.pullers.insert "creds1"
          { Puller.sample with status := some (Report.status none none "" "") } }).2.writes) =
        (6, 5) := by decide +kernel
  have stored : Cluster.sample.pullers.get? "creds1" = some .sample := by decide +kernel
  have calm : Cluster.sample.pendingConflicts = 0 := by decide +kernel
  have reachable := Cluster.reachable_sample
  -- No more is evaluated from here on.
  generalize Cluster.sample = s at *
  generalize Report.status none none "" "" = status at *
  intro h t r r'
  obtain ⟨result, shown, same⟩ := unread_of_reconcile (Cluster.alone "") (Cluster.alone "") {}
    (x := s) (y := t) reachable calm stored (some status) rfl
  exact ⟨result, shown, same, counted⟩

end Reconcile

end PullSecrets
