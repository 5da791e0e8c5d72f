import PullSecrets.Proofs.Quiescence

/-!
# The status mirrors the result

As long as fewer conflicts are pending than a change may be attempted, no write of a puller fails:
it is in no namespace that could be broken. So a live puller is guarded, and whatever the work on
its targets comes to is written into its status. The first condition of readiness and the first one
about errors say how the reconcile has ended, with the text of the failure if there was one, and
conditions of other types are as before.

## Main facts

* `PullerStatus.others_set`: setting a condition leaves those of other types in their order.
* `Report.mirrors_status`: the status that reports an end mirrors it.
* `Reconcile.mirrored_of_reconcile`: the status after the reconcile of a live puller.
-/

namespace PullSecrets

open Program (ask Ends Leads)

/-! ## Conditions -/

namespace PullerStatus

/-- The conditions that no reconcile sets, in their order. -/
def others (s : PullerStatus) : List Condition :=
  s.conditions.filter fun c => c.type != Report.ready && c.type != Report.error

theorem others_set {type : String} (s : PullerStatus)
    (own : type = Report.ready ∨ type = Report.error) (status : ConditionStatus)
    (reason message now : String) : (s.set type status reason message now).others = s.others := by
  have unwanted : (type != Report.ready && type != Report.error) = false := by
    rcases own with rfl | rfl <;> simp
  exact filter_write (fun type => type != Report.ready && type != Report.error) unwanted status
    reason message now s.conditions

end PullerStatus

namespace Report

/-- A status says how a reconcile has ended: it is ready and there is no error, or it is not known
to be ready and there is an error of this text. The other conditions are as before. -/
structure Mirrors (failure : Option String) (before after : PullerStatus) : Prop where
  fine : failure = none → (after.condition? ready).map (·.status) = some .true ∧
    (after.condition? error).map (·.status) = some .false
  failed : ∀ message, failure = some message →
    (after.condition? ready).map (·.status) = some .unknown ∧
      (after.condition? error).map (fun c => (c.status, c.message)) = some (.true, some message)
  others : after.others = before.others

/-- What the two conditions say after both were set. -/
theorem conditions_set (s : PullerStatus) (status status' : ConditionStatus)
    (reason reason' message message' now now' : String) :
    let t := (s.set ready status reason message now).set error status' reason' message' now'
    (t.condition? ready).map (·.status) = some status ∧
      (t.condition? error).map (fun c => (c.status, c.message)) = some (status', some message') ∧
      t.others = s.others := by
  intro t
  obtain ⟨c, hc, agrees⟩ := PullerStatus.condition?_set s ready status reason message now
  obtain ⟨d, hd, agrees'⟩ := PullerStatus.condition?_set
    (s.set ready status reason message now) error status' reason' message' now'
  -- Setting the second condition has left the first one alone.
  have kept : t.condition? ready = some c :=
    (PullerStatus.condition?_set_of_ne _ (by decide) _ _ _ _).trans hc
  simp only [Condition.agrees, Bool.and_eq_true, beq_iff_eq] at agrees agrees'
  refine ⟨by rw [kept, Option.map_some, agrees.1.1], ?_, ?_⟩
  · rw [show t.condition? error = some d from hd, Option.map_some, agrees'.1.1, agrees'.2]
  · exact (PullerStatus.others_set _ (.inr rfl) _ _ _ _).trans
      (PullerStatus.others_set _ (.inl rfl) _ _ _ _)

/-- The status that reports an end mirrors it. -/
theorem mirrors_status (current : Option PullerStatus) (failure : Option String)
    (readyTime errorTime : String) :
    Mirrors failure (current.getD {}) (status current failure readyTime errorTime) := by
  cases failure with
  | none =>
    obtain ⟨ready, error, others⟩ := conditions_set (current.getD {}) .true .false "Ready"
      "NoError" "puller reconcile ready" "No error seen" readyTime errorTime
    refine ⟨fun _ => ⟨ready, ?_⟩, fun _ h => (by cases h), others⟩
    obtain ⟨c, hc, reads⟩ := Option.map_eq_some_iff.1 error
    exact Option.map_eq_some_iff.2 ⟨c, hc, congrArg Prod.fst reads⟩
  | some message =>
    obtain ⟨ready, error, others⟩ := conditions_set (current.getD {}) .unknown .true "Error"
      "ErrorSeen" "puller reconcile error" message readyTime errorTime
    refine ⟨fun h => (by cases h), ?_, others⟩
    rintro _ ⟨⟩
    exact ⟨ready, error⟩

end Report

/-! ## Writes that meet few conflicts -/

section Few

variable {policy : RetryPolicy} {p : Puller} {s : Cluster}

/-- Guarding a stored puller: it succeeds, and the status is as before. -/
theorem Finalizer.ensure_of_few (stored : s.pullers.get? p.name = some p)
    (few : s.pendingConflicts < policy.budget) :
    (Finalizer.ensure policy p).Ends (fun r _ => ∃ q, r = .ok q ∧ q.status = p.status) s := by
  apply (Finalizer.ensure_cases stored).mono
  rintro r t (⟨-, rfl, -⟩ | ⟨-, ended⟩)
  · exact ⟨p, rfl, rfl⟩
  · exact ⟨_, (ended.of_few s.open_none few).1, rfl⟩

/-- Reporting about a stored puller: it succeeds. -/
theorem Report.update_of_few (stored : s.pullers.get? p.name = some p)
    (few : s.pendingConflicts < policy.budget) (status : PullerStatus) :
    (Report.update policy p status).Ends (fun r _ => ∃ b, r = .ok b) s := by
  apply (Report.update_cases stored status).mono
  rintro r t (⟨-, rfl, -⟩ | ⟨-, ended⟩)
  · exact ⟨false, rfl⟩
  · exact ⟨true, (ended.of_few s.open_none few).1⟩

end Few

/-! ## The whole reconcile -/

namespace Reconcile

variable {policy : RetryPolicy} {config : Config} {p : Puller} {name : String} {s : Cluster}

/-- The stored puller has a status that mirrors the result of working on its targets. -/
def Mirrored (p : Puller) (r : Except ReconcileError Summary) (t : Cluster) : Prop :=
  ∃ q status, t.pullers.get? p.name = some q ∧ q.status = some status ∧
    Report.Mirrors (failure? r) (p.status.getD {}) status

/-- Working on the targets of a stored puller, and reporting how that ended. -/
theorem sync_mirrored (filed : s.Filed) (stored : s.pullers.get? p.name = some p)
    (few : s.pendingConflicts < policy.budget) :
    (sync policy p).Ends (Mirrored p) s := by
  refine leads_sync ((converge_ends filed).mono ?_)
  intro r u converging readyTime errorTime
  have stored_u : u.pullers.get? p.name = some p := by
    rw [converging.worked.pullers]
    exact stored
  have few_u : u.pendingConflicts < policy.budget :=
    Nat.lt_of_le_of_lt converging.worked.pendingConflicts few
  refine ((Report.update_of_few stored_u few_u _).and (Report.update_kept stored_u _)).mono ?_
  rintro _ t ⟨⟨b, rfl⟩, -, written⟩
  obtain ⟨q, stored_t, status⟩ := written b rfl
  exact ⟨q, _, stored_t, status, Report.mirrors_status _ _ readyTime errorTime⟩

/-- The reconcile of a stored puller that is not to be deleted. -/
theorem reconcile_mirrored (filed : s.Filed) (stored : s.pullers.get? name = some p)
    (live : p.metadata.isTerminating = false)
    (few : s.pendingConflicts < config.retryPolicy.budget) :
    (reconcile config name).Ends (fun r t => ∃ r', Mirrored p r' t ∧
      r = r'.map fun _ => .requeue config.resyncSeconds) s := by
  obtain rfl : p.name = name := filed.pullers name p stored
  refine leads_reconcile_of_live stored live trivial ((((Finalizer.ensure_of_few stored few).and
    (Finalizer.ensure_ends stored)).and (Program.ends_filed _ filed)).mono ?_)
  rintro _ u ⟨⟨⟨q, rfl, status⟩, tended, ok, -⟩, filed_u⟩
  obtain ⟨stored_u, -, akin⟩ := ok q rfl
  rw [← akin.name_eq] at stored_u
  have few_u : u.pendingConflicts < config.retryPolicy.budget :=
    Nat.lt_of_le_of_lt tended.pendingConflicts few
  refine (sync_mirrored filed_u stored_u few_u).mono ?_
  rintro r t ⟨q', after, stored_t, written, mirrors⟩
  rw [akin.name_eq] at stored_t
  rw [status] at mirrors
  exact ⟨r, ⟨q', after, stored_t, written, mirrors⟩, rfl⟩

/-- As long as fewer conflicts are pending than a change may be attempted, the status after the
reconcile of a live puller mirrors the result: it is ready without an error after a success, and
after a failure it is not known to be ready, with the text of this failure as the error.
Conditions of other types keep what they say and their order. -/
theorem mirrored_of_reconcile {σ : Type} (w : Surroundings σ) (config : Config) {x : σ}
    (reachable : Reachable (w.cluster x)) (stored : (w.cluster x).pullers.get? name = some p)
    (live : p.metadata.isTerminating = false)
    (few : (w.cluster x).pendingConflicts < config.retryPolicy.budget) :
    let r := (reconcile config name).run w.toHandler x
    ∃ q status, (w.cluster r.2).pullers.get? name = some q ∧ q.status = some status ∧
      (∀ action, r.1 = .ok action →
        (status.condition? Report.ready).map (·.status) = some .true ∧
          (status.condition? Report.error).map (·.status) = some .false) ∧
      (∀ e, r.1 = .error e →
        (status.condition? Report.ready).map (·.status) = some .unknown ∧
          (status.condition? Report.error).map (fun c => (c.status, c.message)) =
            some (.true, some e.message)) ∧
      status.others = (p.status.getD {}).others := by
  intro r
  have named : p.name = name := reachable.filed.pullers name p stored
  obtain ⟨r', ⟨q, status, stored_t, written, mirrors⟩, result⟩ : ∃ r', Mirrored p r' _ ∧ r.1 = _ :=
    (reconcile_mirrored reachable.filed stored live few).run
  refine ⟨q, status, named ▸ stored_t, written, fun action fine => ?_, fun e failed => ?_,
    mirrors.others⟩
  · rw [result] at fine
    cases r' with
    | error e => cases fine
    | ok summary => exact mirrors.fine rfl
  · rw [result] at failed
    cases r' with
    | error e' =>
      cases failed
      exact mirrors.failed e.message rfl
    | ok summary => cases failed

/-- A cluster with a broken namespace and two pending conflicts, and with a puller about which
others report as well. -/
def strained : Cluster :=
  let before : PullerStatus := ⟨[
    { type := "Paused", status := .false },
    { type := Report.error, status := .false },
    { type := "Audited", status := .true }]⟩
  Cluster.empty.changes [
    .addNamespace "default" .empty,
    .addNamespace "kube-system" .empty,
    .createPuller { Puller.sample with status := some before },
    .breakNamespace "default",
    .injectConflicts 2]

/-- The failure in the broken namespace is the result, and the status says the same; the reports of
others are still there. -/
theorem mirrored_of_reconcile_strained :
    let text := "namespace default: API error 500: injected write failure for Secret " ++
      "default/puller-config"
    let r := (reconcile {} "creds1").run (Cluster.alone "").toHandler strained
    (∃ e, r.1 = .error e ∧ e.message = text) ∧
      ∃ q status, r.2.pullers.get? "creds1" = some q ∧ q.status = some status ∧
        (status.condition? Report.ready).map (·.status) = some .unknown ∧
        (status.condition? Report.error).map (fun c => (c.status, c.message)) =
          some (.true, some text) ∧
        status.others.map (·.type) = ["Paused", "Audited"] := by
  intro text r
  have there : (strained.pullers.get? "creds1").map (fun p => (p.metadata.isTerminating,
      (p.status.getD {}).others.map (·.type))) = some (false, ["Paused", "Audited"]) := by
    decide +kernel
  have failed : (match r.1 with | .error e => some e.message | .ok _ => none) = some text := by
    decide +kernel
  have few : strained.pendingConflicts < ({} : Config).retryPolicy.budget := by decide +kernel
  have reachable : Reachable strained := Reachable.empty.changes _
  obtain ⟨p, stored, found⟩ := Option.map_eq_some_iff.1 there
  obtain ⟨live, others⟩ := Prod.mk.inj found
  obtain ⟨q, status, stored_t, written, -, error, kept⟩ :=
    mirrored_of_reconcile (Cluster.alone "") {} (x := strained) reachable stored live few
  obtain ⟨e, result, message⟩ : ∃ e, r.1 = .error e ∧ e.message = text := by
    revert failed
    cases r.1 with
    | error e => exact fun failed => ⟨e, rfl, Option.some.inj failed⟩
    | ok action => exact fun failed => by cases failed
  obtain ⟨ready, error⟩ := error e result
  exact ⟨⟨e, result, message⟩, q, status, stored_t, written, ready, message ▸ error,
    kept ▸ others⟩

end Reconcile

end PullSecrets
