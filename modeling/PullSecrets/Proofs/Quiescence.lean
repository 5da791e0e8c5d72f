import PullSecrets.Proofs.Conditions
import PullSecrets.Proofs.Sync

/-!
# Quiescence

A reconcile that succeeds leaves nothing to do: its puller is guarded, the targets are converged,
and the status says so. From then on a reconcile of the puller only reads. Reconciles of other
pullers do not change this as long as they have other targets, because a reconcile touches nothing
but its own puller and the objects of its targets.

## Main facts

* `Program.Reads`: a program that reads and ends where it began.
* `Cluster.Quiet.reads_reconcile`: the reconcile of a puller without anything to do.
* `Reconcile.attended_of_live`: what a reconcile leaves alone, and that its success leaves nothing
  to do.
* `Reconcile.quiet_of_turns`: when all pullers of a group have succeeded, nothing is written any
  more.
-/

namespace PullSecrets

open Program (ask Ends Leads)

/-! ## Programs that only read -/

namespace Program

variable {ε δ α β ι : Type} {a : α} {b : β} {s : Cluster}

/-- The program makes no write, and it ends with this value in the cluster that it started from. -/
def Reads (a : α) (s : Cluster) (p : Program ε α) : Prop :=
  p.Leads Cluster.handler (fun t c => t = s ∧ c.isWrite = false) (fun r t => r = .ok a ∧ t = s) s

theorem Reads.pure : (Pure.pure a : Program ε α).Reads a s := ⟨rfl, rfl⟩

theorem Reads.leave {n : Note} : (Program.leave n : Program ε Unit).Reads () s := ⟨rfl, rfl⟩

theorem Reads.ask {c : Call} {v : c.Value} (reads : c.isWrite = false)
    (answered : s.answer c = (.ok v, s)) : (ask c).Reads v s :=
  leads_ask.2 ⟨⟨rfl, reads⟩, congrArg Prod.fst answered, congrArg Prod.snd answered⟩

theorem Reads.bind {p : Program ε α} {f : α → Program ε β} (hp : p.Reads a s)
    (hf : (f a).Reads b s) : (p >>= f).Reads b s := by
  refine leads_bind.2 (Leads.mono hp ?_)
  rintro _ t ⟨rfl, rfl⟩
  exact hf

theorem Reads.attempt {p : Program ε α} (hp : p.Reads a s) :
    (p.attempt : Program δ (Except ε α)).Reads (.ok a) s := by
  refine leads_attempt.2 (Leads.mono hp ?_)
  rintro _ t ⟨rfl, rfl⟩
  exact ⟨rfl, rfl⟩

theorem Reads.liftM {p : Program StoreError α} (hp : p.Reads a s) :
    (MonadLiftT.monadLift p : Program ReconcileError α).Reads a s := by
  refine leads_liftM.2 (Leads.mono hp ?_)
  rintro _ t ⟨rfl, rfl⟩
  exact ⟨rfl, rfl⟩

/-- A change that only reads is attempted once. -/
theorem Reads.retry {policy : RetryPolicy} {change : Nat → Program StoreError α}
    (h : (change 0).Reads a s) : (Program.retry policy change).Reads a s := by
  refine Leads.retry_once (fun _ _ => rfl) (Leads.mono h ?_)
  rintro _ t ⟨rfl, rfl⟩
  exact ⟨⟨rfl, rfl⟩, fun e he => by cases he⟩

theorem Reads.forEach {work : ι → Program δ α} {items : List ι}
    (h : ∀ i ∈ items, (work i).Reads a s) :
    (Program.forEach work items : Program ε _).Reads (items.map fun i => (i, .ok a)) s := by
  induction items with
  | nil => exact Reads.pure
  | cons i rest ih =>
    have head := h i List.mem_cons_self
    have tail := ih fun j hj => h j (List.mem_cons_of_mem i hj)
    exact head.attempt.bind (tail.bind Reads.pure)

end Program

/-- Giving a namespace a secret that is current already is reading. -/
theorem PullSecret.reads_ensure {policy : RetryPolicy} {x wanted : Secret} {key : ObjectKey}
    {s : Cluster} (placed : wanted.metadata.key .secret = .ok key)
    (stored : s.secrets.get? key = some x) (same : isCurrent x wanted = true) :
    (ensure policy wanted).Reads false s := by
  obtain ⟨inNamespace, name⟩ := Metadata.key_eq_ok_iff.1 placed
  have found : s.answer (.getSecret (wanted.metadata.inNamespace.getD "")
      wanted.metadata.effectiveName) = (.ok (some x), s) := by
    rw [inNamespace, name, ← stored]
    rfl
  refine Program.Reads.retry (Program.Reads.bind (Program.Reads.ask rfl found) ?_)
  simp only [same, if_true]
  exact Program.Reads.pure

/-! ## Pullers without anything to do -/

namespace Cluster

variable {s t u : Cluster} {p q : Puller} {n : String}

/-- A stored puller has nothing to do: it is guarded, nothing is left to write in its targets, and
its status says so already. -/
structure Quiet (s : Cluster) (p : Puller) : Prop where
  stored : s.pullers.get? p.name = some p
  live : p.metadata.isTerminating = false
  guarded : p.hasFinalizer = true
  reported : ∀ readyTime errorTime,
    p.status = some (Report.status p.status none readyTime errorTime)
  listed : ∃ l, s.listNamespaces p.spec.namespaceSelector = .ok l
  done : ∀ n ∈ s.targets p.spec.namespaceSelector, ¬ s.Behind p n

/-- What is left to do in a namespace can be told from its objects and from what the puller
wants. -/
theorem SameIn.behind_iff (h : SameIn n s t) (akin : p.Akin q) : t.Behind q n ↔ s.Behind p n := by
  have refusals : t.refusals q n = s.refusals p n := by
    rw [h.refusals_eq, Cluster.refusals, Cluster.refusals, akin.wanted_eq]
  rw [← refusals_ne_nil_iff, refusals, refusals_ne_nil_iff]

theorem listNamespaces_congr (selector : Option LabelSelector)
    (namespaces : t.namespaces = s.namespaces) (lists : t.listsFail = s.listsFail) :
    t.listNamespaces selector = s.listNamespaces selector := by
  unfold listNamespaces list
  rw [namespaces, lists]

/-- Nothing is left to do in a namespace that is converged. -/
theorem not_behind_of_converged (h : p.Converged n s t) : ¬ t.Behind p n := by
  obtain ⟨⟨x, hx, carries⟩, accounts⟩ := h
  rintro (outdated | ⟨name, b, stored, unbound⟩)
  · exact outdated x hx carries
  · have lists := accounts name
    rw [stored, Option.map_some, eq_comm, Option.map_eq_some_iff] at lists
    obtain ⟨a, -, names⟩ := lists
    rw [← names] at unbound
    split at unbound
    next there => exact unbound there
    next => exact unbound (List.mem_append_right _ (List.mem_singleton_self _))

section Reading

variable {policy : RetryPolicy}

/-- A namespace in which every account is bound. -/
theorem reads_bindAll (filed : s.Filed) (lists : s.listsFail = false)
    (bound : s.unboundIn n Names.secret = []) :
    (Binding.bindAll policy n Names.secret).Reads 0 s := by
  refine Program.Reads.bind (Program.Reads.liftM (Program.Reads.ask rfl
    (Binding.answer_listServiceAccounts n lists))) ?_
  dsimp only
  rw [Binding.map_unboundIn filed, bound]
  exact Program.Reads.pure

/-- A namespace in which nothing is left to do. -/
theorem reads_ensureNamespace (filed : s.Filed) (lists : s.listsFail = false)
    (done : ¬ s.Behind p n) :
    (Reconcile.ensureNamespace policy p p.document n).Reads ⟨false, 0⟩ s := by
  have nothing : s.refusals p n = [] := by
    by_contra some
    exact done (refusals_ne_nil_iff.1 some)
  -- Nothing is refused, so the secret is current, and there is no account to be bound.
  obtain ⟨x, hx, same, unbound⟩ : ∃ x, s.secrets.get? ⟨n, Names.secret⟩ = some x ∧
      PullSecret.isCurrent x (PullSecret.wanted p p.document n) = true ∧
      s.unboundIn n Names.secret = [] := by
    unfold refusals at nothing
    split at nothing
    next current =>
      obtain ⟨x, hx, same⟩ := (Option.any_eq_true _ _).1 current
      exact ⟨x, hx, same, List.map_eq_nil_iff.1 nothing⟩
    next => cases nothing
  have secret : (PullSecret.ensure policy (PullSecret.wanted p p.document n)).Reads false s :=
    PullSecret.reads_ensure (PullSecret.key_wanted p p.document n) hx same
  exact secret.liftM.bind ((reads_bindAll filed lists unbound).bind Program.Reads.pure)

/-- Resolving the targets of a puller where namespaces can be listed. -/
theorem reads_resolve (filed : s.Filed) {selector : Option LabelSelector} {l : List Namespace}
    (listed : s.listNamespaces selector = .ok l) :
    (Target.resolve selector).Reads (s.targets selector) s := by
  rcases s.listNamespaces_cases selector with ⟨⟨e, he⟩, -⟩ | found
  · rw [he] at listed
    cases listed
  · have answered : s.answer (.listNamespaces selector) =
        (.ok (s.namespaces.values.filter (·.isChosen selector)), s) := congrArg (·, s) found
    refine Program.Reads.bind (Program.Reads.ask rfl answered) ?_
    rw [Target.names_filter filed]
    exact Program.Reads.pure

/-- The summary over namespaces in which nothing was left to do. -/
theorem summarize_unwritten (targets : List String) :
    Reconcile.summarize (targets.map fun n => (n, .ok ⟨false, 0⟩)) = ⟨targets.length, 0, 0⟩ := by
  induction targets with
  | nil => rfl
  | cons n rest ih => simpa [Reconcile.summarize, Except.toOption] using ih

theorem Quiet.reads_converge (h : s.Quiet p) (filed : s.Filed) :
    (Reconcile.converge policy p).Reads
      ⟨(s.targets p.spec.namespaceSelector).length, 0, 0⟩ s := by
  obtain ⟨l, listed⟩ := h.listed
  have lists : s.listsFail = false := listsFail_of_listNamespaces listed
  have each : ∀ n ∈ s.targets p.spec.namespaceSelector,
      (Reconcile.ensureNamespace policy p p.document n).Reads ⟨false, 0⟩ s :=
    fun n hn => reads_ensureNamespace filed lists (h.done n hn)
  refine (reads_resolve filed listed).liftM.bind ((Program.Reads.forEach each).bind
    (Program.Reads.leave.bind (Program.Reads.leave.bind ?_)))
  have fine : (Reconcile.failures ((s.targets p.spec.namespaceSelector).map fun n =>
      (n, .ok ⟨false, 0⟩))).isEmpty = true := by
    simp [Reconcile.failures, Aggregate.isEmpty, List.flatMap_map]
  rw [Program.settle, if_pos fine, summarize_unwritten]
  exact Program.Reads.pure

/-- Reconciling a puller that has nothing to do is reading. -/
theorem Quiet.reads_reconcile (h : s.Quiet p) (config : Config) (filed : s.Filed) :
    (Reconcile.reconcile config p.name).Reads (.requeue config.resyncSeconds) s := by
  refine Reconcile.leads_reconcile_of_live h.stored h.live ⟨rfl, rfl⟩ ?_
  rw [Finalizer.ensure, if_pos h.guarded]
  refine Reconcile.leads_sync (Leads.mono (h.reads_converge filed) ?_)
  rintro _ t ⟨rfl, rfl⟩ readyTime errorTime
  rw [Report.update, Reconcile.failure?, if_pos (h.reported readyTime errorTime)]
  exact ⟨rfl, rfl⟩

end Reading

/-! ## What a reconcile leaves alone -/

/-- Nothing but one puller and the objects of its targets differs, up to counters and faults used
up. -/
structure Apart (p : Puller) (s t : Cluster) : Prop where
  namespaces : t.namespaces = s.namespaces
  listsFail : t.listsFail = s.listsFail
  pullers : ∀ other, other ≠ p.name → t.pullers.get? other = s.pullers.get? other
  elsewhere : ∀ n, n ∉ s.targets p.spec.namespaceSelector → s.SameIn n t

theorem Apart.trans (hst : s.Apart p t) (akin : p.Akin q) (htu : t.Apart q u) : s.Apart p u where
  namespaces := htu.namespaces.trans hst.namespaces
  listsFail := htu.listsFail.trans hst.listsFail
  pullers := by
    intro other hother
    rw [htu.pullers other (akin.name_eq ▸ hother), hst.pullers other hother]
  elsewhere := by
    intro n hn
    refine (hst.elsewhere n hn).trans (htu.elsewhere n ?_)
    rw [akin.spec, targets_congr _ hst.namespaces]
    exact hn

/-- Other pullers are as before, and the puller itself wants what it wanted. -/
structure Kept (p : Puller) (s t : Cluster) : Prop where
  others : ∀ other, other ≠ p.name → t.pullers.get? other = s.pullers.get? other
  own : ∃ q, t.pullers.get? p.name = some q ∧ p.Akin q

theorem Kept.refl (stored : s.pullers.get? p.name = some p) : s.Kept p s :=
  ⟨fun _ _ => rfl, p, stored, .refl p⟩

/-- The write of a puller that wants the same. -/
theorem Persisted.kept {α : Type} {budget : Nat} {commit : Cluster → α × Cluster}
    {r : Except StoreError α} (h : Persisted budget .puller none p.name commit s r t)
    (committed : ∀ u, (commit u).2 = (u.putPuller p.name q).2)
    (stored : s.pullers.get? p.name = some p) (akin : ∀ version, p.Akin (q.stamp version)) :
    s.Kept p t := by
  rcases h.pullers_eq committed with ⟨-, same⟩ | ⟨version, same⟩
  · exact ⟨fun _ _ => by rw [same], p, same ▸ stored, .refl p⟩
  · refine ⟨fun other hother => ?_, q.stamp version, ?_, akin version⟩
    · rw [same, Dict.get?_insert, if_neg hother]
    · rw [same, Dict.get?_insert, if_pos rfl]

theorem Kept.apart (h : s.Kept p t) (tended : s.Tended t) : s.Apart p t :=
  ⟨tended.namespaces, tended.listsFail, h.others, fun n _ => tended.sameIn n⟩

/-- A puller has nothing to do after the reconcile of another one that has other targets. -/
theorem Quiet.apart (h : s.Quiet p) (apart : s.Apart q t) (other : p.name ≠ q.name)
    (disjoint : ∀ n ∈ s.targets p.spec.namespaceSelector,
      n ∉ s.targets q.spec.namespaceSelector) : t.Quiet p where
  stored := (apart.pullers p.name other).trans h.stored
  live := h.live
  guarded := h.guarded
  reported := h.reported
  listed := by
    rw [listNamespaces_congr _ apart.namespaces apart.listsFail]
    exact h.listed
  done := by
    intro n hn
    rw [targets_congr _ apart.namespaces] at hn
    rw [(apart.elsewhere n (disjoint n hn)).behind_iff (.refl p)]
    exact h.done n hn

end Cluster

namespace Finalizer

/-- Guarding a stored puller. -/
theorem ensure_kept {policy : RetryPolicy} {p : Puller} {s : Cluster}
    (stored : s.pullers.get? p.name = some p) :
    (ensure policy p).Ends (fun _ t => s.Kept p t) s := by
  apply (ensure_cases stored).mono
  rintro r t (⟨-, -, rfl⟩ | ⟨-, ended⟩)
  · exact .refl stored
  · exact ended.kept (fun _ => rfl) stored (akin_guarded p)

end Finalizer

namespace Report

/-- Reporting about a stored puller: when it succeeds, the puller has the status. -/
theorem update_kept {policy : RetryPolicy} {p : Puller} {s : Cluster}
    (stored : s.pullers.get? p.name = some p) (status : PullerStatus) :
    (update policy p status).Ends (fun r t => s.Kept p t ∧
      ∀ b, r = .ok b → ∃ q, t.pullers.get? p.name = some q ∧ q.status = some status) s := by
  apply (update_cases stored status).mono
  rintro r t (⟨has, -, rfl⟩ | ⟨-, ended⟩)
  · exact ⟨.refl stored, fun _ _ => ⟨p, stored, has⟩⟩
  · refine ⟨ended.kept (fun _ => rfl) stored fun version => ⟨rfl, _, _, rfl⟩, ?_⟩
    rintro b rfl
    rcases ended.pullers_eq fun _ => rfl with ⟨⟨e, he⟩, -⟩ | ⟨version, same⟩
    · cases he
    · exact ⟨_, by rw [same, Dict.get?_insert, if_pos rfl], rfl⟩

end Report

namespace Reconcile

variable {policy : RetryPolicy} {config : Config} {p : Puller} {name : String} {s t : Cluster}

/-- Working on the targets of a puller leaves all else alone. -/
theorem Converging.apart {r : Except ReconcileError Summary} (h : Converging p s r t) :
    s.Apart p t := by
  refine ⟨h.worked.namespaces, h.worked.listsFail, fun _ _ => by rw [h.worked.pullers], ?_⟩
  intro n hn
  cases h with
  | unresolved => exact .refl n s
  | covered complete covered => exact covered.others n (complete ▸ hn)

/-- Working on the targets succeeds only if they could be listed. -/
theorem converge_listed (filed : s.Filed) :
    (converge policy p).Ends (fun r _ => ∀ summary, r = .ok summary →
      ∃ l, s.listNamespaces p.spec.namespaceSelector = .ok l) s := by
  unfold converge Target.resolve
  refine Program.leads_bind.2 (Program.leads_liftM.2 (Program.leads_bind.2
    (Program.leads_ask.2 ⟨trivial, ?_⟩)))
  have answered : Cluster.handler.call (.listNamespaces p.spec.namespaceSelector) s =
      (s.listNamespaces p.spec.namespaceSelector, s) := rfl
  rw [answered]
  cases s.listNamespaces p.spec.namespaceSelector with
  | error e =>
    intro summary h
    cases h
  | ok l =>
    refine Program.leads_pure.2 ?_
    dsimp only [Except.mapError]
    exact (Program.ends_filed _ filed).mono fun _ _ _ _ _ => ⟨l, rfl⟩

/-- The end of the reconcile of a live puller: nothing but the puller and its targets is touched,
and after a success nothing is left to do. -/
structure Attended (p : Puller) (s : Cluster) (r : Except ReconcileError Action) (t : Cluster) :
    Prop where
  apart : s.Apart p t
  own : ∃ q, t.pullers.get? p.name = some q ∧ p.Akin q
  quiet : ∀ action, r = .ok action → ∃ q, p.Akin q ∧ t.Quiet q

/-- What a successful report leaves is a puller without anything to do. -/
theorem quiet_of_synced {q : Puller} {summary : Summary} {u v : Cluster}
    {readyTime errorTime : String} (live : p.metadata.isTerminating = false)
    (has : p.hasFinalizer = true) (listed : ∃ l, u.listNamespaces p.spec.namespaceSelector = .ok l)
    (converging : Converging p u (.ok summary) v) (tended : v.Tended t)
    (stored : t.pullers.get? p.name = some q) (kept : q.hasFinalizer = p.hasFinalizer)
    (akin : p.Akin q)
    (status : q.status = some (Report.status p.status none readyTime errorTime)) : t.Quiet q where
  stored := by
    rw [akin.name_eq]
    exact stored
  live := akin.isTerminating_eq.trans live
  guarded := kept.trans has
  reported := by
    intro readyTime' errorTime'
    rw [status, Report.status_again]
  listed := by
    rw [akin.spec, Cluster.listNamespaces_congr _
      (tended.namespaces.trans converging.worked.namespaces)
      (tended.listsFail.trans converging.worked.listsFail)]
    exact listed
  done := by
    intro n hn
    rw [akin.spec, Cluster.targets_congr _
      (tended.namespaces.trans converging.worked.namespaces)] at hn
    rw [(tended.sameIn n).behind_iff akin]
    exact Cluster.not_behind_of_converged (converging.converged hn)

/-- The reconcile of a stored puller that is not to be deleted. -/
theorem attended_of_live (filed : s.Filed) (stored : s.pullers.get? name = some p)
    (live : p.metadata.isTerminating = false) :
    (reconcile config name).Ends (Attended p s) s := by
  obtain rfl : p.name = name := filed.pullers name p stored
  refine leads_reconcile_of_live stored live trivial ((((Finalizer.ensure_ends stored).and
    (Finalizer.ensure_kept stored)).and (Program.ends_filed _ filed)).mono ?_)
  rintro (e | q) u ⟨⟨⟨tended, ok, -⟩, kept⟩, filed_u⟩
  · exact ⟨kept.apart tended, kept.own, fun _ h => by cases h⟩
  · obtain ⟨stored_u, has, akin⟩ := ok q rfl
    rw [← akin.name_eq] at stored_u
    have guarding : s.Apart p u := kept.apart tended
    refine leads_sync (((converge_ends filed_u).and (converge_listed filed_u)).mono ?_)
    rintro r v ⟨converging, listed⟩ readyTime errorTime
    have stored_v : v.pullers.get? q.name = some q := by
      rw [converging.worked.pullers]
      exact stored_u
    refine ((Report.update_ends stored_v _).and (Report.update_kept stored_v _)).mono ?_
    rintro b t ⟨⟨tended', ⟨q', stored_t, same, akin'⟩, -⟩, kept', written⟩
    have apart : s.Apart p t :=
      guarding.trans akin (converging.apart.trans (.refl q) (kept'.apart tended'))
    have own : ∃ q, t.pullers.get? p.name = some q ∧ p.Akin q :=
      ⟨q', akin.name_eq ▸ stored_t, akin.trans akin'⟩
    rcases b with e | b
    · exact ⟨apart, own, fun _ h => by cases h⟩
    · refine ⟨apart, own, fun action haction => ?_⟩
      cases r with
      | error e => cases haction
      | ok summary =>
        obtain ⟨q'', stored_t', status⟩ := written b rfl
        rw [stored_t] at stored_t'
        cases stored_t'
        exact ⟨q', akin.trans akin', quiet_of_synced (akin.isTerminating_eq.trans live) has
          (listed summary rfl) converging tended' stored_t same akin' status⟩

/-! ## Groups of pullers -/

/-- The pullers of some names are stored and live, and no two of them have a common target. -/
structure Group (names : List String) (s : Cluster) : Prop where
  live : ∀ name ∈ names, ∃ p, s.pullers.get? name = some p ∧ p.metadata.isTerminating = false
  disjoint : ∀ name ∈ names, ∀ other ∈ names, name ≠ other → ∀ p q,
    s.pullers.get? name = some p → s.pullers.get? other = some q →
      ∀ n ∈ s.targets p.spec.namespaceSelector, n ∉ s.targets q.spec.namespaceSelector

/-- The puller of a name has nothing to do. -/
def Rests (name : String) (s : Cluster) : Prop := ∃ p, p.name = name ∧ s.Quiet p

/-- Reconcile the pullers of some names one after the other. -/
def turns {σ : Type} (h : Handler σ) (config : Config) (names : List String) (x : σ) : σ :=
  names.foldl (fun x name => ((reconcile config name).run h x).2) x

theorem turns_append {σ : Type} (h : Handler σ) (config : Config) (names others : List String)
    (x : σ) : turns h config (names ++ others) x = turns h config others (turns h config names x) :=
  List.foldl_append

section Turns

variable {σ : Type} {w : Surroundings σ} {x : σ} {names : List String} (config)

/-- A puller of the group after the reconcile of a puller: it is the same, or it wants the same. -/
theorem Attended.stored {r : Except ReconcileError Action} (h : Attended p s r t)
    {other : String} {q : Puller} (before : s.pullers.get? p.name = some p)
    (stored : t.pullers.get? other = some q) :
    ∃ q', s.pullers.get? other = some q' ∧ q'.Akin q := by
  by_cases this : other = p.name
  · obtain ⟨p', found, akin⟩ := h.own
    rw [this, found] at stored
    cases stored
    exact ⟨p, this ▸ before, akin⟩
  · rw [h.apart.pullers other this] at stored
    exact ⟨q, stored, .refl q⟩

theorem Group.attended {r : Except ReconcileError Action} (group : Group names s)
    (h : Attended p s r t) (before : s.pullers.get? p.name = some p) : Group names t where
  live := by
    intro other hother
    obtain ⟨q, stored, live⟩ := group.live other hother
    by_cases this : other = p.name
    · obtain ⟨p', found, akin⟩ := h.own
      rw [this, before] at stored
      cases stored
      exact ⟨p', this ▸ found, akin.isTerminating_eq.trans live⟩
    · exact ⟨q, (h.apart.pullers other this).trans stored, live⟩
  disjoint := by
    intro name hname other hother differ p' q' hp hq n hn
    obtain ⟨p₀, stored_p, akin_p⟩ := h.stored before hp
    obtain ⟨q₀, stored_q, akin_q⟩ := h.stored before hq
    rw [akin_p.spec, Cluster.targets_congr _ h.apart.namespaces] at hn
    rw [akin_q.spec, Cluster.targets_congr _ h.apart.namespaces]
    exact group.disjoint name hname other hother differ p₀ q₀ stored_p stored_q n hn

/-- Reconciling a puller that has nothing to do changes nothing, writes nothing, and asks for the
next reconcile after the usual time. -/
theorem Rests.turn (h : Rests name (w.cluster x)) (filed : (w.cluster x).Filed) :
    ((reconcile config name).run w.toHandler x).1 = .ok (.requeue config.resyncSeconds) ∧
      w.cluster ((reconcile config name).run w.toHandler x).2 = w.cluster x ∧
      ∀ e ∈ (reconcile config name).calls w.toHandler x, e.2.isWrite = false := by
  obtain ⟨p, rfl, quiet⟩ := h
  have reads := quiet.reads_reconcile config filed
  obtain ⟨result, same⟩ := Leads.run reads
  exact ⟨result, same, fun e he => (Leads.calls reads e he).2⟩

/-- One turn of a puller of the group: the group stays one, pullers that have nothing to do keep
having nothing to do, and so does the puller itself if it succeeds. -/
theorem Group.turn (group : Group names (w.cluster x)) (filed : (w.cluster x).Filed)
    (member : name ∈ names) :
    let r := (reconcile config name).run w.toHandler x
    Group names (w.cluster r.2) ∧
      (∀ other ∈ names, Rests other (w.cluster x) → Rests other (w.cluster r.2)) ∧
      ∀ action, r.1 = .ok action → Rests name (w.cluster r.2) := by
  intro r
  obtain ⟨p, stored, live⟩ := group.live name member
  have named : p.name = name := filed.pullers name p stored
  have ended : Attended p (w.cluster x) r.1 (w.cluster r.2) :=
    (attended_of_live filed stored live).run
  refine ⟨group.attended ended (named ▸ stored), ?_, ?_⟩
  · intro other hother rests
    by_cases this : other = name
    · subst this
      rw [(rests.turn config filed).2.1]
      exact rests
    · obtain ⟨q, rfl, quiet⟩ := rests
      refine ⟨q, rfl, quiet.apart ended.apart (named ▸ this) ?_⟩
      exact group.disjoint q.name hother name member this q p quiet.stored stored
  · intro action fine
    obtain ⟨q, akin, quiet⟩ := ended.quiet action fine
    exact ⟨q, akin.name_eq.trans named, quiet⟩

theorem filed_turns (filed : (w.cluster x).Filed) (turn : List String) :
    (w.cluster (turns w.toHandler config turn x)).Filed := by
  induction turn generalizing x with
  | nil => exact filed
  | cons name rest ih => exact ih (Program.ends_filed _ filed).run

/-- Any turns of pullers of the group. -/
theorem Group.turns (group : Group names (w.cluster x)) (filed : (w.cluster x).Filed)
    {turn : List String} (members : ∀ name ∈ turn, name ∈ names) :
    Group names (w.cluster (turns w.toHandler config turn x)) ∧
      ∀ other ∈ names, Rests other (w.cluster x) →
        Rests other (w.cluster (turns w.toHandler config turn x)) := by
  induction turn generalizing x with
  | nil => exact ⟨group, fun _ _ rests => rests⟩
  | cons name rest ih =>
    obtain ⟨group', stay, -⟩ := group.turn config filed
      (members name List.mem_cons_self)
    obtain ⟨group'', stay'⟩ := ih group' (Program.ends_filed _ filed).run
      fun other hother => members other (List.mem_cons_of_mem name hother)
    exact ⟨group'', fun other hother rests => stay' other hother (stay other hother rests)⟩

/-- Turns of pullers that have nothing to do change nothing. -/
theorem cluster_turns_of_rests (filed : (w.cluster x).Filed) {turn : List String}
    (rests : ∀ name ∈ turn, Rests name (w.cluster x)) :
    w.cluster (turns w.toHandler config turn x) = w.cluster x := by
  induction turn generalizing x with
  | nil => rfl
  | cons name rest ih =>
    obtain ⟨-, same, -⟩ := (rests name List.mem_cons_self).turn config filed
    refine (ih (same ▸ filed) fun other hother => ?_).trans same
    rw [same]
    exact rests other (List.mem_cons_of_mem name hother)

/-- Pullers without common targets are reconciled in any order, until each of them has succeeded
once. From then on, however often they are reconciled and in whatever order, every reconcile
succeeds with the next one after the usual time, it makes no write, and the cluster stays the
same. -/
theorem quiet_of_turns (reachable : Reachable (w.cluster x)) (group : Group names (w.cluster x))
    {first : List String} (members : ∀ name ∈ first, name ∈ names)
    (succeeded : ∀ name ∈ names, ∃ earlier later action, first = earlier ++ name :: later ∧
      ((reconcile config name).run w.toHandler (turns w.toHandler config earlier x)).1 = .ok action)
    {more : List String} (members' : ∀ name ∈ more, name ∈ names) (member : name ∈ names) :
    let s := w.cluster (turns w.toHandler config first x)
    let y := turns w.toHandler config (first ++ more) x
    w.cluster y = s ∧
      ((reconcile config name).run w.toHandler y).1 = .ok (.requeue config.resyncSeconds) ∧
      w.cluster ((reconcile config name).run w.toHandler y).2 = s ∧
      ∀ e ∈ (reconcile config name).calls w.toHandler y, e.2.isWrite = false := by
  intro s y
  have filed := reachable.filed
  have rests : ∀ other ∈ names, Rests other s := by
    intro other hother
    obtain ⟨earlier, later, action, rfl, fine⟩ := succeeded other hother
    -- The puller has nothing to do after its success, and the turns that follow leave it so.
    have before := group.turns config filed
      fun name hname => members name (List.mem_append_left _ hname)
    have filed_e := filed_turns config filed earlier
    obtain ⟨group', -, now⟩ := before.1.turn config filed_e hother
    have after := group'.turns config (Program.ends_filed _ filed_e).run
      fun name hname => members name (List.mem_append_right _ (List.mem_cons_of_mem other hname))
    have rests := after.2 other hother (now action fine)
    show Rests other (w.cluster (turns w.toHandler config (earlier ++ other :: later) x))
    rw [turns_append]
    exact rests
  have same : w.cluster y = s := by
    show w.cluster (turns w.toHandler config (first ++ more) x) = s
    rw [turns_append]
    exact cluster_turns_of_rests config (filed_turns config filed first) fun other hother =>
      rests other (members' other hother)
  have turn := Rests.turn (w := w) (x := y) config (same.symm ▸ rests name member)
    (filed_turns config filed _)
  exact ⟨same, turn.1, turn.2.1.trans same, turn.2.2⟩

/-- A cluster of two namespaces with a label each, and with a puller for each label. -/
def teams : Cluster :=
  let puller (name team : String) : Puller := {
    metadata := { name := some name }
    spec := {
      registries := Puller.sample.spec.registries
      namespaceSelector := some { matchLabels := some (Dict.ofList [("team", team)]) } } }
  Cluster.empty.changes [
    .addNamespace "default" (Dict.ofList [("team", "a")]),
    .addNamespace "kube-system" (Dict.ofList [("team", "b")]),
    .addServiceAccount "default" "default",
    .addServiceAccount "kube-system" "default",
    .createPuller (puller "creds1" "a"),
    .createPuller (puller "creds2" "b")]

theorem group_teams : Group ["creds1", "creds2"] teams := by
  have seen (name : String) (hname : name ∈ ["creds1", "creds2"]) :
      (teams.pullers.get? name).map (fun p =>
        (p.metadata.isTerminating, teams.targets p.spec.namespaceSelector)) =
          some (false, if name = "creds1" then ["default"] else ["kube-system"]) := by
    rcases List.mem_pair.1 hname with rfl | rfl
    · decide +kernel
    · decide +kernel
  constructor
  · intro name hname
    obtain ⟨p, stored, found⟩ := Option.map_eq_some_iff.1 (seen name hname)
    exact ⟨p, stored, (Prod.mk.inj found).1⟩
  · intro name hname other hother differ p q hp hq
    have targets := seen name hname
    have targets' := seen other hother
    rw [hp, Option.map_some, Option.some.injEq, Prod.mk.injEq] at targets
    rw [hq, Option.map_some, Option.some.injEq, Prod.mk.injEq] at targets'
    rw [targets.2, targets'.2]
    rcases List.mem_pair.1 hname with rfl | rfl <;> rcases List.mem_pair.1 hother with rfl | rfl
    · exact absurd rfl differ
    · decide
    · decide
    · exact absurd rfl differ

/-- Both pullers are reconciled once with success, and then some more times. -/
theorem quiet_of_turns_teams :
    let h := (Cluster.alone "").toHandler
    let s := turns h {} ["creds1", "creds2"] teams
    let y := turns h {} ["creds1", "creds2", "creds2", "creds1", "creds2", "creds2"] teams
    y = s ∧ ((reconcile {} "creds1").run h y).1 = .ok (.requeue 600) ∧
      ((reconcile {} "creds1").run h y).2 = s ∧
      ∀ e ∈ (reconcile {} "creds1").calls h y, e.2.isWrite = false := by
  have first : ((reconcile {} "creds1").run (Cluster.alone "").toHandler teams).1.toOption =
      some (.requeue 600) := by decide +kernel
  have second : ((reconcile {} "creds2").run (Cluster.alone "").toHandler
      (turns (Cluster.alone "").toHandler {} ["creds1"] teams)).1.toOption =
        some (.requeue 600) := by decide +kernel
  have more : ∀ name ∈ ["creds2", "creds1", "creds2", "creds2"], name ∈ ["creds1", "creds2"] := by
    decide
  refine quiet_of_turns (w := Cluster.alone "") (x := teams) {} (Reachable.empty.changes _)
    group_teams (fun _ h => h) ?_ more List.mem_cons_self
  intro name hname
  rcases List.mem_pair.1 hname with rfl | rfl
  · exact ⟨[], ["creds2"], _, rfl, eq_ok_of_toOption first⟩
  · exact ⟨["creds1"], [], _, rfl, eq_ok_of_toOption second⟩

end Turns

end Reconcile

end PullSecrets
