import PullSecrets.Proofs.Quiescence
import PullSecrets.Proofs.Sameness
import PullSecrets.Proofs.Twins

/-!
# Giving a puller other credentials

After a reconcile that succeeded, every target of a puller has a secret that is current, every
account is bound to it, and the status says so. If the puller is given other credentials, nothing
but these secrets can be left to write: one replacement for each target if the last credentials of
any server have changed, and nothing at all if they are what they were. A journal goes along with
a run to tell which writes it asks for, and in which order.

## Main facts

* `Journal.run_of_leads`: the journal of a run has its writes.
* `Reconcile.leads_reconcile_of_outdated`: a reconcile that has nothing but secrets to replace.
* `Reconcile.rewritten_of_edit`: the reconcile that follows the edit of the credentials.
-/

namespace PullSecrets

open Cluster (Alike)
open Program (ask Ends Leads)

/-! ## The writes of a run -/

/-- A cluster, and the writes that it was asked for, each with its answer. -/
structure Journal where
  cluster : Cluster
  writes : List ((c : Call) × c.Reply) := []

namespace Journal

variable {σ ε α : Type} {x : Journal}

/-- The journal after a call. -/
def enter (c : Call) (x : Journal) : Journal where
  cluster := (x.cluster.answer c).2
  writes := x.writes ++ if c.isWrite then [⟨c, (x.cluster.answer c).1⟩] else []

/-- Journals as what programs run against. -/
def handler : Handler Journal where
  call := fun c x => ((x.cluster.answer c).1, x.enter c)
  clock := fun x => ("", x)
  note := fun _ x => x

/-- Reading and listing is not entered. -/
theorem call_of_reads {c : Call} {r : c.Reply} (reads : c.isWrite = false)
    (answered : x.cluster.answer c = (r, x.cluster)) : handler.call c x = (r, x) := by
  show ((x.cluster.answer c).1, x.enter c) = (r, x)
  simp [enter, answered, reads]

/-- What a program leads to in a cluster, it leads to with a journal at hand. -/
theorem leads_of_ends {p : Program ε α} {ends : Except ε α → Cluster → Prop}
    (hp : p.Ends ends x.cluster) :
    p.Leads handler (fun _ _ => True) (fun r y => ends r y.cluster) x := by
  induction p generalizing x with
  | done a => exact hp
  | fail e => exact hp
  | call c next ih => exact ⟨trivial, ih _ hp.2⟩
  | clock next ih => exact fun time => ih _ (hp time)
  | note n next ih => exact ih _ hp

/-- A program that only reads leaves the journal as it is. -/
theorem leads_of_reads {p : Program ε α} {a : α} (hp : p.Reads a x.cluster) :
    p.Leads handler (fun _ _ => True) (fun r y => r = .ok a ∧ y = x) x := by
  induction p with
  | done b => exact ⟨hp.1, rfl⟩
  | fail e => exact ⟨hp.1, rfl⟩
  | call c next ih =>
    obtain ⟨⟨-, reads⟩, later⟩ := hp
    have same : (x.cluster.answer c).2 = x.cluster := x.cluster.answer_of_not_isWrite reads
    have entered : handler.call c x = ((x.cluster.answer c).1, x) :=
      call_of_reads reads (Prod.ext rfl same)
    refine ⟨trivial, ?_⟩
    rw [entered]
    refine ih _ ?_
    rw [← same]
    exact same.symm ▸ later
  | clock next ih => exact fun time => ih _ (hp time)
  | note n next ih => exact ih _ hp

/-- The journal of a run has the writes of the run, after those that it had before. -/
theorem run_of_leads {w : Surroundings σ} {p : Program ε α} {y : σ}
    {writes : List ((c : Call) × c.Reply)} {each : Journal → Call → Prop}
    {ends : Except ε α → Journal → Prop} (hp : p.Leads handler each ends ⟨w.cluster y, writes⟩) :
    ends (p.run w.toHandler y).1 ⟨w.cluster (p.run w.toHandler y).2,
      writes ++ p.exchanges w.toHandler Call.isWrite y⟩ := by
  induction p generalizing y writes with
  | done a =>
    show ends (.ok a) ⟨w.cluster y, writes ++ []⟩
    rw [List.append_nil]
    exact hp
  | fail e =>
    show ends (.error e) ⟨w.cluster y, writes ++ []⟩
    rw [List.append_nil]
    exact hp
  | call c next ih =>
    have answered : (w.toHandler.call c y).1 = ((w.cluster y).answer c).1 := w.call_fst c y
    have later := hp.2
    simp only [handler, enter, ← answered, ← w.cluster_call] at later
    have ended := ih _ later
    rw [List.append_assoc] at ended
    rw [Program.exchanges_call]
    exact ended
  | clock next ih =>
    have later := hp (w.toHandler.clock y).1
    rw [← w.cluster_clock] at later
    exact ih _ later
  | note n next ih =>
    have later := hp
    rw [Program.Leads] at later
    refine ih _ (y := w.toHandler.note n y) ?_
    rw [w.cluster_note]
    exact later

end Journal

/-! ## Replacing one secret -/

/-- An entry about a namespace: the secret that was there is replaced by what it is merged to, and
the replacement is accepted. -/
def Cluster.Renews (s : Cluster) (wanted : String → Secret) (n : String)
    (entry : (c : Call) × c.Reply) : Prop :=
  ∃ x v, s.secrets.get? ⟨n, Names.secret⟩ = some x ∧
    entry = ⟨.replaceSecret (PullSecret.merge x (wanted n)), .ok v⟩

/-- A secret that is not current is replaced, by one write, where there are no faults. -/
theorem PullSecret.leads_replaced (policy : RetryPolicy) {x old : Secret} {key : ObjectKey}
    {y : Journal} (placed : x.metadata.key .secret = .ok key) (filed : y.cluster.Filed)
    (stored : y.cluster.secrets.get? key = some old) (differs : isCurrent old x = false)
    (calm : y.cluster.pendingConflicts = 0) (spared : y.cluster.Open (some key.inNamespace)) :
    (ensure policy x).Leads Journal.handler (fun _ _ => True) (fun r z => r = .ok true ∧
      z = ⟨(y.cluster.putSecret key (merge old x)).2, y.writes ++
        [⟨.replaceSecret (merge old x), .ok (y.cluster.putSecret key (merge old x)).1⟩]⟩) y := by
  obtain ⟨hns, hname⟩ := Metadata.key_eq_ok_iff.1 placed
  have found : Journal.handler.call (.getSecret (x.metadata.inNamespace.getD "")
      x.metadata.effectiveName) y = (.ok (y.cluster.secrets.get? key), y) := by
    refine Journal.call_of_reads rfl ?_
    rw [hns, hname]
    rfl
  have replaced : y.cluster.answer (.replaceSecret (merge old x)) =
      (.ok (y.cluster.putSecret key (merge old x)).1,
        (y.cluster.putSecret key (merge old x)).2) := by
    obtain ⟨ok, after⟩ := (Cluster.persisted_replaceSecret (x := merge old x)
      (filed.secrets key old stored) stored rfl rfl).of_calm calm spared Nat.one_pos
    rw [Cluster.calm_of_pendingConflicts_eq_zero calm] at ok after
    exact Prod.ext ok after
  refine Leads.retry_once (fun _ _ => rfl) ((Program.leads_ask_ok found).2 ⟨trivial, ?_⟩)
  simp only [stored, differs, Bool.false_eq_true, if_false]
  refine leads_written.2 (Program.leads_ask.2 ⟨trivial, ?_⟩)
  simp [Journal.handler, Journal.enter, replaced, Call.isWrite, Except.map]

/-! ## Nothing but secrets to replace -/

/-- A stored puller has nothing to do but to replace the secrets of its targets, and there are no
faults that could keep it from that. -/
structure Cluster.Outdated (s : Cluster) (p : Puller) : Prop where
  stored : s.pullers.get? p.name = some p
  live : p.metadata.isTerminating = false
  guarded : p.hasFinalizer = true
  reported : ∀ readyTime errorTime,
    p.status = some (Report.status p.status none readyTime errorTime)
  listed : ∃ l, s.listNamespaces p.spec.namespaceSelector = .ok l
  calm : s.pendingConflicts = 0
  spared : s.failingNamespaces = []
  outdated : ∀ n ∈ s.targets p.spec.namespaceSelector, ∃ x,
    s.secrets.get? ⟨n, Names.secret⟩ = some x ∧
      PullSecret.isCurrent x (PullSecret.wanted p p.document n) = false
  bound : ∀ n ∈ s.targets p.spec.namespaceSelector, s.unboundIn n Names.secret = []

namespace Reconcile

variable {policy : RetryPolicy} {p : Puller} {s : Cluster} {n : String} {results : Results}
  {y : Journal}

/-- The work on the first targets has replaced their secrets, in order, and nothing else. -/
structure Renewed (p : Puller) (s : Cluster) (results : Results) (y : Journal) : Prop where
  rest : Alike { s with secrets := y.cluster.secrets } y.cluster
  filed : y.cluster.Filed
  others : ∀ n, n ∉ results.map (·.1) →
    y.cluster.secrets.get? ⟨n, Names.secret⟩ = s.secrets.get? ⟨n, Names.secret⟩
  fine : ∀ r ∈ results, r.2 = .ok ⟨true, 0⟩
  writes : List.Forall₂ (s.Renews (PullSecret.wanted p p.document)) (results.map (·.1)) y.writes

theorem Renewed.nil (p : Puller) (filed : s.Filed) : Renewed p s [] ⟨s, []⟩ where
  rest := Alike.refl s
  filed := filed
  others := fun _ _ => rfl
  fine := nofun
  writes := .nil

/-- The work on one more target. -/
theorem Renewed.leads_next (h : Renewed p s results y) (due : s.Outdated p)
    (target : n ∈ s.targets p.spec.namespaceSelector) (new : n ∉ results.map (·.1)) :
    (ensureNamespace policy p p.document n).Leads Journal.handler (fun _ _ => True)
      (fun r z => Renewed p s (results ++ [(n, r)]) z) y := by
  obtain ⟨x, stored, differs⟩ := due.outdated n target
  have calm : y.cluster.pendingConflicts = 0 := Nat.le_zero.1 (due.calm ▸ h.rest.pendingConflicts)
  have spared : y.cluster.Open (some n) := by
    intro ns _ broken
    rw [h.rest.failingNamespaces] at broken
    simp [due.spared] at broken
  have lists : y.cluster.listsFail = false := by
    obtain ⟨l, listed⟩ := due.listed
    exact h.rest.listsFail.trans (Cluster.listsFail_of_listNamespaces listed)
  have secret := PullSecret.leads_replaced policy
    (PullSecret.key_wanted p p.document n) h.filed ((h.others n new).trans stored) differs calm
    spared
  refine Program.leads_bind.2 (Program.leads_liftM.2
    ((secret.and (Journal.leads_of_ends (Program.ends_filed _ h.filed))).mono ?_))
  rintro _ z ⟨⟨rfl, rfl⟩, filed⟩
  -- Replacing a secret leaves the accounts as they are, and all of them are bound.
  have bound : (y.cluster.putSecret ⟨n, Names.secret⟩
      (PullSecret.merge x (PullSecret.wanted p p.document n))).2.unboundIn n Names.secret = [] := by
    rw [← due.bound n target]
    exact congrArg (fun d => Cluster.unboundIn { s with serviceAccounts := d } n Names.secret)
      h.rest.serviceAccounts
  have accounts := Journal.leads_of_reads (p := Binding.bindAll policy n Names.secret)
    (Cluster.reads_bindAll filed lists bound)
  dsimp only [Except.mapError]
  refine Program.leads_bind.2 (accounts.mono ?_)
  rintro _ z ⟨rfl, rfl⟩
  refine Program.leads_pure.2 ⟨?_, filed, ?_, ?_, ?_⟩
  · exact ⟨h.rest.pullers, h.rest.namespaces, rfl, h.rest.serviceAccounts, h.rest.listsFail,
      h.rest.failingNamespaces, h.rest.pendingConflicts⟩
  · intro m hm
    simp only [List.map_append, List.map_cons, List.map_nil, List.mem_append, List.mem_singleton,
      not_or] at hm
    have other : (⟨m, Names.secret⟩ : ObjectKey) ≠ ⟨n, Names.secret⟩ := by simp [hm.2]
    rw [← h.others m hm.1]
    exact (Dict.get?_insert ..).trans (if_neg other)
  · intro r hr
    rcases List.mem_append.1 hr with before | last
    · exact h.fine r before
    · rw [List.mem_singleton.1 last]
  · rw [List.map_append]
    exact List.rel_append h.writes (.cons ⟨x, _, stored, rfl⟩ .nil)

/-- Without failures nothing is in the way of the summary. -/
theorem failures_isEmpty (fine : ∀ r ∈ results, ∃ o, r.2 = .ok o) :
    (failures results).isEmpty = true := by
  rw [failures, Aggregate.isEmpty, List.isEmpty_iff, List.flatMap_eq_nil_iff]
  rintro ⟨n, r⟩ hr
  obtain ⟨o, rfl⟩ := fine _ hr
  rfl

/-- Working on the targets replaces the secret of each of them once, in order. -/
theorem leads_converge_of_outdated (due : s.Outdated p) (filed : s.Filed) :
    (converge policy p).Leads Journal.handler (fun _ _ => True) (fun r z =>
      (∃ summary, r = .ok summary) ∧
        List.Forall₂ (s.Renews (PullSecret.wanted p p.document))
          (s.targets p.spec.namespaceSelector) z.writes) ⟨s, []⟩ := by
  obtain ⟨l, listed⟩ := due.listed
  have resolved := Journal.leads_of_reads (x := ⟨s, []⟩) (Cluster.reads_resolve filed listed)
  unfold converge
  refine Program.leads_bind.2 (Program.leads_liftM.2 (resolved.mono ?_))
  rintro _ y ⟨rfl, rfl⟩
  dsimp only [Except.mapError]
  refine Program.leads_bind.2 ((Leads.forEach (fun results z => Renewed p s results z)
    (fun results n rest z left h => ?_) (.nil p filed)).mono ?_)
  · have target : n ∈ s.targets p.spec.namespaceSelector := by
      rw [left]
      exact List.mem_append_right _ List.mem_cons_self
    exact h.leads_next due target (Program.not_mem_of_reached (s.nodup_targets _) left)
  · rintro _ z ⟨results, rfl, complete, renewed⟩
    refine Program.leads_settle.2 ⟨⟨summarize results, ?_⟩, complete ▸ renewed.writes⟩
    rw [if_pos (failures_isEmpty fun r hr => ⟨_, renewed.fine r hr⟩)]

/-- The reconcile of a puller that has nothing to do but to replace the secrets of its targets. -/
theorem leads_reconcile_of_outdated (config : Config) (due : s.Outdated p) (filed : s.Filed) :
    (reconcile config p.name).Leads Journal.handler (fun _ _ => True) (fun r z =>
      r = .ok (.requeue config.resyncSeconds) ∧
        List.Forall₂ (s.Renews (PullSecret.wanted p p.document))
          (s.targets p.spec.namespaceSelector) z.writes) ⟨s, []⟩ := by
  have found : Journal.handler.call (.getPuller p.name) ⟨s, []⟩ = (.ok (some p), ⟨s, []⟩) :=
    Journal.call_of_reads rfl (by rw [← due.stored]; rfl)
  refine leads_reconcile_of_found (fun _ _ => rfl) found due.live trivial ?_
  rw [Finalizer.ensure, if_pos due.guarded]
  refine leads_sync ((leads_converge_of_outdated due filed).mono ?_)
  rintro r z ⟨⟨summary, rfl⟩, renewed⟩ readyTime errorTime
  -- The status says already that all is well.
  rw [Report.update, failure?, if_pos (due.reported readyTime errorTime)]
  exact ⟨rfl, renewed⟩

end Reconcile

/-! ## Edits -/

/-- The puller with another specification. -/
def Puller.edited (p : Puller) (spec : PullerSpec) (version : String) : Puller :=
  { p with
    spec := spec
    metadata := { p.metadata with
      resourceVersion := some version
      generation := some (p.metadata.generation.getD 0 + 1) } }

/-- A puller that is akin wants the same as the puller, whatever specification it is given. -/
theorem Puller.Akin.wanted_edited_eq {p q : Puller} (akin : p.Akin q) (spec : PullerSpec)
    (version : String) (document : ByteArray) (n : String) :
    PullSecret.wanted (q.edited spec version) document n = PullSecret.wanted p document n := by
  have name : (q.edited spec version).name = p.name := akin.name_eq
  have owner : (q.edited spec version).owner? = p.owner? := by
    obtain ⟨-, _, _, metadata⟩ := akin
    rw [Puller.owner?, Puller.edited, metadata]
    rfl
  rw [PullSecret.wanted, PullSecret.wanted, name, owner]

namespace Cluster

variable {s : Cluster} {p : Puller} {n : String} {bs : List Registry}

/-- Giving a stored puller another specification. -/
theorem editPuller_of_stored {name : String} (stored : s.pullers.get? name = some p)
    (spec : PullerSpec) :
    (s.change (.editPuller name spec)).2 =
      { s.tick with pullers := s.pullers.insert name (p.edited spec s.tick.versionText) } := by
  simp only [change, editPuller, tick, stored]
  rfl

/-- What there is in a namespace in which nothing is left to do. -/
theorem current_of_not_behind (h : ¬ s.Behind p n) :
    (∃ x, s.secrets.get? ⟨n, Names.secret⟩ = some x ∧ x.Carries p) ∧
      s.unboundIn n Names.secret = [] := by
  simp only [Behind, not_or, not_forall, not_not, not_exists, not_and, exists_prop] at h
  obtain ⟨current, bound⟩ := h
  refine ⟨current, List.eq_nil_iff_forall_not_mem.2 ?_⟩
  rintro ⟨ns, name⟩ unbound
  obtain ⟨rfl, a, stored, lacks⟩ := mem_unboundIn.1 unbound
  exact lacks (bound name a stored)

section Edited

variable {version : String}

/-- A secret that is current for a puller is so after the edit of its credentials, if and only if
the last credentials of every server are what they were. -/
theorem carries_edited_iff {x : Secret} (carries : x.Carries p) :
    x.Carries (p.edited { p.spec with registries := bs } version) ↔
      ∀ server, Credentials.last? p.spec.registries server = Credentials.last? bs server := by
  rw [← Credentials.same_bytes_iff]
  obtain ⟨held, holds, same⟩ := carries.data
  constructor
  · intro current
    obtain ⟨held', holds', same'⟩ := current.data
    obtain rfl : held = held' := by
      rw [holds] at holds'
      simpa using holds'
    exact Credentials.same_trans ((Credentials.same_comm ..).trans same) same'
  · intro alike
    exact ⟨carries.type, ⟨held, holds, Credentials.same_trans same alike⟩, carries.label,
      carries.owner⟩

theorem Quiet.edited (h : s.Quiet p)
    (alike : ∀ server, Credentials.last? p.spec.registries server = Credentials.last? bs server) :
    (s.change (.editPuller p.name { p.spec with registries := bs })).2.Quiet
      (p.edited { p.spec with registries := bs } s.tick.versionText) := by
  rw [editPuller_of_stored h.stored]
  refine ⟨Dict.get?_insert .. |>.trans (if_pos rfl), h.live, h.guarded, h.reported, h.listed, ?_⟩
  intro n target
  obtain ⟨⟨x, stored, carries⟩, bound⟩ := current_of_not_behind (h.done n target)
  rintro (outdated | ⟨name, a, there, unbound⟩)
  · exact outdated x stored ((carries_edited_iff carries).2 alike)
  · have listed : (⟨n, name⟩ : ObjectKey) ∈ s.unboundIn n Names.secret :=
      mem_unboundIn.2 ⟨rfl, a, there, unbound⟩
    rw [bound] at listed
    cases listed

theorem Quiet.outdated (h : s.Quiet p) (calm : s.pendingConflicts = 0)
    (spared : s.failingNamespaces = [])
    (differ : ¬ ∀ server,
      Credentials.last? p.spec.registries server = Credentials.last? bs server) :
    (s.change (.editPuller p.name { p.spec with registries := bs })).2.Outdated
      (p.edited { p.spec with registries := bs } s.tick.versionText) := by
  rw [editPuller_of_stored h.stored]
  refine ⟨Dict.get?_insert .. |>.trans (if_pos rfl), h.live, h.guarded, h.reported, h.listed, calm,
    spared, fun n target => ?_, fun n target => (current_of_not_behind (h.done n target)).2⟩
  obtain ⟨⟨x, stored, carries⟩, -⟩ := current_of_not_behind (h.done n target)
  refine ⟨x, stored, Bool.eq_false_iff.2 fun current => differ ?_⟩
  exact (carries_edited_iff carries).1 ((PullSecret.isCurrent_wanted_iff n).1 current)

end Edited

end Cluster

namespace Reconcile

/-- A live puller is reconciled with success, in a cluster in which no faults are left, and then it
is given other credentials and reconciled again. If the last credentials of every server are what
they were, nothing is written. If not, the secret of each target is replaced once, in order, and
nothing else is written. -/
theorem rewritten_of_edit {σ τ : Type} (w : Surroundings σ) (w' : Surroundings τ)
    (config config' : Config) {x : σ} {y : τ} {name : String} {p : Puller} {action : Action}
    (reachable : Reachable (w.cluster x))
    (stored : (w.cluster x).pullers.get? name = some p) (live : p.metadata.isTerminating = false)
    (fine : ((reconcile config name).run w.toHandler x).1 = .ok action) :
    let t := w.cluster ((reconcile config name).run w.toHandler x).2
    t.pendingConflicts = 0 → t.failingNamespaces = [] → ∀ bs : List Registry,
      w'.cluster y = (t.change (.editPuller name { p.spec with registries := bs })).2 →
      let e := (reconcile config' name).exchanges w'.toHandler Call.isWrite y
      ((reconcile config' name).run w'.toHandler y).1 = .ok (.requeue config'.resyncSeconds) ∧
      ((∀ server, Credentials.last? p.spec.registries server = Credentials.last? bs server) →
        e = []) ∧
      (¬ (∀ server, Credentials.last? p.spec.registries server = Credentials.last? bs server) →
        List.Forall₂ (t.Renews (PullSecret.wanted p (Credentials.bytes bs)))
          (t.targets p.spec.namespaceSelector) e) := by
  intro t calm spared bs edited e
  have filed := reachable.filed
  obtain rfl : p.name = name := filed.pullers name p stored
  have filed_t : t.Filed := (Program.ends_filed _ filed).run
  have attended : Attended p (w.cluster x) _ t := (attended_of_live filed stored live).run
  obtain ⟨q, akin, quiet⟩ := attended.quiet action fine
  have named : q.name = p.name := akin.name_eq
  -- The puller that is stored wants what `p` wanted, up to the credentials.
  have wants : PullSecret.wanted (q.edited { q.spec with registries := bs } t.tick.versionText)
      (Credentials.bytes bs) = PullSecret.wanted p (Credentials.bytes bs) := by
    funext n
    exact akin.wanted_edited_eq _ _ _ n
  rw [← akin.spec, ← named] at edited
  have filed_y : (w'.cluster y).Filed := edited ▸ filed_t.change _
  by_cases alike : ∀ server,
      Credentials.last? p.spec.registries server = Credentials.last? bs server
  · have reads := (quiet.edited (akin.spec ▸ alike)).reads_reconcile config' (edited ▸ filed_y)
    rw [← edited] at reads
    have ended := Journal.run_of_leads (Journal.leads_of_reads (x := ⟨w'.cluster y, []⟩) reads)
    rw [show (q.edited _ _).name = p.name from named] at ended
    exact ⟨ended.1, fun _ => congrArg Journal.writes ended.2, fun differ => absurd alike differ⟩
  · have outdated := quiet.outdated calm spared (akin.spec ▸ alike)
    rw [← edited] at outdated
    have ended := Journal.run_of_leads (leads_reconcile_of_outdated config' outdated filed_y)
    rw [show (q.edited _ _).name = p.name from named] at ended
    obtain ⟨result, renewed⟩ := ended
    refine ⟨result, fun same => absurd same alike, fun _ => ?_⟩
    -- Nothing but the puller has been edited, so what is renewed is what was stored before.
    have same := Cluster.editPuller_of_stored quiet.stored { q.spec with registries := bs }
    have renews : (w'.cluster y).Renews = t.Renews := by
      funext wanted n entry
      rw [edited, same]
      rfl
    have targets : (w'.cluster y).targets q.spec.namespaceSelector =
        t.targets p.spec.namespaceSelector := by
      rw [edited, same, akin.spec]
      rfl
    rw [← wants, ← targets, ← renews]
    exact renewed

/-- The credentials of the small cluster, after an entry that they hide, and with another
password. -/
theorem rewritten_of_edit_sample :
    let w := Cluster.alone ""
    let t := w.cluster ((reconcile {} "creds1").run w.toHandler .sample).2
    let writes (bs : List Registry) := (reconcile {} "creds1").exchanges w.toHandler Call.isWrite
      (t.change (.editPuller "creds1" { Puller.sample.spec with registries := bs })).2
    writes [
      { server := "reg.example.com", username := "v", email := "v@example.com" },
      { server := "reg.example.com", username := "u", password := "p" }] = [] ∧
    (writes [{ server := "reg.example.com", username := "u", password := "q" }]).length = 2 := by
  intro w t writes
  have stored : Cluster.sample.pullers.get? "creds1" = some .sample := by decide +kernel
  have fine : ((reconcile {} "creds1").run w.toHandler .sample).1.toOption =
      some (.requeue 600) := by
    decide +kernel
  have targets : (t.targets none).length = 2 := by decide +kernel
  have edit (bs : List Registry) := rewritten_of_edit w w {} {} Cluster.reachable_sample stored rfl
    (eq_ok_of_toOption fine) (by decide +kernel) (by decide +kernel) bs (Cluster.cluster_alone "" _)
  constructor
  · refine (edit _).2.1 fun server => ?_
    by_cases this : "reg.example.com" = server
    · simp [Credentials.last?, Puller.sample, this]
    · simp [Credentials.last?, Puller.sample, this]
  · refine ((edit _).2.2 fun alike => ?_).length_eq.symm.trans targets
    have differ : Credentials.last? Puller.sample.spec.registries "reg.example.com" ≠
        Credentials.last? [{ server := "reg.example.com", username := "u", password := "q" }]
          "reg.example.com" := by decide
    exact differ (alike _)

end Reconcile

end PullSecrets
