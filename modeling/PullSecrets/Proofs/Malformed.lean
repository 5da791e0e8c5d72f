import PullSecrets.Json.Writer
import PullSecrets.Live.Answer
import PullSecrets.Proofs.Sync

/-!
# Selectors without a meaning

A selector with an unknown operator, or with an operator that does not go with its values, means
nothing. Against a server its listing fails before anything is sent. A cluster looks at the selector
once for each namespace, so there the listing fails in the same way as soon as there is a namespace;
without any namespace it succeeds, and the reconcile with it.

## Main facts

* `Cluster.listNamespaces_selector_iff`, `Live.call_listNamespaces_selector_iff`: when a listing
  blames the selector.
* `Reconcile.rejected_of_invalid`: a puller with such a selector is reported as not ready.
* `Reconcile.ready_without_namespaces`: without a namespace it is reported as ready.
-/

namespace PullSecrets

open Cluster (Persisted)
open Program (ask Leads)

/-! ## Listing -/

namespace Cluster

/-- Choosing blames the selector if there is anything to choose from. -/
theorem choose_error_iff (l : LabelSelector) (namespaces : List Namespace) (e : SelectorError) :
    choose l namespaces = .error e ↔ l.validate = .error e ∧ namespaces ≠ [] := by
  constructor
  · intro blamed
    rcases choose_cases l namespaces with ⟨e', failed, invalid⟩ | fine
    · obtain rfl := Except.error.inj (failed.symm.trans blamed)
      refine ⟨invalid, ?_⟩
      rintro rfl
      cases blamed
    · rw [fine] at blamed
      cases blamed
  · rintro ⟨invalid, some⟩
    cases namespaces with
    | nil => exact absurd rfl some
    | cons ns rest =>
      rw [choose, (l.selects_error_iff _ e).2 invalid]
      rfl

/-- Where lists work, listing blames a selector that means nothing, unless there is no
namespace. -/
theorem listNamespaces_selector_iff {s : Cluster} (lists : s.listsFail = false)
    (l : LabelSelector) (e : SelectorError) :
    s.listNamespaces (some l) = .error (.selector e) ↔
      l.validate = .error e ∧ s.namespaces.values ≠ [] := by
  rw [← choose_error_iff, listNamespaces, list, lists]
  cases choose l s.namespaces.values <;> simp [Except.mapError]

end Cluster

namespace Live

/-- The server never blames a selector. -/
theorem receive_ne_selector {α : Type} (read : Json.Node → Option α) (kind : ResourceKind)
    (name : String) (r : Response) (e : SelectorError) :
    receive read kind name r ≠ .error (.selector e) := by
  intro blamed
  unfold receive at blamed
  split at blamed
  · unfold Refusal.error at blamed
    split at blamed
    · cases blamed
    · split at blamed
      · split at blamed <;> cases blamed
      · cases blamed
  · unfold content at blamed
    split at blamed <;> cases blamed

/-- A response that carries the text of a value is read like the characters of the value. -/
theorem receive_render {α : Type} {read : Json.Node → Option α} {j : Json} {a : α}
    (kind : ResourceKind) (name : String)
    (h : ((Json.Tree.ofChars? j.chars).bind fun t => read (.whole t)) = some a) :
    receive read kind name ⟨200, j.render⟩ = .ok a := by
  have accepted : (Response.mk 200 j.render).isRefusal = false := rfl
  rw [receive, accepted, if_neg (by simp), content, Json.Tree.ofString?, Json.render,
    String.toList_ofList, h]

section Listing

variable {σ : Type} (send : Request → σ → Response × σ) (l : LabelSelector) (e : SelectorError)
  (x : σ)

/-- A selector that means nothing is blamed before anything is sent. -/
theorem call_listNamespaces_of_invalid (invalid : l.validate = .error e) :
    call send (.listNamespaces (some l)) x = (.error (.selector e), x) := by
  rw [call, (request_listNamespaces_selector_iff l e).2 invalid]

/-- Listing blames a selector exactly when it means nothing. -/
theorem call_listNamespaces_selector_iff :
    (call send (.listNamespaces (some l)) x).1 = .error (.selector e) ↔
      l.validate = .error e := by
  constructor
  · rw [← request_listNamespaces_selector_iff, call]
    cases request (.listNamespaces (some l)) with
    | error f => exact fun blamed => congrArg Except.error (Except.error.inj blamed)
    | ok r => exact fun blamed => absurd blamed (receive_ne_selector _ _ _ _ e)
  · intro invalid
    rw [call_listNamespaces_of_invalid send l e x invalid]

end Listing

end Live

/-! ## The report -/

namespace Report

/-- A status that blames a failure: nothing is ready, and the failure is told. -/
structure Blames (message : String) (status : PullerStatus) : Prop where
  ready : (status.condition? ready).map (·.status) = some .unknown
  error : (status.condition? error).map (fun c => (c.status, c.message)) =
    some (.true, some message)

theorem blames_status (current : Option PullerStatus) (message readyTime errorTime : String) :
    Blames message (status current (some message) readyTime errorTime) := by
  have set := fun s type status reason message now =>
    PullerStatus.condition?_set s type status reason message now
  constructor
  · obtain ⟨c, found, agrees⟩ := set (current.getD {}) Report.ready .unknown "Error"
      "puller reconcile error" readyTime
    rw [status, PullerStatus.condition?_set_of_ne _ (by decide), found]
    simp only [Condition.agrees, Bool.and_eq_true, beq_iff_eq] at agrees
    rw [Option.map_some, agrees.1.1]
  · obtain ⟨c, found, agrees⟩ := set ((current.getD {}).set Report.ready .unknown "Error"
      "puller reconcile error" readyTime) Report.error .true "ErrorSeen" message errorTime
    rw [status, found]
    simp only [Condition.agrees, Bool.and_eq_true, beq_iff_eq] at agrees
    rw [Option.map_some, agrees.1.1, agrees.2]

end Report

/-! ## Reconciling in a cluster -/

namespace Reconcile

section Cluster

variable {α β : Type} {budget : Nat} {config : Config} {policy : RetryPolicy} {p : Puller}
  {l : LabelSelector} {e : SelectorError} {name : String} {s t : Cluster}

/-- How the work on a live puller ends whose selector means nothing. With few conflicts the
selector is blamed; with many of them the puller is left as it was. -/
structure Rejected (budget : Nat) (name : String) (e : SelectorError) (s : Cluster)
    (r : Except ReconcileError α) (t : Cluster) : Prop where
  few : s.pendingConflicts < budget → r = .error (.store (.selector e)) ∧
    ∃ q status, t.pullers.get? name = some q ∧ q.status = some status ∧
      Report.Blames (StoreError.selector e).message status
  many : budget ≤ s.pendingConflicts → (∃ f, r = .error f) ∧ t.pullers = s.pullers

theorem Rejected.map {r : Except ReconcileError α} (f : α → β)
    (h : Rejected budget name e s r t) : Rejected budget name e s (r.map f) t := by
  constructor
  · intro few
    obtain ⟨rfl, reported⟩ := h.few few
    exact ⟨rfl, reported⟩
  · intro many
    obtain ⟨⟨g, rfl⟩, same⟩ := h.many many
    exact ⟨⟨g, rfl⟩, same⟩

/-- Where the targets cannot be listed, nothing is converged. -/
theorem leads_converge_of_error {σ : Type} {h : Handler σ} {each : σ → Call → Prop}
    {ends : Except ReconcileError Summary → σ → Prop} {f : StoreError} {x : σ}
    (asked : each x (.listNamespaces p.spec.namespaceSelector))
    (answered : h.call (.listNamespaces p.spec.namespaceSelector) x = (.error f, x))
    (ended : ends (.error (.store f)) x) : (converge policy p).Leads h each ends x := by
  unfold converge Target.resolve
  refine Program.leads_bind.2 (Program.leads_liftM.2 (Program.leads_bind.2
    (Program.leads_ask.2 ⟨asked, ?_⟩)))
  rw [answered]
  exact ended

/-- Working on a stored puller whose targets cannot be listed because of its selector. -/
theorem sync_ends_of_invalid (stored : s.pullers.get? p.name = some p)
    (listed : s.listNamespaces p.spec.namespaceSelector = .error (.selector e)) :
    (sync policy p).Ends (Rejected policy.budget p.name e s) s := by
  refine leads_sync (leads_converge_of_error trivial (congrArg (·, s) listed) ?_)
  intro readyTime errorTime
  have blames := Report.blames_status p.status (StoreError.selector e).message readyTime errorTime
  refine (Report.update_cases stored _).mono ?_
  rintro r t (⟨same, rfl, rfl⟩ | ⟨-, written⟩)
  · exact ⟨fun _ => ⟨rfl, p, _, stored, same, blames⟩, fun _ => ⟨⟨_, rfl⟩, rfl⟩⟩
  · cases written with
    | through spared few =>
      refine ⟨fun _ => ⟨rfl, _, _, Cluster.get?_putPuller _ _ _, rfl, blames⟩, fun many => ?_⟩
      omega
    | refused at_place broken => cases at_place
    | contended spared many => exact ⟨fun few => by omega, fun _ => ⟨⟨_, rfl⟩, rfl⟩⟩

/-- The reconcile of a live puller that has a selector without a meaning. -/
theorem reconcile_ends_of_invalid (stored : s.pullers.get? p.name = some p)
    (live : p.metadata.isTerminating = false) (selector : p.spec.namespaceSelector = some l)
    (invalid : l.validate = .error e) (lists : s.listsFail = false)
    (some : s.namespaces.values ≠ []) :
    (reconcile config p.name).Ends (Rejected config.retryPolicy.budget p.name e s) s := by
  have listed : ∀ u : Cluster, u.listsFail = s.listsFail → u.namespaces = s.namespaces →
      u.listNamespaces p.spec.namespaceSelector = .error (.selector e) := by
    intro u same same'
    rw [selector, Cluster.listNamespaces_selector_iff (same.trans lists), same']
    exact ⟨invalid, some⟩
  refine leads_reconcile_of_live stored live trivial ((Finalizer.ensure_cases stored).mono ?_)
  rintro r u (⟨-, rfl, rfl⟩ | ⟨-, guarded⟩)
  · exact (sync_ends_of_invalid stored (listed u rfl rfl)).mono fun r t ended => ended.map _
  · cases guarded with
    | through spared enough =>
      -- The write of the finalizer has used up the conflicts, so the status is written at once.
      refine Leads.mono (sync_ends_of_invalid
        (p := (Finalizer.guarded p).stamp s.calm.advance.versionText)
        (s := (Cluster.putPuller p.name (Finalizer.guarded p) s.calm).2)
        (Cluster.get?_putPuller _ _ _) (listed _ rfl rfl)) fun r t ended => ?_
      obtain ⟨rfl, reported⟩ := ended.few config.retryPolicy.budget_pos
      exact ⟨fun _ => ⟨rfl, reported⟩, fun spent => by omega⟩
    | refused at_place broken => cases at_place
    | contended spared spent => exact ⟨fun enough => by omega, fun _ => ⟨⟨_, rfl⟩, rfl⟩⟩

end Cluster

end Reconcile

/-! ## Whatever is answered -/

namespace Program

variable {σ ε δ α β : Type}

/-- Whatever state the handler is in when it answers, and whatever the clock says, every call is
made as `each` asks, and the program ends as `ends` asks. -/
def Always (h : Handler σ) (each : Call → Prop) (ends : Except ε α → Prop) : Program ε α → Prop
  | done a => ends (.ok a)
  | fail e => ends (.error e)
  | call c next => each c ∧ ∀ x, (next (h.call c x).1).Always h each ends
  | clock next => ∀ time, (next time).Always h each ends
  | note _ next => (next ()).Always h each ends

section Rules

variable {h : Handler σ} {each : Call → Prop}

theorem Always.mono {p : Program ε α} {ends ends' : Except ε α → Prop}
    (hp : p.Always h each ends) (weaker : ∀ r, ends r → ends' r) : p.Always h each ends' := by
  induction p with
  | done a => exact weaker _ hp
  | fail e => exact weaker _ hp
  | call c next ih => exact ⟨hp.1, fun x => ih _ (hp.2 x)⟩
  | clock next ih => exact fun time => ih _ (hp time)
  | note n next ih => exact ih _ hp

theorem always_bind {p : Program ε α} {f : α → Program ε β} {ends : Except ε β → Prop} :
    (p >>= f).Always h each ends ↔ p.Always h each (fun r => match r with
      | .ok a => (f a).Always h each ends
      | .error e => ends (.error e)) := by
  rw [bind_eq]
  induction p with
  | done a => exact Iff.rfl
  | fail e => exact Iff.rfl
  | call c next ih => exact and_congr_right fun _ => forall_congr' fun x => ih _
  | clock next ih => exact forall_congr' fun _ => ih _
  | note n next ih => exact ih _

theorem always_attempt {p : Program ε α} {ends : Except δ (Except ε α) → Prop} :
    (p.attempt : Program δ (Except ε α)).Always h each ends ↔
      p.Always h each (fun r => ends (.ok r)) := by
  induction p with
  | done a => exact Iff.rfl
  | fail e => exact Iff.rfl
  | call c next ih => exact and_congr_right fun _ => forall_congr' fun x => ih _
  | clock next ih => exact forall_congr' fun _ => ih _
  | note n next ih => exact ih _

theorem always_liftM {p : Program StoreError α} {ends : Except ReconcileError α → Prop} :
    (liftM p : Program ReconcileError α).Always h each ends ↔
      p.Always h each (fun r => ends (r.mapError .store)) := by
  show (p.mapError .store).Always h each ends ↔ _
  induction p with
  | done a => exact Iff.rfl
  | fail e => exact Iff.rfl
  | call c next ih => exact and_congr_right fun _ => forall_congr' fun x => ih _
  | clock next ih => exact forall_congr' fun _ => ih _
  | note n next ih => exact ih _

theorem always_ofExcept {r : Except ε α} {ends : Except ε α → Prop} :
    (ofExcept r).Always h each ends ↔ ends r := by
  cases r <;> exact Iff.rfl

theorem always_ask {c : Call} {ends : Except StoreError c.Value → Prop} :
    (ask c).Always h each ends ↔ each c ∧ ∀ x, ends (h.call c x).1 :=
  and_congr_right fun _ => forall_congr' fun _ => always_ofExcept

/-- Attempts end as every one of them does. -/
theorem Always.retry {policy : RetryPolicy} {change : Nat → Program StoreError α}
    {ends : Except StoreError α → Prop} (attempt : ∀ i, (change i).Always h each ends) :
    (Program.retry policy change).Always h each ends := by
  -- The induction is on the attempts that are left after the next one.
  suffices general : ∀ retries i, (retryFrom policy.pause change i retries).Always h each ends from
    general _ 0
  intro retries
  induction retries with
  | zero => exact attempt
  | succ retries ih =>
    intro i
    rw [retryFrom, always_bind, always_attempt]
    refine (attempt i).mono fun r ended => ?_
    cases r with
    | ok a => exact ended
    | error e =>
      show (if e.isConflict = true then _ else _ : Program StoreError α).Always h each ends
      split
      next =>
        refine always_bind.2 (always_bind.2 ?_)
        show (wait policy.pause).Always h each _
        unfold wait
        split
        · exact ih (i + 1)
        · exact ih (i + 1)
      next => exact ended

end Rules

section Runs

variable {h : Handler σ} {each : Call → Prop} {ends : Except ε α → Prop} {p : Program ε α}

theorem Always.run (hp : p.Always h each ends) (x : σ) : ends (p.run h x).1 := by
  induction p generalizing x with
  | done a => exact hp
  | fail e => exact hp
  | call c next ih => exact ih _ (hp.2 x) _
  | clock next ih => exact ih _ (hp _) _
  | note n next ih => exact ih _ hp _

theorem Always.calls (hp : p.Always h each ends) (x : σ) : ∀ e ∈ p.calls h x, each e.2 := by
  induction p generalizing x with
  | done a => exact fun e he => by cases he
  | fail e => exact fun e he => by cases he
  | call c next ih =>
    intro e he
    rcases List.mem_cons.1 he with rfl | later
    · exact hp.1
    · exact ih _ (hp.2 x) _ e later
  | clock next ih => exact ih _ (hp _) _
  | note n next ih => exact ih _ hp _

end Runs

end Program

/-! ## Reconciling against a server -/

/-- A server of a cluster, with a clock and with somewhere to leave notes. -/
def Live.handler {σ : Type} (send : Request → σ → Response × σ) (clock : σ → String × σ)
    (note : Note → σ → σ) : Handler σ := ⟨Live.call send, clock, note⟩

namespace Reconcile

section Server

variable {σ : Type} {h : Handler σ} {config : Config} {policy : RetryPolicy} {p : Puller}
  {l : LabelSelector} {e : SelectorError} {name : String}

/-- A puller of this name that is not to be deleted and that has this selector. -/
structure Chooses (name : String) (l : LabelSelector) (p : Puller) : Prop where
  named : p.name = name
  live : p.metadata.isTerminating = false
  selector : p.spec.namespaceSelector = some l

/-- Whenever the store shows the puller of a name, it is there, it is not to be deleted, and it
has this selector. -/
structure Shows (h : Handler σ) (name : String) (l : LabelSelector) : Prop where
  got : ∀ x found, (h.call (.getPuller name) x).1 = .ok found →
    ∃ p, found = some p ∧ Chooses name l p
  replaced : ∀ copy x p, copy.name = name → (h.call (.replacePuller copy) x).1 = .ok p →
    Chooses name l p

/-- What may be called while a selector is blamed: the puller is read, guarded and reported about,
and nothing else is written. -/
def Blaming (name : String) (l : LabelSelector) (e : SelectorError) : Call → Prop
  | .getPuller other => other = name
  | .replacePuller copy => copy.name = name
  | .listNamespaces selector => selector = some l
  | .replacePullerStatus copy => ∃ status, copy.status = some status ∧
      Report.Blames (StoreError.selector e).message status
  | _ => False

/-- Guarding a puller. -/
theorem always_ensure (shows : Shows h name l) (chooses : Chooses name l p) :
    (Finalizer.ensure policy p).Always h (Blaming name l e)
      (fun r => ∀ q, r = .ok q → Chooses name l q) := by
  obtain rfl := chooses.named
  unfold Finalizer.ensure
  split
  · rintro q ⟨⟩
    exact chooses
  · refine Program.Always.retry fun _ => Program.always_bind.2 (Program.always_ask.2 ⟨rfl, ?_⟩)
    intro x
    cases answered : (h.call (.getPuller p.name) x).1 with
    | error f =>
      rintro q ⟨⟩
    | ok found =>
      obtain ⟨latest, rfl, chooses⟩ := shows.got x found answered
      dsimp only
      split
      · rintro q ⟨⟩
        exact chooses
      · exact Program.always_ask.2 ⟨chooses.named, fun y q =>
          shows.replaced (Finalizer.guarded latest) y q chooses.named⟩

/-- Reporting that a selector is to blame. -/
theorem always_update (shows : Shows h name l) (named : p.name = name) {status : PullerStatus}
    (blames : Report.Blames (StoreError.selector e).message status) :
    (Report.update policy p status).Always h (Blaming name l e) (fun _ => True) := by
  obtain rfl := named
  have written (target : Puller) :
      (if target.status = some status then pure false
        else do
          let _ ← ask (.replacePullerStatus { target with status := some status })
          pure true : Program StoreError Bool).Always h (Blaming p.name l e) (fun _ => True) := by
    split
    · trivial
    · refine Program.always_bind.2 (Program.always_ask.2 ⟨⟨status, rfl, blames⟩, fun x => ?_⟩)
      cases (h.call (.replacePullerStatus { target with status := some status }) x).1 with
      | error f => trivial
      | ok q => trivial
  unfold Report.update
  split
  · trivial
  · refine Program.Always.retry fun i => ?_
    -- The first attempt takes the copy, the others read the puller.
    dsimp only
    split
    · exact written p
    · refine Program.always_bind.2 (Program.always_ask.2 ⟨rfl, fun x => ?_⟩)
      cases answered : (h.call (.getPuller p.name) x).1 with
      | error f => trivial
      | ok found =>
        obtain ⟨latest, rfl, -⟩ := shows.got x found answered
        exact written latest

/-- Working on a puller whose listing blames the selector. -/
theorem always_sync (shows : Shows h name l) (chooses : Chooses name l p)
    (listed : ∀ x, (h.call (.listNamespaces (some l)) x).1 = .error (.selector e)) :
    (sync policy p).Always h (Blaming name l e) (fun r => ∃ f, r = .error f) := by
  unfold sync converge Target.resolve Report.statusNow
  refine Program.always_bind.2 (Program.always_attempt.2 (Program.always_bind.2
    (Program.always_liftM.2 (Program.always_bind.2 (Program.always_ask.2 ⟨chooses.selector, ?_⟩)))))
  intro x
  rw [chooses.selector, listed x]
  refine Program.always_bind.2 (Program.always_bind.2 fun readyTime => Program.always_bind.2
    fun errorTime => ?_)
  refine Program.always_bind.2 (Program.always_liftM.2 ((always_update shows chooses.named
    (Report.blames_status _ _ readyTime errorTime)).mono ?_))
  rintro (f | b) -
  · exact ⟨_, rfl⟩
  · exact ⟨_, rfl⟩

/-- Reconciling a puller whose listing blames the selector. -/
theorem always_reconcile (shows : Shows h name l)
    (listed : ∀ x, (h.call (.listNamespaces (some l)) x).1 = .error (.selector e)) :
    (reconcile config name).Always h (Blaming name l e) (fun r => ∃ f, r = .error f) := by
  unfold reconcile steps
  refine Program.always_bind.2 (Program.always_bind.2 (Program.always_attempt.2 ?_))
  suffices blamed : (steps config name).Always h (Blaming name l e) (fun r => ∃ f, r = .error f) by
    refine blamed.mono ?_
    rintro _ ⟨f, rfl⟩
    exact ⟨f, rfl⟩
  refine Program.always_bind.2 (Program.always_liftM.2 (Program.always_ask.2 ⟨rfl, fun x => ?_⟩))
  cases answered : (h.call (.getPuller name) x).1 with
  | error f => exact ⟨_, rfl⟩
  | ok found =>
    obtain ⟨p, rfl, chooses⟩ := shows.got x found answered
    simp only [Except.mapError, chooses.live, Bool.false_eq_true, if_false]
    refine Program.always_bind.2 (Program.always_liftM.2 ((always_ensure shows chooses).mono ?_))
    rintro (f | q) chosen
    · exact ⟨_, rfl⟩
    · refine Program.always_bind.2 ((always_sync shows (chosen q rfl) listed).mono ?_)
      rintro _ ⟨f, rfl⟩
      exact ⟨f, rfl⟩

end Server

/-! ## Small stores -/

/-- A selector with an operator that is unknown. -/
def puzzle : LabelSelector := { matchExpressions := some [⟨"tier", "Like", none⟩] }

/-- A puller with this selector. -/
def puzzling : Puller where
  metadata := { name := some "creds1" }
  spec := { registries := Puller.sample.spec.registries, namespaceSelector := some puzzle }

/-- A cluster of some namespaces with this puller. -/
def puzzled (namespaces : List String) : Cluster :=
  Cluster.empty.changes
    (namespaces.map (.addNamespace · .empty) ++ [.createPuller puzzling])

theorem reachable_puzzled (namespaces : List String) : Reachable (puzzled namespaces) :=
  Reachable.empty.changes _

/-- A puller that is seen to have this name and this selector. -/
theorem Chooses.of_map {found : Option Puller}
    (seen : found.map (fun p => (p.name, p.metadata.isTerminating, p.spec.namespaceSelector)) =
      some (name, false, some l)) : ∃ p, found = some p ∧ Chooses name l p := by
  obtain ⟨p, rfl, parts⟩ := Option.map_eq_some_iff.1 seen
  obtain ⟨named, rest⟩ := Prod.mk.inj parts
  obtain ⟨live, selector⟩ := Prod.mk.inj rest
  exact ⟨p, rfl, named, live, selector⟩

/-- A server whose every response shows one puller. -/
theorem shows_of_receive {send : Request → σ → Response × σ} {clock : σ → String × σ}
    {note : Note → σ → σ} {response : Response} (same : ∀ r x, (send r x).1 = response)
    (read : Live.receive Puller.ofNode? .puller name response = .ok p)
    (chooses : Chooses name l p) : Shows (Live.handler send clock note) name l := by
  have accepted : response.isRefusal = false := by
    by_contra refused
    rw [Bool.not_eq_false] at refused
    rw [Live.receive, if_pos refused] at read
    cases read
  constructor
  · intro x found
    show (Live.call send (.getPuller name) x).1 = .ok found → _
    rw [Live.call]
    cases Live.request (.getPuller name) with
    | error f => rintro ⟨⟩
    | ok r =>
      show Live.receiveOptional Puller.ofNode? .puller name (send r x).1 = .ok found → _
      rw [same, Live.receiveOptional, accepted, if_neg (by simp), read]
      rintro ⟨⟩
      exact ⟨p, rfl, chooses⟩
  · intro copy x q named
    show (Live.call send (.replacePuller copy) x).1 = .ok q → _
    rw [Live.call]
    cases Live.request (.replacePuller copy) with
    | error f => rintro ⟨⟩
    | ok r =>
      show Live.receive Puller.ofNode? .puller copy.name (send r x).1 = .ok q → _
      rw [same, named, read]
      rintro ⟨⟩
      exact chooses

/-- A server that shows the puller above, whatever it is asked for. -/
def showPuzzling (_ : Request) (requests : Nat) : Response × Nat :=
  (⟨200, puzzling.toJson.render⟩, requests + 1)

theorem shows_showPuzzling (clock : Nat → String × Nat) (note : Note → Nat → Nat) :
    Shows (Live.handler showPuzzling clock note) "creds1" puzzle := by
  have seen : ∃ p, ((Json.Tree.ofChars? puzzling.toJson.chars).bind fun t =>
      Puller.ofNode? (.whole t)) = some p ∧ Chooses "creds1" puzzle p :=
    Chooses.of_map (by decide +kernel)
  obtain ⟨p, read, chooses⟩ := seen
  exact shows_of_receive (fun _ _ => rfl) (Live.receive_render _ _ read) chooses

/-! ## Selectors without a meaning -/

/-- Where lists work and there is a namespace, and against a server always, listing blames a
selector exactly when it means nothing; against a server nothing is sent then. A live puller with
such a selector is never reported as ready: its reconcile fails, and blames the selector in the
status, unless the writes of the puller themselves fail. -/
theorem rejected_of_invalid (l : LabelSelector) (e : SelectorError) :
    (∀ s : Cluster, s.listsFail = false →
      (s.listNamespaces (some l) = .error (.selector e) ↔
        l.validate = .error e ∧ s.namespaces.values ≠ [])) ∧
    (∀ (σ : Type) (send : Request → σ → Response × σ) (x : σ),
      ((Live.call send (.listNamespaces (some l)) x).1 = .error (.selector e) ↔
        l.validate = .error e) ∧
      (l.validate = .error e →
        Live.call send (.listNamespaces (some l)) x = (.error (.selector e), x))) ∧
    (l.validate = .error e →
      (∀ (σ : Type) (w : Surroundings σ) (config : Config) (name : String) (p : Puller) (x : σ),
        (w.cluster x).listsFail = false → (w.cluster x).namespaces.values ≠ [] →
        (w.cluster x).pullers.get? name = some p → Chooses name l p →
        Rejected config.retryPolicy.budget name e (w.cluster x)
          ((reconcile config name).run w.toHandler x).1
          (w.cluster ((reconcile config name).run w.toHandler x).2)) ∧
      (∀ (σ : Type) (send : Request → σ → Response × σ) (clock : σ → String × σ)
        (note : Note → σ → σ) (config : Config) (name : String) (x : σ),
        Shows (Live.handler send clock note) name l →
        (∃ f, ((reconcile config name).run (Live.handler send clock note) x).1 = .error f) ∧
        ∀ c ∈ (reconcile config name).calls (Live.handler send clock note) x,
          Blaming name l e c.2)) := by
  refine ⟨fun s lists => Cluster.listNamespaces_selector_iff lists l e,
    fun σ send x => ⟨Live.call_listNamespaces_selector_iff send l e x,
      Live.call_listNamespaces_of_invalid send l e x⟩, fun invalid => ⟨?_, ?_⟩⟩
  · intro σ w config name p x lists some stored chooses
    obtain rfl := chooses.named
    exact (reconcile_ends_of_invalid stored chooses.live chooses.selector invalid lists some).run
  · intro σ send clock note config name x shows
    have always : (reconcile config name).Always (Live.handler send clock note)
        (Blaming name l e) (fun r => ∃ f, r = .error f) :=
      always_reconcile shows fun y => (Live.call_listNamespaces_selector_iff send l e y).2 invalid
    exact ⟨always.run x, always.calls x⟩

/-- With a namespace the selector is blamed, and a server that shows the puller is never asked for
namespaces. -/
theorem rejected_of_invalid_puzzled :
    let s := puzzled ["default"]
    let r := (reconcile {} "creds1").run (Cluster.alone "").toHandler s
    let e := SelectorError.unknownOperator "tier" "Like"
    s.listNamespaces (some puzzle) = .error (.selector e) ∧
      r.1 = .error (.store (.selector e)) ∧
      (∃ q status, r.2.pullers.get? "creds1" = some q ∧ q.status = some status ∧
        Report.Blames (StoreError.selector e).message status) ∧
      Live.call showPuzzling (.listNamespaces (some puzzle)) 0 = (.error (.selector e), 0) ∧
      ∀ (clock : Nat → String × Nat) (note : Note → Nat → Nat) (x : Nat), ∃ f,
        ((reconcile {} "creds1").run (Live.handler showPuzzling clock note) x).1 = .error f := by
  intro s r e
  obtain ⟨listing, sending, reconciling⟩ := rejected_of_invalid puzzle e
  obtain ⟨inCluster, atServer⟩ := reconciling rfl
  have lists : s.listsFail = false := by decide +kernel
  have some : s.namespaces.values ≠ [] := by decide +kernel
  have calm : s.pendingConflicts = 0 := by decide +kernel
  obtain ⟨p, stored, chooses⟩ :
      ∃ p, s.pullers.get? "creds1" = .some p ∧ Chooses "creds1" puzzle p :=
    Chooses.of_map (by decide +kernel)
  -- The cluster is small, but it has to stay folded here.
  have alone : ∀ (t : Cluster) (q : Puller), t.listsFail = false → t.namespaces.values ≠ [] →
      t.pullers.get? "creds1" = .some q → Chooses "creds1" puzzle q →
      let r := (reconcile {} "creds1").run (Cluster.alone "").toHandler t
      Rejected (RetryPolicy.budget {}) "creds1" e t r.1 r.2 :=
    fun t q => inCluster Cluster (Cluster.alone "") {} "creds1" q t
  have rejected : Rejected (RetryPolicy.budget {}) "creds1" e s r.1 r.2 :=
    alone s p lists some stored chooses
  have atServer' := fun clock note x => (atServer Nat showPuzzling clock note {} "creds1" x
    (shows_showPuzzling clock note)).1
  clear_value r s
  obtain ⟨failed, reported⟩ := rejected.few (calm ▸ RetryPolicy.budget_pos _)
  exact ⟨(listing s lists).2 ⟨rfl, some⟩, failed, reported, (sending Nat showPuzzling 0).2 rfl,
    atServer'⟩

/-- Without any namespace the selector is not looked at: the listing succeeds, and so does the
reconcile, which reports that the puller is ready. -/
theorem ready_without_namespaces :
    let s := puzzled []
    let r := (reconcile {} "creds1").run (Cluster.alone "").toHandler s
    Reachable s ∧ s.listsFail = false ∧
      puzzle.validate = .error (.unknownOperator "tier" "Like") ∧
      (∃ p, s.pullers.get? "creds1" = some p ∧ Chooses "creds1" puzzle p) ∧
      s.listNamespaces (some puzzle) = .ok [] ∧ r.1 = .ok (.requeue 600) ∧
      ∃ p status, r.2.pullers.get? "creds1" = some p ∧ p.status = some status ∧
        (status.condition? Report.ready).map (·.status) = some .true := by
  intro s r
  have fine : r.1.toOption = some (.requeue 600) := by decide +kernel
  have ready : ((r.2.pullers.get? "creds1").bind (·.status)).map
      (fun status => (status.condition? Report.ready).map (·.status)) = some (some .true) := by
    decide +kernel
  obtain ⟨status, reported, ready⟩ := Option.map_eq_some_iff.1 ready
  obtain ⟨p, stored, has⟩ := Option.bind_eq_some_iff.1 reported
  have listed : (s.listNamespaces (some puzzle)).toOption = some [] := by decide +kernel
  refine ⟨reachable_puzzled [], by decide +kernel, rfl, Chooses.of_map (by decide +kernel), ?_⟩
  clear_value r s
  exact ⟨eq_ok_of_toOption listed, eq_ok_of_toOption fine, p, status, stored, has, ready⟩

end Reconcile

end PullSecrets
