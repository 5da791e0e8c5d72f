import PullSecrets.Proofs.Pullers
import PullSecrets.Proofs.Versions

/-!
# Sharing the store with other clients

Between two calls of a program other clients may do anything to the cluster: they change the object
that was read, or delete it and create another one in its place. A program is careful if it writes
back only what its last call has found, under the version that it was found with. Then an accepted
write replaces exactly the object that was read, because no version is given to two objects.

## Main facts

* `Program.Shares`: the calls of a run, whatever other clients do between them.
* `Program.Careful`: what a program has to look like, without regard to the cluster.
* `Program.Careful.spares`: a careful program undoes nothing that other clients have done.
* `Reachable.undisturbed`: this holds of everything that a reconcile writes with.
-/

namespace PullSecrets

open Program (ask)

/-! ## Runs that other clients disturb -/

/-- A call of a run, and the cluster that it meets. -/
structure Event where
  met : Cluster
  call : Call

/-- The object that is read by a call. -/
def Call.found? : (c : Call) → c.Reply → Option StoredObject
  | getPuller _, found => found.toOption.join.map .puller
  | getSecret .., found => found.toOption.join.map .secret
  | getServiceAccount .., found => found.toOption.join.map .account
  | _, _ => none

namespace Event

/-- Whether the call succeeds. -/
def accepted (e : Event) : Bool := (e.met.answer e.call).1.toOption.isSome

/-- The cluster after the call. -/
def after (e : Event) : Cluster := (e.met.answer e.call).2

/-- The object that the call reads. -/
def found? (e : Event) : Option StoredObject := e.call.found? (e.met.answer e.call).1

theorem accepted_iff {e : Event} :
    e.accepted = true ↔ ∃ v, (e.met.answer e.call).1 = .ok v := by
  unfold accepted
  cases (e.met.answer e.call).1 with
  | error _ => simp [Except.toOption]
  | ok v => simp [Except.toOption]

/-- What other clients have done is not undone by a successful call. A secret is created only where
there is none. A replacement meets exactly the object that has been seen before, and what is stored
then is a permitted change of it. -/
structure Spares (changes : StoredObject → Option StoredObject → Prop)
    (seen : Option StoredObject) (e : Event) : Prop where
  created : ∀ x, e.call = .createSecret x → ∃ place, e.call.place? = some place ∧
    e.met.object? place = none
  replaced : ∀ copy, e.call.copy? = some copy → ∃ place o, e.call.place? = some place ∧
    seen = some o ∧ e.met.object? place = some o ∧ changes o (e.after.object? place)

end Event

/-- What has been seen before a call: the object that the call right before has read, or the copy at
hand before the first call. -/
def lastSeen (copy : Option StoredObject) (earlier : List Event) : Option StoredObject :=
  earlier.foldl (fun _ e => e.found?) copy

/-- No successful call of a run undoes what other clients have done. -/
def Undisturbed (changes : StoredObject → Option StoredObject → Prop)
    (copy : Option StoredObject) (events : List Event) : Prop :=
  ∀ earlier e later, events = earlier ++ e :: later → e.accepted = true →
    e.Spares changes (lastSeen copy earlier)

namespace Program

variable {ε α : Type}

/-- The calls of a run that is ended, or cut off after any of them. Before each call other clients
take some steps, and the clock says anything. -/
inductive Shares : Program ε α → Cluster → List Event → Prop
  | stop {p : Program ε α} {s : Cluster} : Shares p s []
  | call {c : Call} {next : c.Reply → Program ε α} {s : Cluster} {events : List Event}
    (meantime : List Step)
    (rest : Shares (next ((s.steps meantime).answer c).1) ((s.steps meantime).answer c).2 events) :
    Shares (.call c next) s (⟨s.steps meantime, c⟩ :: events)
  | clock {next : String → Program ε α} {s : Cluster} {events : List Event} (time : String)
    (rest : Shares (next time) s events) : Shares (.clock next) s events
  | note {n : Note} {next : Unit → Program ε α} {s : Cluster} {events : List Event}
    (rest : Shares (next ()) s events) : Shares (.note n next) s events

/-- The calls of a run for as long as it is known what other clients do. -/
def disturbed : Program ε α → List (List Step) → Cluster → List Event
  | .call c next, meantime :: plan, s =>
    let met := s.steps meantime
    ⟨met, c⟩ :: (next (met.answer c).1).disturbed plan (met.answer c).2
  | .clock next, plan, s => (next "").disturbed plan s
  | .note _ next, plan, s => (next ()).disturbed plan s
  | _, _, _ => []

theorem shares_disturbed (p : Program ε α) (plan : List (List Step)) (s : Cluster) :
    p.Shares s (p.disturbed plan s) := by
  induction p generalizing plan s with
  | done a => exact .stop
  | fail e => exact .stop
  | call c next ih =>
    cases plan with
    | nil => exact .stop
    | cons meantime plan => exact .call meantime (ih _ _ _)
  | clock next ih => exact .clock "" (ih _ _ _)
  | note n next ih => exact .note (ih _ _ _)

end Program

/-! ## Careful programs -/

/-- A call that carries the version of an object, and that leaves a permitted change of the object
wherever it replaces it. -/
structure Call.WritesBack (changes : StoredObject → Option StoredObject → Prop) (c : Call)
    (copy : Metadata) (o : StoredObject) : Prop where
  version : copy.resourceVersion = o.metadata.resourceVersion
  changed : ∀ (s : Cluster) place v, c.place? = some place → s.object? place = some o →
    (s.answer c).1 = .ok v → changes o ((s.answer c).2.object? place)

/-- A call that is no replacement, or that writes back what has been seen. -/
def Call.Backed (changes : StoredObject → Option StoredObject → Prop)
    (seen : Option StoredObject) (c : Call) : Prop :=
  ∀ copy, c.copy? = some copy → ∃ o, seen = some o ∧ c.WritesBack changes copy o

theorem Call.backed_of_copy?_eq_none {changes : StoredObject → Option StoredObject → Prop}
    {seen : Option StoredObject} {c : Call} (h : c.copy? = none) : c.Backed changes seen := by
  intro copy replaces
  rw [h] at replaces
  cases replaces

namespace Program

variable {ε δ α β : Type} {changes : StoredObject → Option StoredObject → Prop}
  {seen : Option StoredObject}

/-- Whatever a call is answered, the program replaces an object only right after having read it. -/
def Careful (changes : StoredObject → Option StoredObject → Prop) :
    Option StoredObject → Program ε α → Prop
  | _, .done _ => True
  | _, .fail _ => True
  | seen, .call c next => c.Backed changes seen ∧ ∀ r, (next r).Careful changes (c.found? r)
  | seen, .clock next => ∀ time, (next time).Careful changes seen
  | seen, .note _ next => (next ()).Careful changes seen

theorem Careful.pure {a : α} : (Pure.pure a : Program ε α).Careful changes seen := trivial

theorem Careful.fail {e : ε} : (Program.fail e : Program ε α).Careful changes seen := trivial

theorem Careful.leave {n : Note} : (Program.leave n : Program ε Unit).Careful changes seen :=
  trivial

theorem Careful.ask {c : Call} (backed : c.Backed changes seen) :
    (ask c).Careful changes seen := by
  refine ⟨backed, fun r => ?_⟩
  cases r with
  | error e => exact Careful.fail
  | ok v => exact Careful.pure

/-- Going on with the value that answers a call. -/
theorem Careful.ask_bind {c : Call} {f : c.Value → Program StoreError β}
    (backed : c.Backed changes seen) (hf : ∀ v, (f v).Careful changes (c.found? (.ok v))) :
    (Program.ask c >>= f).Careful changes seen := by
  refine ⟨backed, fun r => ?_⟩
  cases r with
  | error e => exact Careful.fail
  | ok v => exact hf v

/-- Going on with a program that is careful whatever has been seen. -/
theorem Careful.bind {p : Program ε α} {f : α → Program ε β} (hp : p.Careful changes seen)
    (hf : ∀ a seen, (f a).Careful changes seen) : (p >>= f).Careful changes seen := by
  induction p generalizing seen with
  | done a => exact hf a seen
  | fail e => exact Careful.fail
  | call c next ih => exact ⟨hp.1, fun r => ih r (hp.2 r)⟩
  | clock next ih => exact fun time => ih time (hp time)
  | note n next ih => exact ih () hp

theorem Careful.attempt {p : Program ε α} (hp : p.Careful changes seen) :
    (p.attempt : Program δ (Except ε α)).Careful changes seen := by
  induction p generalizing seen with
  | done a => exact Careful.pure
  | fail e => exact Careful.pure
  | call c next ih => exact ⟨hp.1, fun r => ih r (hp.2 r)⟩
  | clock next ih => exact fun time => ih time (hp time)
  | note n next ih => exact ih () hp

theorem Careful.ite {c : Prop} [Decidable c] {p q : Program ε α} (hp : p.Careful changes seen)
    (hq : q.Careful changes seen) : (if c then p else q).Careful changes seen := by
  split
  · exact hp
  · exact hq

theorem Careful.unlessMissing {p : Program StoreError α} (hp : p.Careful changes seen) :
    p.unlessMissing.Careful changes seen := by
  refine hp.attempt.bind fun r seen => ?_
  cases r with
  | error e => exact Careful.ite Careful.pure Careful.fail
  | ok a => exact Careful.pure

/-- Attempts are careful if the first one is, and the others are whatever has been seen. -/
theorem Careful.retry {policy : RetryPolicy} {change : Nat → Program StoreError α}
    (first : (change 0).Careful changes seen)
    (later : ∀ i seen, (change (i + 1)).Careful changes seen) :
    (Program.retry policy change).Careful changes seen := by
  -- The induction is on the attempts that are left after the next one.
  suffices general : ∀ retries i seen, (change i).Careful changes seen →
      (retryFrom policy.pause change i retries).Careful changes seen from general _ 0 seen first
  intro retries
  induction retries with
  | zero => exact fun i seen h => h
  | succ retries ih =>
    intro i seen h
    rw [retryFrom]
    refine h.attempt.bind fun r seen => ?_
    cases r with
    | ok a => exact Careful.pure
    | error e =>
      -- Between two attempts there is a note, and another one for the pause if there is any.
      have waited (seen : Option StoredObject) : (wait policy.pause).Careful changes seen := by
        unfold wait
        exact Careful.ite Careful.pure Careful.leave
      refine Careful.ite (Careful.leave.bind fun _ seen => (waited seen).bind fun _ seen => ?_)
        Careful.fail
      exact ih (i + 1) seen (later i seen)

/-- Attempts of one kind. -/
theorem Careful.retry_same {policy : RetryPolicy} {change : Program StoreError α}
    (h : ∀ seen, change.Careful changes seen) :
    (Program.retry policy fun _ => change).Careful changes seen :=
  Careful.retry (h seen) fun _ => h

end Program

/-! ## What careful programs do -/

/-- An object was stored in a cluster from which the others have led here. -/
def Cluster.Recalls (s : Cluster) (o : StoredObject) : Prop :=
  ∃ before place since, Reachable before ∧ before.object? place = some o ∧ before.steps since = s

theorem Cluster.Recalls.steps {s : Cluster} {o : StoredObject} (h : s.Recalls o) (l : List Step) :
    (s.steps l).Recalls o := by
  obtain ⟨before, place, since, reachable, stored, rfl⟩ := h
  exact ⟨before, place, since ++ l, reachable, stored, before.steps_append since l⟩

/-- An object that is read is stored, and reading leaves it there. -/
theorem Call.recalls_of_found? {c : Call} {s : Cluster} {o : StoredObject} (reachable : Reachable s)
    (h : c.found? (s.answer c).1 = some o) : (s.answer c).2.Recalls o := by
  cases c with
  | getPuller name => exact ⟨s, .puller name, [], reachable, h, rfl⟩
  | getSecret inNamespace name => exact ⟨s, .secret ⟨inNamespace, name⟩, [], reachable, h, rfl⟩
  | getServiceAccount inNamespace name =>
    exact ⟨s, .account ⟨inNamespace, name⟩, [], reachable, h, rfl⟩
  | replacePuller | replacePullerStatus | listNamespaces | createSecret | replaceSecret
  | listServiceAccounts | replaceServiceAccount => cases h

section Undisturbed

variable {ε α : Type} {changes : StoredObject → Option StoredObject → Prop}
  {seen : Option StoredObject} {s : Cluster} {c : Call}

/-- A successful call spares what other clients have done if it writes back what has been seen. -/
theorem Call.Backed.spares (h : c.Backed changes seen) (recalls : ∀ o, seen = some o → s.Recalls o)
    (accepted : (Event.mk s c).accepted = true) : (Event.mk s c).Spares changes seen := by
  obtain ⟨v, accepted⟩ := Event.accepted_iff.1 accepted
  constructor
  · rintro x rfl
    obtain ⟨key, placed, free, -, -⟩ := Cluster.createSecret_accepted accepted
    refine ⟨.secret key, ?_, ?_⟩
    · rw [Call.place?, placed]
      rfl
    · rw [Cluster.object?, free]
      rfl
  · intro copy replaces
    obtain ⟨o, seen, writesBack⟩ := h copy replaces
    -- The object was stored at some time; with its version, the copy replaces it or nothing.
    obtain ⟨before, place, since, reachable, stored, rfl⟩ := recalls o seen
    obtain ⟨placed, found⟩ := reachable.versioned.read_of_accepted stored since replaces
      writesBack.version accepted
    exact ⟨place, o, placed, seen, found, writesBack.changed _ place v placed found accepted⟩

/-- Whatever other clients do, no successful call of a careful program undoes it. -/
theorem Program.Careful.spares {p : Program ε α} {events : List Event}
    (h : p.Careful changes seen) (run : p.Shares s events) (reachable : Reachable s)
    (recalls : ∀ o, seen = some o → s.Recalls o) : Undisturbed changes seen events := by
  induction run generalizing seen with
  | stop =>
    intro earlier e later split
    cases earlier <;> cases split
  | @call c next s events meantime rest ih =>
    have met : Reachable (s.steps meantime) := reachable.steps meantime
    have still : ∀ o, seen = some o → (s.steps meantime).Recalls o :=
      fun o ho => (recalls o ho).steps meantime
    rintro (_ | ⟨first, earlier⟩) e later split accepted
    · cases split
      exact h.1.spares still accepted
    · cases split
      exact ih (h.2 _) (met.call c) (fun o ho => Call.recalls_of_found? met ho)
        earlier e later rfl accepted
  | clock time rest ih => exact ih (h time) reachable recalls
  | note rest ih => exact ih h reachable recalls

end Undisturbed

/-! ## What is written back -/

/-- An account is changed in this way, and gets a version. -/
inductive AccountBy (f : ServiceAccount → ServiceAccount) :
    StoredObject → Option StoredObject → Prop
  | intro (a : ServiceAccount) (version : String) :
    AccountBy f (.account a) (some (.account ((f a).stamp version)))

/-- A puller is changed in this way, and gets a version. -/
inductive PullerBy (f : Puller → Puller) : StoredObject → Option StoredObject → Prop
  | intro (p : Puller) (version : String) :
    PullerBy f (.puller p) (some (.puller ((f p).stamp version)))

/-- A puller loses the finalizer and gets a version, or it goes away because it is to be deleted and
has no other finalizers. -/
inductive Released : StoredObject → Option StoredObject → Prop
  | stays (p : Puller) (version : String) :
    Released (.puller p) (some (.puller ((Finalizer.released p).stamp version)))
  | goes (p : Puller) (terminating : p.metadata.isTerminating = true)
    (last : (Finalizer.released p).metadata.finalizerList = []) : Released (.puller p) none

/-- The second secret is the first one with other contents, up to its version. Of the labels only
the one that names the puller differs, and owners are only added. -/
structure Secret.Overlaid (x y : Secret) : Prop where
  rest : ∃ type data labels owners version, y = { x with
    type := type
    data := data
    stringData := none
    metadata := { x.metadata with
      labels := labels
      ownerReferences := owners
      resourceVersion := some version } }
  labels : ∀ k, k ≠ Names.ownerLabel → y.metadata.label? k = x.metadata.label? k
  owners : ∃ added, y.metadata.ownerList = x.metadata.ownerList ++ added

/-- A secret gets the contents that a puller wants. -/
inductive SecretBy : StoredObject → Option StoredObject → Prop
  | intro {x y : Secret} (overlaid : x.Overlaid y) : SecretBy (.secret x) (some (.secret y))

theorem writesBack_account {f : ServiceAccount → ServiceAccount} {a : ServiceAccount}
    (same : (f a).metadata = a.metadata) :
    (Call.replaceServiceAccount (f a)).WritesBack (AccountBy f) (f a).metadata (.account a) where
  version := congrArg Metadata.resourceVersion same
  changed := by
    intro s place v placed stored accepted
    obtain ⟨key, old, keyed, found, -, stamped, after⟩ :=
      Cluster.replaceServiceAccount_accepted accepted
    rw [Call.place?, keyed] at placed
    cases placed
    rw [Cluster.object?, found] at stored
    cases stored
    have new : v = (f a).stamp s.advance.versionText := by
      rw [stamped, ServiceAccount.inPlaceOf, ServiceAccount.stamp, Metadata.stamp, same]
    have now : (s.answer (.replaceServiceAccount (f a))).2.object? (.account key) =
        some (.account v) := by
      simp [Cluster.object?, Cluster.answer, after]
    rw [now, new]
    exact .intro a _

theorem writesBack_secret {p x : Secret} (overlaid : ∀ version, x.Overlaid (p.stamp version))
    (same : p.metadata.uid = x.metadata.uid)
    (read : p.metadata.resourceVersion = x.metadata.resourceVersion) :
    (Call.replaceSecret p).WritesBack SecretBy p.metadata (.secret x) where
  version := read
  changed := by
    intro s place v placed stored accepted
    obtain ⟨key, old, keyed, found, -, stamped, after⟩ := Cluster.replaceSecret_accepted accepted
    rw [Call.place?, keyed] at placed
    cases placed
    rw [Cluster.object?, found] at stored
    cases stored
    have new : v = p.stamp s.advance.versionText := by
      rw [stamped, Secret.inPlaceOf, Secret.stamp, Metadata.stamp, ← same]
    have now : (s.answer (.replaceSecret p)).2.object? (.secret key) = some (.secret v) := by
      simp [Cluster.object?, Cluster.answer, after]
    rw [now, new]
    exact .intro (overlaid _)

/-- A puller that is written back stays, or it goes away. -/
theorem writesBack_puller {changes : StoredObject → Option StoredObject → Prop} {p q : Puller}
    (same : ∀ version, q.inPlaceOf p version = q.stamp version)
    (read : q.metadata.resourceVersion = p.metadata.resourceVersion)
    (stays : ∀ version, changes (.puller p) (some (.puller (q.stamp version))))
    (goes : q.metadata.isTerminating = true → q.metadata.finalizerList = [] →
      changes (.puller p) none) :
    (Call.replacePuller q).WritesBack changes q.metadata (.puller p) where
  version := read
  changed := by
    intro s place v placed stored accepted
    obtain ⟨old, found, -, stamped, after⟩ := Cluster.replacePuller_accepted accepted
    cases placed
    rw [Cluster.object?, found] at stored
    cases stored
    rw [same] at stamped
    split at after
    next gone =>
      rw [stamped, Bool.and_eq_true, List.isEmpty_iff] at gone
      have now : (s.answer (.replacePuller q)).2.object? (.puller q.name) = none := by
        simp [Cluster.object?, Cluster.answer, after]
      rw [now]
      exact goes gone.1 gone.2
    next =>
      have now : (s.answer (.replacePuller q)).2.object? (.puller q.name) = some (.puller v) := by
        simp [Cluster.object?, Cluster.answer, after]
      rw [now, stamped]
      exact stays _

theorem writesBack_status (p : Puller) (status : PullerStatus) :
    (Call.replacePullerStatus { p with status := some status }).WritesBack
      (PullerBy fun p => { p with status := some status }) p.metadata (.puller p) where
  version := rfl
  changed := by
    intro s place v placed stored accepted
    obtain ⟨old, found, -, stamped, after⟩ := Cluster.replacePullerStatus_accepted accepted
    cases placed
    rw [Cluster.object?, found] at stored
    cases stored
    have now : (s.answer (.replacePullerStatus { p with status := some status })).2.object?
        (.puller p.name) = some (.puller v) := by
      simp [Cluster.object?, Cluster.answer, after, Puller.name]
    rw [stamped] at now
    exact now ▸ .intro p _

/-! ## The programs of a reconcile -/

section Programs

variable {policy : RetryPolicy} {seen : Option StoredObject}

/-- Every attempt reads the account, and writes it back with the changed list. -/
theorem Binding.careful_amend {change : List String → Option (List String)}
    {f : List String → List String} (asked : ∀ l names, change l = some names → names = f l)
    (key : ObjectKey) :
    (amend change key).Careful (AccountBy fun a => a.withPullSecrets (f a.pullSecretList))
      seen := by
  refine Program.Careful.ask_bind (Call.backed_of_copy?_eq_none rfl) fun found => ?_
  cases found with
  | none => exact Program.Careful.pure
  | some a =>
    dsimp only
    split
    · exact Program.Careful.pure
    next names hnames =>
      obtain rfl := asked _ _ hnames
      refine Program.Careful.unlessMissing (Program.Careful.ask ?_)
      rintro copy ⟨⟩
      exact ⟨.account a, rfl, writesBack_account (f := fun a =>
        a.withPullSecrets (f a.pullSecretList)) rfl⟩

theorem Binding.careful_bind (secret : String) (key : ObjectKey) :
    (bind secret key).Careful
      (AccountBy fun a => a.withPullSecrets (a.pullSecretList ++ [secret])) seen := by
  rw [bind_eq_amend]
  refine careful_amend (f := (· ++ [secret])) ?_ key
  intro l names asked
  rw [appended] at asked
  split at asked
  · cases asked
  · exact (Option.some.inj asked).symm

theorem Binding.careful_unbind (secret : String) (key : ObjectKey) :
    (unbind secret key).Careful
      (AccountBy fun a => a.withPullSecrets (a.pullSecretList.erase secret)) seen := by
  rw [unbind_eq_amend]
  refine careful_amend (f := (·.erase secret)) ?_ key
  intro l names asked
  rw [removed] at asked
  split at asked
  · exact (Option.some.inj asked).symm
  · cases asked

/-- Merging changes no more of a secret than its contents. -/
theorem PullSecret.overlaid_merge (x : Secret) (p : Puller) (document : ByteArray)
    (inNamespace version : String) :
    x.Overlaid ((merge x (wanted p document inNamespace)).stamp version) where
  rest := ⟨_, _, _, _, version, rfl⟩
  labels := by
    intro k hk
    show (((x.metadata.labels.getD .empty).insertAll
      (Dict.ofList [(Names.ownerLabel, p.name)]).entries)).get? k =
        x.metadata.labels.bind (·.get? k)
    have single : (Dict.ofList [(Names.ownerLabel, p.name)]).entries =
        [(Names.ownerLabel, p.name)] := rfl
    rw [single]
    cases x.metadata.labels with
    | none => simp [Dict.insertAll, hk]
    | some d => simp [Dict.insertAll, hk]
  owners := by
    cases owner : p.owner? with
    | none =>
      refine ⟨[], ?_⟩
      simp [Secret.stamp, Metadata.stamp, merge, wanted, Metadata.ownerList, owner]
    | some o =>
      have owners : ((merge x (wanted p document inNamespace)).stamp version).metadata.ownerList =
          addOwner x.metadata.ownerList o := by
        simp [Secret.stamp, Metadata.stamp, merge, wanted, Metadata.ownerList, owner]
      rw [owners, addOwner]
      split
      · exact ⟨[], (List.append_nil _).symm⟩
      · exact ⟨[o], rfl⟩

theorem PullSecret.careful_ensure (p : Puller) (document : ByteArray) (inNamespace : String) :
    (ensure policy (wanted p document inNamespace)).Careful SecretBy seen := by
  unfold ensure
  refine Program.Careful.retry_same fun seen =>
    Program.Careful.ask_bind (Call.backed_of_copy?_eq_none rfl) fun found => ?_
  cases found with
  | none =>
    exact Program.Careful.ask_bind (Call.backed_of_copy?_eq_none rfl) fun _ => Program.Careful.pure
  | some x =>
    refine Program.Careful.ite Program.Careful.pure
      (Program.Careful.ask_bind ?_ fun _ => Program.Careful.pure)
    rintro copy ⟨⟩
    exact ⟨.secret x, rfl, writesBack_secret (fun _ => overlaid_merge x p document inNamespace _)
      rfl rfl⟩

theorem Finalizer.careful_ensure (copy : Puller) :
    (ensure policy copy).Careful (PullerBy guarded) seen := by
  unfold ensure
  refine Program.Careful.ite Program.Careful.pure (Program.Careful.retry_same fun seen =>
    Program.Careful.ask_bind (Call.backed_of_copy?_eq_none rfl) fun found => ?_)
  cases found with
  | none => exact Program.Careful.fail
  | some p =>
    refine Program.Careful.ite Program.Careful.pure
      (Program.Careful.ask (c := .replacePuller (guarded p)) ?_)
    rintro copy ⟨⟩
    refine ⟨.puller p, rfl, writesBack_puller (inPlaceOf_guarded p) rfl (.intro p) ?_⟩
    intro _ none
    have some := finalizerList_guarded_ne_nil p
    rw [none] at some
    cases some

theorem Finalizer.careful_release (name : String) :
    (release policy name).Careful Released seen := by
  unfold release
  refine Program.Careful.retry_same fun seen =>
    Program.Careful.ask_bind (Call.backed_of_copy?_eq_none rfl) fun found => ?_
  cases found with
  | none => exact Program.Careful.pure
  | some p =>
    refine Program.Careful.ite (Program.Careful.bind (Program.Careful.unlessMissing
      (Program.Careful.ask (c := .replacePuller (released p)) ?_)) fun _ _ =>
        Program.Careful.pure) Program.Careful.pure
    rintro copy ⟨⟩
    exact ⟨.puller p, rfl, writesBack_puller (inPlaceOf_released p) rfl (.stays p) (.goes p)⟩

theorem Report.careful_update (copy : Puller) (status : PullerStatus) :
    (update policy copy status).Careful (PullerBy fun p => { p with status := some status })
      (some (.puller copy)) := by
  unfold update
  refine Program.Careful.ite Program.Careful.pure ?_
  have finish (p : Puller) : Program.Careful (PullerBy fun p => { p with status := some status })
      (some (.puller p)) (if p.status = some status then pure false
        else do
          let _ ← ask (.replacePullerStatus { p with status := some status })
          pure true : Program StoreError Bool) := by
    refine Program.Careful.ite Program.Careful.pure
      (Program.Careful.ask_bind ?_ fun _ => Program.Careful.pure)
    rintro _ ⟨⟩
    exact ⟨.puller p, rfl, writesBack_status p status⟩
  -- The first attempt takes the copy at hand, and each of the others reads the puller.
  refine Program.Careful.retry (finish copy) fun i seen => ?_
  refine Program.Careful.ask_bind (c := .getPuller copy.name)
    (Call.backed_of_copy?_eq_none rfl) fun found => ?_
  cases found with
  | none => exact Program.Careful.pure
  | some p => exact finish p

end Programs

/-- While a program makes its calls, other clients do anything between them, over all attempts.
Whenever a replacement succeeds, the object that was stored is the one that the call right before
has read, in the same attempt, and it changes in the way of the program alone: one name is added at
the end of the list of an account, or its first occurrence is removed; a secret gets its contents; a
puller gets the finalizer, loses it, or gets a status. A secret is created only where there is
none. -/
theorem Reachable.undisturbed {s : Cluster} (reachable : Reachable s) (policy : RetryPolicy)
    {events : List Event} :
    (∀ secret key, (Program.retry policy fun _ => Binding.bind secret key).Shares s events →
      Undisturbed (AccountBy fun a => a.withPullSecrets (a.pullSecretList ++ [secret]))
        none events) ∧
    (∀ secret key, (Program.retry policy fun _ => Binding.unbind secret key).Shares s events →
      Undisturbed (AccountBy fun a => a.withPullSecrets (a.pullSecretList.erase secret))
        none events) ∧
    (∀ p document inNamespace,
      (PullSecret.ensure policy (PullSecret.wanted p document inNamespace)).Shares s events →
        Undisturbed SecretBy none events) ∧
    (∀ copy, (Finalizer.ensure policy copy).Shares s events →
      Undisturbed (PullerBy Finalizer.guarded) none events) ∧
    (∀ name, (Finalizer.release policy name).Shares s events →
      Undisturbed Released none events) ∧
    ∀ copy status, s.Recalls (.puller copy) → (Report.update policy copy status).Shares s events →
      Undisturbed (PullerBy fun p => { p with status := some status })
        (some (.puller copy)) events := by
  have unseen : ∀ o, (none : Option StoredObject) = some o → s.Recalls o := by
    rintro o ⟨⟩
  refine ⟨?_, ?_, ?_, ?_, ?_, ?_⟩
  · intro secret key run
    exact (Program.Careful.retry_same fun _ =>
      Binding.careful_bind secret key).spares run reachable unseen
  · intro secret key run
    exact (Program.Careful.retry_same fun _ =>
      Binding.careful_unbind secret key).spares run reachable unseen
  · intro p document inNamespace run
    exact (PullSecret.careful_ensure p document inNamespace).spares run reachable unseen
  · intro copy run
    exact (Finalizer.careful_ensure copy).spares run reachable unseen
  · intro name run
    exact (Finalizer.careful_release name).spares run reachable unseen
  · intro copy status recalls run
    refine (Report.careful_update copy status).spares run reachable ?_
    rintro o ⟨⟩
    exact recalls

/-- An account is bound while another client writes it without regard to versions, and a status is
reported from a copy that another client makes stale. The first attempts fail, the second ones write
what they have read. -/
theorem Reachable.undisturbed_sample :
    let other : ServiceAccount := {
      metadata := { name := some "default", inNamespace := some "default" }
      imagePullSecrets := some ["other"] }
    let binding := (Program.retry {} fun _ =>
      Binding.bind Names.secret ⟨"default", "default"⟩).disturbed
        [[], [.call (.replaceServiceAccount other)], [], []] .sample
    let reporting := (Report.update {} .sample {}).disturbed
      [[.change (.editPuller "creds1" {})], [], []] .sample
    (binding.map (·.accepted) = [true, false, true, true] ∧
      Undisturbed (AccountBy fun a => a.withPullSecrets (a.pullSecretList ++ [Names.secret]))
        none binding) ∧
    reporting.map (·.accepted) = [false, true, true] ∧
      Undisturbed (PullerBy fun p => { p with status := some {} })
        (some (.puller .sample)) reporting := by
  intro other binding reporting
  have attempts : binding.map (·.accepted) = [true, false, true, true] := by decide +kernel
  have reports : reporting.map (·.accepted) = [false, true, true] := by decide +kernel
  have stored : Cluster.sample.pullers.get? "creds1" = some .sample := by decide +kernel
  have recalls : Cluster.sample.Recalls (.puller .sample) := by
    refine ⟨.sample, .puller "creds1", [], Cluster.reachable_sample, ?_, rfl⟩
    rw [Cluster.object?, stored]
    rfl
  refine ⟨⟨attempts, ?_⟩, reports, ?_⟩
  · exact (undisturbed Cluster.reachable_sample {}).1 _ _ (Program.shares_disturbed _ _ _)
  · exact (undisturbed Cluster.reachable_sample {}).2.2.2.2.2 _ _ recalls
      (Program.shares_disturbed _ _ _)

end PullSecrets
