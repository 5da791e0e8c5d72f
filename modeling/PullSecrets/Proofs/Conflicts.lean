import PullSecrets.Metrics.Counters
import PullSecrets.Proofs.Cleanup
import PullSecrets.Proofs.Sync

/-!
# Conflicts within the budget

A pending conflict fails one write, and the failed attempt leaves no trace: no version is given
out, nothing is counted as written, and the next attempt reads the same object again. So a
reconcile with fewer pending conflicts than attempts ends like the one without any, in its result,
in the cluster and in all counters but the one for attempts after conflicts.

The two reconciles are run side by side. Where a program only reads, both get the same answers;
where it attempts a write, it ends in both as `Persisted` says, up to the conflicts that are left.

## Main facts

* `Program.Blind`: a program that does not notice conflicts within a budget.
* `Program.Blind.of_ends`: attempts are blind when their ends are settled by the cluster without its
  conflicts.
* `Reconcile.reconcile_injectConflicts`: reconciling is blind.
-/

namespace PullSecrets

open Cluster (Persisted)
open Program (ask leave now Ends Leads)

/-! ## Two clusters -/

namespace Cluster

variable {α : Type} {budget : Nat} {s t t' : Cluster}

/-- The cluster with a number of pending conflicts. -/
def withConflicts (k : Nat) (s : Cluster) : Cluster := { s with pendingConflicts := k }

theorem withConflicts_zero (calm : s.pendingConflicts = 0) : s.withConflicts 0 = s := by
  rw [withConflicts, ← calm]

theorem Filed.withConflicts (h : s.Filed) (k : Nat) : (s.withConflicts k).Filed :=
  h.change (.injectConflicts k)

/-- The second cluster is the first one with pending conflicts within a budget, where the first one
has none. -/
def Masked (budget : Nat) (s t : Cluster) : Prop :=
  s.pendingConflicts = 0 ∧ ∃ k, k < budget ∧ t = s.withConflicts k

/-- A write ends the same way with conflicts and without. -/
theorem Persisted.masked {kind : ResourceKind} {place : Option String} {name : String}
    {commit : Cluster → α × Cluster} {k : Nat} {r r' : Except StoreError α}
    (still : ∀ u, (commit u).2.pendingConflicts = u.pendingConflicts) (few : k < budget)
    (h : Persisted budget kind place name commit (s.withConflicts 0) r t)
    (h' : Persisted budget kind place name commit (s.withConflicts k) r' t') :
    r' = r ∧ Masked budget t t' := by
  have positive : 0 < budget := Nat.zero_lt_of_lt few
  cases h with
  | through spared =>
    cases h' with
    | through => exact ⟨rfl, still _, 0, positive, (withConflicts_zero (still _)).symm⟩
    | refused at_place broken => exact absurd broken (spared _ at_place)
    | contended spared many => exact absurd few (Nat.not_lt.2 many)
  | refused at_place broken =>
    cases h' with
    | through spared => exact absurd broken (spared _ at_place)
    | refused at_place' broken' =>
      obtain rfl := Option.some.inj (at_place.symm.trans at_place')
      exact ⟨rfl, rfl, k, few, rfl⟩
    | contended spared many => exact absurd few (Nat.not_lt.2 many)
  | contended spared many => exact absurd positive (Nat.not_lt.2 many)

/-- Reading and listing do not meet conflicts. -/
theorem answer_withConflicts {c : Call} (reads : c.isWrite = false) (k : Nat) (s : Cluster) :
    ((s.withConflicts k).answer c).1 = (s.answer c).1 := by
  cases c with
  | getPuller | listNamespaces | getSecret | listServiceAccounts | getServiceAccount => rfl
  | replacePuller | replacePullerStatus | createSecret | replaceSecret | replaceServiceAccount =>
    cases reads

end Cluster

/-! ## Two scenes -/

/-- A cluster with counters, and with a clock that has been read some times. -/
structure Scene where
  cluster : Cluster
  readings : Nat := 0
  counters : Counters := {}

/-- Scenes as surroundings, with what the clock says at each of its readings. -/
def Scene.surroundings (times : Nat → String) : Surroundings Scene where
  call := fun c x => ((x.cluster.answer c).1, { x with cluster := (x.cluster.answer c).2 })
  clock := fun x => (times x.readings, { x with readings := x.readings + 1 })
  note := fun n x => { x with counters := x.counters.record n }
  cluster := Scene.cluster
  call_fst := fun _ _ => rfl
  cluster_call := fun _ _ => rfl
  cluster_clock := fun _ => rfl
  cluster_note := fun _ _ => rfl

/-- The counters differ at most in how many attempts came after conflicts. -/
def Counters.UpToRetries (c d : Counters) : Prop :=
  d = { c with conflictRetries := d.conflictRetries }

theorem Counters.UpToRetries.trans {c d e : Counters} (h : c.UpToRetries d)
    (h' : d.UpToRetries e) : c.UpToRetries e := by
  rw [UpToRetries] at *
  rw [h', h]

theorem Counters.UpToRetries.symm {c d : Counters} (h : c.UpToRetries d) : d.UpToRetries c := by
  rw [UpToRetries] at *
  rw [h]

theorem Counters.UpToRetries.record {c d : Counters} (h : c.UpToRetries d) (n : Note) :
    (c.record n).UpToRetries (d.record n) := by
  rw [UpToRetries] at *
  cases n <;> rw [h] <;> rfl

/-- The second scene is the first one, with pending conflicts and with more attempts. -/
structure Scene.Masked (budget : Nat) (x y : Scene) : Prop where
  cluster : Cluster.Masked budget x.cluster y.cluster
  readings : y.readings = x.readings
  counters : x.counters.UpToRetries y.counters

namespace Program

variable {ε δ α β ι : Type} {budget : Nat} {times : Nat → String} {s : Cluster}

/-! ## Attempts -/

/-- The program reads no clock, and leaves no notes but those about attempts. -/
def Hushed : Program ε α → Prop
  | done _ => True
  | fail _ => True
  | call _ next => ∀ r, (next r).Hushed
  | clock _ => False
  | note n next => (n = .conflictRetried ∨ ∃ milliseconds, n = .paused milliseconds) ∧
    (next ()).Hushed

section Hushed

theorem Hushed.ask {c : Call} : (Program.ask c).Hushed := by
  rintro (e | v)
  · trivial
  · trivial

theorem Hushed.bind {p : Program ε α} {f : α → Program ε β} (hp : p.Hushed)
    (hf : ∀ a, (f a).Hushed) : (p >>= f).Hushed := by
  rw [bind_eq]
  induction p with
  | done a => exact hf a
  | fail e => trivial
  | call c next ih => exact fun r => ih r (hp r)
  | clock next ih => exact hp.elim
  | note n next ih => exact ⟨hp.1, ih () hp.2⟩

theorem Hushed.attempt {p : Program ε α} (hp : p.Hushed) :
    (p.attempt : Program δ (Except ε α)).Hushed := by
  induction p with
  | done a => trivial
  | fail e => trivial
  | call c next ih => exact fun r => ih r (hp r)
  | clock next ih => exact hp.elim
  | note n next ih => exact ⟨hp.1, ih () hp.2⟩

theorem Hushed.ite {c : Prop} [Decidable c] {p q : Program ε α} (hp : p.Hushed) (hq : q.Hushed) :
    (if c then p else q).Hushed := by
  split
  · exact hp
  · exact hq

theorem Hushed.unlessMissing {p : Program StoreError α} (hp : p.Hushed) :
    p.unlessMissing.Hushed := by
  refine hp.attempt.bind ?_
  rintro (e | a)
  · exact Hushed.ite trivial trivial
  · trivial

theorem Hushed.retry {policy : RetryPolicy} {change : Nat → Program StoreError α}
    (h : ∀ i, (change i).Hushed) : (Program.retry policy change).Hushed := by
  -- The induction is on the attempts that are left after the next one.
  suffices general : ∀ retries i, (retryFrom policy.pause change i retries).Hushed from general _ 0
  intro retries
  induction retries with
  | zero => exact h
  | succ retries ih =>
    intro i
    rw [retryFrom]
    refine (h i).attempt.bind ?_
    rintro (e | a)
    · refine Hushed.ite (Hushed.bind ⟨.inl rfl, trivial⟩ fun _ => Hushed.bind ?_ fun _ => ih _)
        trivial
      unfold wait
      exact Hushed.ite trivial ⟨.inr ⟨_, rfl⟩, trivial⟩
    · trivial

/-- Nothing but the cluster and the number of attempts is changed. -/
theorem Hushed.run {p : Program ε α} (hp : p.Hushed) (times : Nat → String) (x : Scene) :
    let y := (p.run (Scene.surroundings times).toHandler x).2
    y.readings = x.readings ∧ x.counters.UpToRetries y.counters := by
  induction p generalizing x with
  | done a => exact ⟨rfl, rfl⟩
  | fail e => exact ⟨rfl, rfl⟩
  | call c next ih => exact ih _ (hp _) _
  | clock next ih => exact hp.elim
  | note n next ih =>
    obtain ⟨readings, counters⟩ := ih () hp.2 { x with counters := x.counters.record n }
    refine ⟨readings, Counters.UpToRetries.trans ?_ counters⟩
    rcases hp.1 with rfl | ⟨milliseconds, rfl⟩ <;> rfl

end Hushed

/-! ## Blind programs -/

/-- Whether conflicts within a budget are pending in a cluster makes no difference, neither to the
result of the program nor to anything else but the number of attempts. -/
def Blind (budget : Nat) (times : Nat → String) (s : Cluster) (p : Program ε α) : Prop :=
  ∀ x y : Scene, x.cluster = s → Scene.Masked budget x y →
    let h := (Scene.surroundings times).toHandler
    (p.run h y).1 = (p.run h x).1 ∧ Scene.Masked budget (p.run h x).2 (p.run h y).2

section Blind

theorem Blind.pure {a : α} : (Pure.pure a : Program ε α).Blind budget times s :=
  fun _ _ _ masked => ⟨rfl, masked⟩

theorem Blind.fail {e : ε} : (Program.fail e : Program ε α).Blind budget times s :=
  fun _ _ _ masked => ⟨rfl, masked⟩

theorem Blind.ofExcept {r : Except ε α} : (Program.ofExcept r).Blind budget times s := by
  cases r
  · exact Blind.fail
  · exact Blind.pure

theorem Blind.settle {errors : Aggregate} {a : α} :
    (Program.settle errors a).Blind budget times s := by
  unfold Program.settle
  split
  · exact Blind.pure
  · exact Blind.fail

/-- Going on from whatever the first program leads to. -/
theorem Blind.bind {p : Program ε α} {f : α → Program ε β} (ends : Except ε α → Cluster → Prop)
    (hp : p.Blind budget times s) (led : p.Ends ends s)
    (hf : ∀ a t, ends (.ok a) t → (f a).Blind budget times t) :
    (p >>= f).Blind budget times s := by
  rintro x y rfl masked
  obtain ⟨same, after⟩ := hp x y rfl masked
  have ended := led.run (w := Scene.surroundings times)
  simp only [bind_eq, run_bind]
  generalize p.run (Scene.surroundings times).toHandler x = first at *
  generalize p.run (Scene.surroundings times).toHandler y = second at *
  obtain ⟨r, x'⟩ := first
  obtain ⟨r', y'⟩ := second
  obtain rfl : r' = r := same
  cases r' with
  | error e => exact ⟨rfl, after⟩
  | ok a => exact hf a x'.cluster ended x' y' rfl after

/-- Going on with a program that is blind everywhere. -/
theorem Blind.bind_always {p : Program ε α} {f : α → Program ε β} (hp : p.Blind budget times s)
    (hf : ∀ a t, (f a).Blind budget times t) : (p >>= f).Blind budget times s :=
  Blind.bind (fun _ _ => True) hp (Keeps.of_calls (fun _ _ _ => trivial) p s trivial).ends
    fun a t _ => hf a t

theorem Blind.attempt {p : Program ε α} (hp : p.Blind budget times s) :
    (p.attempt : Program δ (Except ε α)).Blind budget times s := by
  intro x y hx masked
  simp only [run_attempt]
  obtain ⟨same, after⟩ := hp x y hx masked
  exact ⟨congrArg Except.ok same, after⟩

theorem Blind.liftM {p : Program StoreError α} (hp : p.Blind budget times s) :
    (MonadLiftT.monadLift p : Program ReconcileError α).Blind budget times s := by
  intro x y hx masked
  obtain ⟨same, after⟩ := hp x y hx masked
  have lifted (x : Scene) : (MonadLiftT.monadLift p : Program ReconcileError α).run
      (Scene.surroundings times).toHandler x = _ := run_mapError _ ReconcileError.store p x
  simp only [lifted]
  exact ⟨congrArg (Except.mapError ReconcileError.store) same, after⟩

/-- A note is left in both scenes. -/
theorem Blind.leave_bind {n : Note} {f : Unit → Program ε β} (hf : (f ()).Blind budget times s) :
    (Program.leave n >>= f).Blind budget times s :=
  fun _ _ hx masked => hf _ _ hx ⟨masked.cluster, masked.readings, masked.counters.record n⟩

/-- The clock says the same in both scenes. -/
theorem Blind.now_bind {f : String → Program ε β} (hf : ∀ time, (f time).Blind budget times s) :
    (Program.now >>= f).Blind budget times s := by
  intro x y hx masked
  have read (x : Scene) : (Program.now >>= f).run (Scene.surroundings times).toHandler x =
    (f (times x.readings)).run (Scene.surroundings times).toHandler
      { x with readings := x.readings + 1 } := rfl
  simp only [read]
  rw [masked.readings]
  exact hf (times x.readings) _ _ hx ⟨masked.cluster, rfl, masked.counters⟩

/-- What is read is the same in both scenes. -/
theorem Blind.ask {c : Call} (reads : c.isWrite = false) :
    (Program.ask c).Blind budget times s := by
  rintro x y - masked
  have asked (x : Scene) : (Program.ask c).run (Scene.surroundings times).toHandler x =
      ((x.cluster.answer c).1, x) := by
    have unchanged : { x with cluster := (x.cluster.answer c).2 } = x := by
      rw [x.cluster.answer_of_not_isWrite reads]
    have ended : ∀ r : c.Reply, (Program.ofExcept r).run (Scene.surroundings times).toHandler x =
        (r, x) := by
      rintro (e | v)
      · rfl
      · rfl
    show (Program.ofExcept (x.cluster.answer c).1).run _
      { x with cluster := (x.cluster.answer c).2 } = _
    rw [unchanged, ended]
  simp only [asked]
  obtain ⟨-, k, -, same⟩ := masked.cluster
  exact ⟨by rw [same, Cluster.answer_withConflicts reads], masked⟩

theorem ends_ask {c : Call} (reads : c.isWrite = false) :
    (Program.ask c).Ends (fun r t => r = (s.answer c).1 ∧ t = s) s :=
  leads_ask.2 ⟨trivial, rfl, s.answer_of_not_isWrite reads⟩

/-- Going on with what is read. -/
theorem Blind.ask_bind {c : Call} {f : c.Value → Program StoreError β} (reads : c.isWrite = false)
    (hf : ∀ v, (s.answer c).1 = .ok v → (f v).Blind budget times s) :
    (Program.ask c >>= f).Blind budget times s := by
  refine Blind.bind _ (Blind.ask reads) (ends_ask reads) ?_
  rintro v t ⟨answered, rfl⟩
  exact hf v answered.symm

/-- Going on with what is read within a reconcile. -/
theorem Blind.liftM_ask_bind {c : Call} {f : c.Value → Program ReconcileError β}
    (reads : c.isWrite = false)
    (hf : ∀ v, (s.answer c).1 = .ok v → (f v).Blind budget times s) :
    ((MonadLiftT.monadLift (Program.ask c) : Program ReconcileError c.Value) >>= f).Blind
      budget times s := by
  refine Blind.bind (fun r t => r = (s.answer c).1.mapError .store ∧ t = s)
    (Blind.ask reads).liftM (leads_liftM.2 ((ends_ask reads).mono ?_)) ?_
  · rintro _ t ⟨rfl, same⟩
    exact ⟨rfl, same⟩
  · rintro v t ⟨answered, rfl⟩
    cases found : (t.answer c).1 with
    | error e =>
      rw [found] at answered
      cases answered
    | ok a =>
      rw [found] at answered
      cases answered
      exact hf v found

/-- Working on every item of a list, where what the items rely on is kept. -/
theorem Blind.forEach {work : ι → Program δ α} {items : List ι} (kept : Cluster → Prop)
    (blind : ∀ i ∈ items, ∀ t, kept t → (work i).Blind budget times t)
    (keeps : ∀ i ∈ items, ∀ t, kept t → (work i).Ends (fun _ u => kept u) t) (start : kept s) :
    (Program.forEach work items : Program ε _).Blind budget times s := by
  induction items generalizing s with
  | nil => exact Blind.pure
  | cons i rest ih =>
    rw [Program.forEach]
    refine Blind.bind (fun _ t => kept t) (blind i List.mem_cons_self s start).attempt
      (leads_attempt.2 (keeps i List.mem_cons_self s start)) fun r t ht => ?_
    have others := ih (fun j hj => blind j (List.mem_cons_of_mem i hj))
      (fun j hj => keeps j (List.mem_cons_of_mem i hj)) ht
    exact others.bind_always fun _ _ => Blind.pure

/-- Attempts that end in both scenes as the cluster without its conflicts tells. -/
theorem Blind.of_ends {p : Program ε α} (R : Cluster → Except ε α → Cluster → Prop)
    (hushed : p.Hushed) (ends : ∀ k, p.Ends (R (s.withConflicts k)) (s.withConflicts k))
    (same : ∀ k r t r' t', k < budget → R (s.withConflicts 0) r t → R (s.withConflicts k) r' t' →
      r' = r ∧ Cluster.Masked budget t t') : p.Blind budget times s := by
  rintro x y rfl masked
  obtain ⟨calm, k, few, besieged⟩ := masked.cluster
  have led (z : Scene) (j : Nat) (hz : z.cluster = x.cluster.withConflicts j) :
      R (x.cluster.withConflicts j) (p.run (Scene.surroundings times).toHandler z).1
        (p.run (Scene.surroundings times).toHandler z).2.cluster := by
    have ended := ends j
    rw [← hz] at ended ⊢
    exact ended.run (w := Scene.surroundings times)
  obtain ⟨result, cluster⟩ := same k _ _ _ _ few
    (led x 0 (Cluster.withConflicts_zero calm).symm) (led y k besieged)
  obtain ⟨readings, counters⟩ := hushed.run times x
  obtain ⟨readings', counters'⟩ := hushed.run times y
  exact ⟨result, cluster, readings'.trans (masked.readings.trans readings.symm),
    (counters.symm.trans masked.counters).trans counters'⟩

end Blind

end Program

/-! ## The writes of a reconcile -/

section Writes

variable {policy : RetryPolicy} {times : Nat → String} {p : Puller} {s : Cluster}

/-- A write that is attempted within the budget is blind, and so is leaving it where there is
nothing to write. -/
theorem Program.Blind.of_cases {α : Type} {budget : Nat} {kind : ResourceKind}
    {place : Option String} {name : String} {commit : Cluster → α × Cluster}
    {write : Program StoreError α} {idle busy : Prop} {v : α} (hushed : write.Hushed)
    (ends : ∀ k, write.Ends (fun r t => (idle ∧ r = .ok v ∧ t = s.withConflicts k) ∨
      (busy ∧ Persisted budget kind place name commit (s.withConflicts k) r t)) (s.withConflicts k))
    (exclusive : idle → ¬ busy) (still : ∀ u, (commit u).2.pendingConflicts = u.pendingConflicts) :
    write.Blind budget times s := by
  refine .of_ends (fun u r t => (idle ∧ r = .ok v ∧ t = u) ∨
    (busy ∧ Persisted budget kind place name commit u r t)) hushed ends ?_
  rintro k r t r' t' few (⟨none, rfl, rfl⟩ | ⟨some, written⟩)
    (⟨none', rfl, rfl⟩ | ⟨some', written'⟩)
  · exact ⟨rfl, rfl, k, few, rfl⟩
  · exact absurd some' (exclusive none)
  · exact absurd some (exclusive none')
  · exact written.masked still few written'

theorem Finalizer.hushed_ensure (p : Puller) : (Finalizer.ensure policy p).Hushed := by
  unfold ensure
  refine Program.Hushed.ite trivial (Program.Hushed.retry fun _ =>
    Program.Hushed.ask.bind fun found => ?_)
  cases found with
  | none => trivial
  | some latest => exact Program.Hushed.ite trivial Program.Hushed.ask

theorem Finalizer.blind_ensure (stored : s.pullers.get? p.name = some p) :
    (Finalizer.ensure policy p).Blind policy.budget times s :=
  .of_cases (hushed_ensure p) (fun k => ensure_cases (s := s.withConflicts k) stored)
    (fun has lacks => Bool.false_ne_true (lacks.symm.trans has)) fun _ => rfl

theorem Finalizer.hushed_release (name : String) : (Finalizer.release policy name).Hushed := by
  unfold release
  refine Program.Hushed.retry fun _ => Program.Hushed.ask.bind fun found => ?_
  cases found with
  | none => trivial
  | some latest =>
    exact Program.Hushed.ite (Program.Hushed.ask.unlessMissing.bind fun _ => trivial) trivial

theorem Finalizer.letGo_pendingConflicts (p : Puller) (s : Cluster) :
    (letGo p s).2.pendingConflicts = s.pendingConflicts := by
  unfold letGo
  split <;> rfl

theorem Finalizer.blind_release (stored : s.pullers.get? p.name = some p) :
    (Finalizer.release policy p.name).Blind policy.budget times s :=
  .of_cases (hushed_release p.name) (fun k => release_cases (s := s.withConflicts k) stored)
    (fun lacks has => Bool.false_ne_true (lacks.symm.trans has)) (letGo_pendingConflicts p)

theorem Report.hushed_update (p : Puller) (status : PullerStatus) :
    (Report.update policy p status).Hushed := by
  unfold update
  refine Program.Hushed.ite trivial (Program.Hushed.retry fun i => ?_)
  have written (target : Puller) : (if target.status = some status then pure false
      else do
        let _ ← ask (.replacePullerStatus { target with status := some status })
        pure true : Program StoreError Bool).Hushed :=
    Program.Hushed.ite trivial (Program.Hushed.ask.bind fun _ => trivial)
  -- The first attempt takes the copy, the others read the puller.
  dsimp only
  split
  · exact written p
  · refine Program.Hushed.ask.bind fun found => ?_
    cases found with
    | none => trivial
    | some latest => exact written latest

theorem Report.blind_update (stored : s.pullers.get? p.name = some p) (status : PullerStatus) :
    (Report.update policy p status).Blind policy.budget times s :=
  .of_cases (hushed_update p status)
    (fun k => update_cases (s := s.withConflicts k) stored status) (fun has lacks => lacks has)
    fun _ => rfl

theorem Binding.hushed_amend (change : List String → Option (List String)) (key : ObjectKey) :
    (amend change key).Hushed := by
  unfold amend
  refine Program.Hushed.ask.bind fun found => ?_
  cases found with
  | none => trivial
  | some a =>
    dsimp only
    split
    · trivial
    · exact Program.Hushed.ask.unlessMissing

theorem Binding.blind_amend (change : List String → Option (List String)) (key : ObjectKey)
    (filed : s.Filed) :
    (Program.retry policy fun _ => amend change key).Blind policy.budget times s := by
  refine .of_ends (Amended policy change key)
    (Program.Hushed.retry fun _ => hushed_amend change key)
    (fun k => amend_ends fun a stored => filed.accounts key a stored) ?_
  rintro k r t r' t' few h h'
  cases h with
  | idle unasked =>
    cases h' with
    | idle => exact ⟨rfl, rfl, k, few, rfl⟩
    | written stored asked =>
      rw [unasked _ stored] at asked
      cases asked
  | written stored asked ended =>
    cases h' with
    | idle unasked =>
      rw [unasked _ stored] at asked
      cases asked
    | written stored' asked' ended' =>
      obtain rfl := Option.some.inj (stored.symm.trans stored')
      obtain rfl := Option.some.inj (asked.symm.trans asked')
      exact ended.masked (fun _ => rfl) few ended'

/-- Several accounts, each one with attempts of its own. -/
theorem Binding.blind_changeAll (change : List String → Option (List String))
    (keys : List ObjectKey) (filed : s.Filed) :
    (changeAll policy (amend change) keys).Blind policy.budget times s := by
  unfold changeAll
  refine Program.Blind.bind_always (Program.Blind.forEach Cluster.Filed
    (fun key _ t ht => blind_amend change key ht) (fun key _ t ht => Program.ends_filed _ ht) filed)
    fun _ _ => Program.Blind.settle

theorem Binding.blind_bindAll (inNamespace secret : String) (filed : s.Filed) :
    (bindAll policy inNamespace secret).Blind policy.budget times s := by
  unfold bindAll
  refine Program.Blind.liftM_ask_bind rfl fun accounts _ => ?_
  rw [bind_eq_amend]
  exact blind_changeAll _ _ filed

theorem Binding.blind_unbindAll (secret : String) (filed : s.Filed) :
    (unbindAll policy secret).Blind policy.budget times s := by
  unfold unbindAll
  refine Program.Blind.liftM_ask_bind rfl fun accounts _ => ?_
  rw [unbind_eq_amend]
  exact blind_changeAll _ _ filed

theorem PullSecret.hushed_ensure (x : Secret) : (PullSecret.ensure policy x).Hushed := by
  unfold ensure
  refine Program.Hushed.retry fun _ => Program.Hushed.ask.bind fun found => ?_
  cases found with
  | none => exact Program.Hushed.ask.bind fun _ => trivial
  | some old => exact Program.Hushed.ite trivial (Program.Hushed.ask.bind fun _ => trivial)

theorem PullSecret.blind_ensure {x : Secret} {key : ObjectKey}
    (placed : x.metadata.key .secret = .ok key) (filed : s.Filed)
    (there : s.namespaces.contains key.inNamespace = true) :
    (PullSecret.ensure policy x).Blind policy.budget times s := by
  refine .of_ends (Ensured policy x key) (hushed_ensure x)
    (fun k => ensure_ends policy placed (filed.withConflicts k) there) ?_
  rintro k r t r' t' few h h'
  cases h with
  | current stored same =>
    cases h' with
    | current => exact ⟨rfl, rfl, k, few, rfl⟩
    | merged stored' differs =>
      obtain rfl := Option.some.inj (stored.symm.trans stored')
      exact absurd (differs.symm.trans same) Bool.false_ne_true
    | created free => cases stored.symm.trans free
  | merged stored differs ended =>
    cases h' with
    | current stored' same =>
      obtain rfl := Option.some.inj (stored.symm.trans stored')
      exact absurd (differs.symm.trans same) Bool.false_ne_true
    | merged stored' differs' ended' =>
      obtain rfl := Option.some.inj (stored.symm.trans stored')
      exact ended.masked (fun _ => rfl) few ended'
    | created free => cases stored.symm.trans free
  | created free ended =>
    cases h' with
    | current stored => cases stored.symm.trans free
    | merged stored => cases stored.symm.trans free
    | created free' ended' => exact ended.masked (fun _ => rfl) few ended'

end Writes

/-! ## Reconciling -/

namespace Reconcile

variable {config : Config} {policy : RetryPolicy} {times : Nat → String} {p : Puller}
  {name : String} {s : Cluster}

theorem blind_ensureNamespace (n : String) (filed : s.Filed)
    (there : s.namespaces.contains n = true) :
    (ensureNamespace policy p p.document n).Blind policy.budget times s := by
  unfold ensureNamespace
  refine Program.Blind.bind (fun _ t => t.Filed)
    (PullSecret.blind_ensure (PullSecret.key_wanted p p.document n) filed there).liftM
    (Program.ends_filed _ filed) fun written t ht => ?_
  exact (Binding.blind_bindAll n Names.secret ht).bind_always fun _ _ => Program.Blind.pure

theorem blind_converge (filed : s.Filed) : (converge policy p).Blind policy.budget times s := by
  unfold converge
  have resolve : (Target.resolve p.spec.namespaceSelector).Blind policy.budget times s :=
    Program.Blind.ask_bind rfl fun _ _ => Program.Blind.pure
  refine Program.Blind.bind (fun r t => t = s ∧ ∀ targets, r = .ok targets →
    targets = s.targets p.spec.namespaceSelector) resolve.liftM
    (Program.leads_liftM.2 ((Target.resolve_ends filed p.spec.namespaceSelector).mono ?_)) ?_
  · rintro _ t ⟨rfl, rfl | ⟨⟨e, rfl⟩, -⟩⟩
    · exact ⟨rfl, fun _ h => (Except.ok.inj h).symm⟩
    · exact ⟨rfl, nofun⟩
  · rintro targets t ⟨rfl, found⟩
    obtain rfl := found targets rfl
    refine Program.Blind.bind_always (Program.Blind.forEach
      (fun u => u.Filed ∧ u.namespaces = t.namespaces) ?_ ?_ ⟨filed, rfl⟩) ?_
    · rintro n hn u ⟨filed_u, same⟩
      exact blind_ensureNamespace n filed_u (same ▸ Cluster.contains_of_mem_targets hn)
    · rintro n hn u ⟨filed_u, same⟩
      have there : u.namespaces.contains n = true := same ▸ Cluster.contains_of_mem_targets hn
      refine ((ensureNamespace_ends filed_u there).and (Program.ends_filed _ filed_u)).mono ?_
      rintro r v ⟨⟨worked, -⟩, filed_v⟩
      exact ⟨filed_v, worked.namespaces.trans same⟩
    · exact fun _ _ => .leave_bind (.leave_bind .settle)

theorem blind_sync (filed : s.Filed) (stored : s.pullers.get? p.name = some p) :
    (sync policy p).Blind policy.budget times s := by
  unfold sync Report.statusNow
  refine Program.Blind.bind (fun _ t => t.pullers.get? p.name = some p)
    (blind_converge filed).attempt (Program.leads_attempt.2 ((converge_ends filed).mono ?_)) ?_
  · intro r t converging
    rw [converging.worked.pullers]
    exact stored
  · intro outcome t stored
    simp only [bind_assoc, pure_bind]
    refine .now_bind fun readyTime => .now_bind fun errorTime => ?_
    exact (Report.blind_update stored _).liftM.bind_always fun _ _ => .ofExcept

theorem blind_cleanup (filed : s.Filed) (stored : s.pullers.get? p.name = some p) :
    (cleanup policy p).Blind policy.budget times s := by
  unfold cleanup
  refine Program.Blind.bind (fun _ t => t.pullers.get? p.name = some p)
    (Binding.blind_unbindAll Names.secret filed) ((Binding.unbindAll_ends filed).mono ?_) ?_
  · rintro r t (⟨-, rfl, -⟩ | ⟨-, results, -, swept, -⟩)
    · exact stored
    · rw [swept.rest.pullers]
      exact stored
  · intro unbound t stored
    exact .leave_bind ((Finalizer.blind_release stored).liftM.bind_always fun _ _ => .pure)

/-- Reconciling a puller, whether it is there or not, and whether it is to be deleted or not. -/
theorem blind_reconcile (filed : s.Filed) :
    (reconcile config name).Blind config.retryPolicy.budget times s := by
  unfold reconcile
  suffices steps : (steps config name).Blind config.retryPolicy.budget times s from
    .leave_bind (steps.attempt.bind_always fun _ _ => .leave_bind .ofExcept)
  unfold steps
  refine .liftM_ask_bind rfl fun found answered => ?_
  cases found with
  | none => exact .pure
  | some p =>
    have stored : s.pullers.get? name = some p := Except.ok.inj answered
    obtain rfl : p.name = name := filed.pullers name p stored
    dsimp only
    split
    · exact (blind_cleanup filed stored).bind_always fun _ _ => .pure
    · refine Program.Blind.bind (fun r t => t.Filed ∧ ∀ q, r = .ok q →
        t.pullers.get? q.name = some q) (Finalizer.blind_ensure stored).liftM
        (Program.leads_liftM.2 (((Finalizer.ensure_ends stored).and
          (Program.ends_filed _ filed)).mono ?_)) ?_
      · rintro (e | q) t ⟨⟨-, ok, -⟩, filed⟩
        · refine ⟨filed, fun q failed => ?_⟩
          cases failed
        · obtain ⟨stored, -, akin⟩ := ok q rfl
          refine ⟨filed, fun q' fine => ?_⟩
          obtain rfl : q = q' := Except.ok.inj fine
          rw [akin.name_eq]
          exact stored
      · rintro q t ⟨filed, stored⟩
        exact (blind_sync filed (stored q rfl)).bind_always fun _ _ => .leave_bind .pure

/-- With fewer pending conflicts than attempts, a reconcile has the same result as without any, and
it leaves the same cluster behind, up to the conflicts that are still pending. The clock is read as
often, and nothing is counted differently but the attempts after conflicts. -/
theorem reconcile_injectConflicts (times : Nat → String) (config : Config) (name : String)
    (readings : Nat) (counters : Counters) (reachable : Reachable s)
    (calm : s.pendingConflicts = 0) {k : Nat} (few : k < config.retryPolicy.budget) :
    let h := (Scene.surroundings times).toHandler
    let x := (reconcile config name).run h ⟨s, readings, counters⟩
    let y := (reconcile config name).run h ⟨(s.change (.injectConflicts k)).2, readings, counters⟩
    y.1 = x.1 ∧
      y.2.cluster = { x.2.cluster with pendingConflicts := y.2.cluster.pendingConflicts } ∧
      y.2.readings = x.2.readings ∧
      y.2.counters = { x.2.counters with conflictRetries := y.2.counters.conflictRetries } := by
  intro h x y
  have masked : Scene.Masked config.retryPolicy.budget ⟨s, readings, counters⟩
      ⟨(s.change (.injectConflicts k)).2, readings, counters⟩ :=
    ⟨⟨calm, k, few, rfl⟩, rfl, rfl⟩
  have blind : (reconcile config name).Blind config.retryPolicy.budget times s :=
    blind_reconcile reachable.filed
  obtain ⟨same, ⟨⟨-, left, -, cluster⟩, read, counted⟩⟩ := blind _ _ rfl masked
  refine ⟨same, ?_, read, counted⟩
  rw [cluster]
  rfl

/-- Two conflicts are pending when the puller of the small cluster is reconciled for the first
time. They are noticed by nothing but two more attempts. -/
theorem reconcile_injectConflicts_sample :
    let h := (Scene.surroundings fun n => if n = 0 then "first" else "later").toHandler
    let x := (reconcile {} "creds1").run h ⟨.sample, 0, {}⟩
    let y := (reconcile {} "creds1").run h ⟨(Cluster.sample.change (.injectConflicts 2)).2, 0, {}⟩
    y.1 = x.1 ∧ y.2.cluster = { x.2.cluster with pendingConflicts := 0 } ∧
      y.2.counters = { x.2.counters with conflictRetries := 2 } := by
  have calm : Cluster.sample.pendingConflicts = 0 := by decide +kernel
  have spent : (fun y : Scene => (y.cluster.pendingConflicts, y.counters.conflictRetries))
      ((reconcile {} "creds1").run (Scene.surroundings fun n =>
        if n = 0 then "first" else "later").toHandler
          ⟨(Cluster.sample.change (.injectConflicts 2)).2, 0, {}⟩).2 = (0, 2) := by decide +kernel
  have reachable := Cluster.reachable_sample
  -- No more is evaluated from here on.
  generalize Cluster.sample = s at *
  intro h x y
  obtain ⟨same, cluster, -, counters⟩ := reconcile_injectConflicts
    (fun n => if n = 0 then "first" else "later") {} "creds1" 0 {} reachable calm
    (show 2 < RetryPolicy.budget {} by decide)
  obtain ⟨left, retries⟩ := Prod.mk.inj spent
  rw [left] at cluster
  rw [retries] at counters
  exact ⟨same, cluster, counters⟩

end Reconcile

end PullSecrets
