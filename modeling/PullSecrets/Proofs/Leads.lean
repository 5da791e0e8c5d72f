import Mathlib.Data.List.Basic
import Mathlib.Tactic.Common
import PullSecrets.Cluster.Answer
import PullSecrets.Reconcile.Failure
import PullSecrets.Retry

/-!
# What a program leads to

`Leads` says of a program and a state what every run from there does, whatever the clock says:
each call that it makes is made in a state that allows it, and the run ends as it should. The
rules follow the ways in which programs are put together, so that a fact about a program is taken
apart along its text. A run that is cut off stands after one of its calls, and what holds after
every call holds there.

A program may run in any surroundings that answer calls as a cluster does; what it leads to from
the cluster is what it does in all of them.

## Main facts

* `leads_bind`, `leads_attempt`, `leads_mapError`: the rules for programs put together.
* `Leads.forEach`, `Leads.retry`: the rules for lists of items and for attempts after conflicts.
* `Leads.run`, `Leads.calls`, `Leads.cut`: what a program leads to holds of its runs in any
  surroundings.
-/

namespace PullSecrets

/-! ## Surroundings of a cluster -/

/-- The cluster as what programs run against. -/
def Cluster.handler : Handler Cluster where
  call := fun c s => s.answer c
  clock := fun s => ("", s)
  note := fun _ s => s

/-- Surroundings that hold a cluster: calls are answered by it, and neither the clock nor a note
changes it. What the clock says, and what else is kept, is left open. -/
structure Surroundings (σ : Type) extends Handler σ where
  /-- The cluster in a state of the surroundings. -/
  cluster : σ → Cluster
  call_fst : ∀ c x, (call c x).1 = ((cluster x).answer c).1
  cluster_call : ∀ c x, cluster (call c x).2 = ((cluster x).answer c).2
  cluster_clock : ∀ x, cluster (clock x).2 = cluster x
  cluster_note : ∀ n x, cluster (note n x) = cluster x

/-- The cluster alone, with a clock that always says the same. -/
def Cluster.alone (time : String) : Surroundings Cluster where
  call := fun c s => s.answer c
  clock := fun s => (time, s)
  note := fun _ s => s
  cluster := id
  call_fst := fun _ _ => rfl
  cluster_call := fun _ _ => rfl
  cluster_clock := fun _ => rfl
  cluster_note := fun _ _ => rfl

theorem Cluster.cluster_alone (time : String) (s : Cluster) :
    (Cluster.alone time).cluster s = s := rfl

/-- The number of attempts that a policy allows. -/
def RetryPolicy.budget (policy : RetryPolicy) : Nat := max policy.attempts 1

theorem RetryPolicy.budget_pos (policy : RetryPolicy) : 0 < policy.budget := Nat.le_max_right _ _

/-- A result that has a value is that value. -/
theorem eq_ok_of_toOption {ε α : Type} {r : Except ε α} {a : α} (h : r.toOption = some a) :
    r = .ok a := by
  cases r with
  | error e => cases h
  | ok b => rw [Option.some.inj h]

namespace Program

variable {σ ε δ α β ι : Type}

/-- The state in which a run stands that is cut off after a number of calls. -/
def cut (h : Handler σ) : Program ε α → Nat → σ → σ
  | done _, _, s => s
  | fail _, _, s => s
  | call _ _, 0, s => s
  | call c next, n + 1, s => (next (h.call c s).1).cut h n (h.call c s).2
  | clock next, n, s => (next (h.clock s).1).cut h n (h.clock s).2
  | note m next, n, s => (next ()).cut h n (h.note m s)

/-- A run that is not cut off ends like one that is cut off late enough. -/
theorem exists_cut_eq_run (h : Handler σ) (p : Program ε α) (s : σ) :
    ∃ n, p.cut h n s = (p.run h s).2 := by
  induction p generalizing s with
  | done a => exact ⟨0, rfl⟩
  | fail e => exact ⟨0, rfl⟩
  | call c next ih =>
    obtain ⟨n, hn⟩ := ih (h.call c s).1 (h.call c s).2
    exact ⟨n + 1, hn⟩
  | clock next ih => exact ih (h.clock s).1 (h.clock s).2
  | note m next ih => exact ih () (h.note m s)

/-- The calls of a run, each with the state in which it is made. -/
def calls (h : Handler σ) : Program ε α → σ → List (σ × Call)
  | done _, _ => []
  | fail _, _ => []
  | call c next, s => (s, c) :: (next (h.call c s).1).calls h (h.call c s).2
  | clock next, s => (next (h.clock s).1).calls h (h.clock s).2
  | note n next, s => (next ()).calls h (h.note n s)

section Calls

variable {h : Handler σ} {x : σ}

/-- The calls of two programs one after the other. -/
theorem calls_bind (p : Program ε α) (f : α → Program ε β) :
    (p >>= f).calls h x = p.calls h x ++
      match p.run h x with
      | (.ok a, y) => (f a).calls h y
      | (.error _, _) => [] := by
  rw [bind_eq]
  induction p generalizing x with
  | done a => rfl
  | fail e => rfl
  | call c next ih => exact congrArg ((x, c) :: ·) (ih _)
  | clock next ih => exact ih _
  | note n next ih => exact ih _

theorem calls_attempt (p : Program ε α) :
    (p.attempt : Program δ (Except ε α)).calls h x = p.calls h x := by
  induction p generalizing x with
  | done a => rfl
  | fail e => rfl
  | call c next ih => exact congrArg ((x, c) :: ·) (ih _)
  | clock next ih => exact ih _
  | note n next ih => exact ih _

theorem calls_mapError (f : ε → δ) (p : Program ε α) :
    (p.mapError f).calls h x = p.calls h x := by
  induction p generalizing x with
  | done a => rfl
  | fail e => rfl
  | call c next ih => exact congrArg ((x, c) :: ·) (ih _)
  | clock next ih => exact ih _
  | note n next ih => exact ih _

end Calls

/-- Whatever the clock says, every call of a run is made as `each` asks, and the run ends as
`ends` asks. -/
def Leads (h : Handler σ) (each : σ → Call → Prop) (ends : Except ε α → σ → Prop) :
    Program ε α → σ → Prop
  | done a, s => ends (.ok a) s
  | fail e, s => ends (.error e) s
  | call c next, s => each s c ∧ (next (h.call c s).1).Leads h each ends (h.call c s).2
  | clock next, s => ∀ time, (next time).Leads h each ends s
  | note n next, s => (next ()).Leads h each ends (h.note n s)

/-- What a program leads to at its end, without regard to its calls. -/
abbrev Ends (ends : Except ε α → Cluster → Prop) (p : Program ε α) (s : Cluster) : Prop :=
  p.Leads Cluster.handler (fun _ _ => True) ends s

/-- Every call of the program keeps a property of the cluster. -/
def Keeps (kept : Cluster → Prop) (p : Program ε α) : Prop :=
  ∀ s, kept s → p.Leads Cluster.handler (fun t c => kept (t.answer c).2) (fun _ t => kept t) s

/-! ## Rules -/

section Rules

variable {h : Handler σ} {each : σ → Call → Prop}

@[simp] theorem leads_pure {ends : Except ε α → σ → Prop} {a : α} {s : σ} :
    (pure a : Program ε α).Leads h each ends s ↔ ends (.ok a) s := Iff.rfl

@[simp] theorem leads_fail {ends : Except ε α → σ → Prop} {e : ε} {s : σ} :
    (fail e : Program ε α).Leads h each ends s ↔ ends (.error e) s := Iff.rfl

/-- Going on with the value of a program. -/
@[simp] theorem leads_bind {p : Program ε α} {f : α → Program ε β}
    {ends : Except ε β → σ → Prop} {s : σ} :
    (p >>= f).Leads h each ends s ↔
      p.Leads h each (fun r t => match r with
        | .ok a => (f a).Leads h each ends t
        | .error e => ends (.error e) t) s := by
  -- Both sides go through the calls of `p`, and they part only where `p` ends.
  rw [bind_eq]
  induction p generalizing s with
  | done a => exact Iff.rfl
  | fail e => exact Iff.rfl
  | call c next ih => exact and_congr_right fun _ => ih _
  | clock next ih => exact forall_congr' fun _ => ih _
  | note n next ih => exact ih _

/-- A caught failure changes the result alone. -/
@[simp] theorem leads_attempt {p : Program ε α} {ends : Except δ (Except ε α) → σ → Prop} {s : σ} :
    (p.attempt : Program δ (Except ε α)).Leads h each ends s ↔
      p.Leads h each (fun r t => ends (.ok r) t) s := by
  induction p generalizing s with
  | done a => exact Iff.rfl
  | fail e => exact Iff.rfl
  | call c next ih => exact and_congr_right fun _ => ih _
  | clock next ih => exact forall_congr' fun _ => ih _
  | note n next ih => exact ih _

/-- A changed failure changes the result alone. -/
theorem leads_mapError {f : ε → δ} {p : Program ε α} {ends : Except δ α → σ → Prop} {s : σ} :
    (p.mapError f).Leads h each ends s ↔
      p.Leads h each (fun r t => ends (r.mapError f) t) s := by
  induction p generalizing s with
  | done a => exact Iff.rfl
  | fail e => exact Iff.rfl
  | call c next ih => exact and_congr_right fun _ => ih _
  | clock next ih => exact forall_congr' fun _ => ih _
  | note n next ih => exact ih _

/-- A program of the store within a reconcile. -/
@[simp] theorem leads_liftM {p : Program StoreError α}
    {ends : Except ReconcileError α → σ → Prop} {s : σ} :
    (liftM p : Program ReconcileError α).Leads h each ends s ↔
      p.Leads h each (fun r t => ends (r.mapError .store) t) s :=
  leads_mapError

@[simp] theorem leads_ofExcept {r : Except ε α} {ends : Except ε α → σ → Prop} {s : σ} :
    (ofExcept r).Leads h each ends s ↔ ends r s := by
  cases r <;> exact Iff.rfl

@[simp] theorem leads_ask {c : Call} {ends : Except StoreError c.Value → σ → Prop} {s : σ} :
    (ask c).Leads h each ends s ↔ each s c ∧ ends (h.call c s).1 (h.call c s).2 := by
  rw [ask, Leads, leads_ofExcept]

/-- Going on with the value that answers a call. -/
theorem leads_ask_ok {c : Call} {v : c.Value} {f : c.Value → Program StoreError β}
    {ends : Except StoreError β → σ → Prop} {s t : σ} (answered : h.call c s = (.ok v, t)) :
    (ask c >>= f).Leads h each ends s ↔ each s c ∧ (f v).Leads h each ends t := by
  rw [leads_bind, leads_ask, answered]

/-- Going on with the value that answers a call within a reconcile. -/
theorem leads_liftM_ask_ok {c : Call} {v : c.Value} {f : c.Value → Program ReconcileError β}
    {ends : Except ReconcileError β → σ → Prop} {s t : σ} (answered : h.call c s = (.ok v, t)) :
    ((liftM (ask c) : Program ReconcileError c.Value) >>= f).Leads h each ends s ↔
      each s c ∧ (f v).Leads h each ends t := by
  rw [leads_bind, leads_liftM, leads_ask, answered]
  exact Iff.rfl

@[simp] theorem leads_leave {n : Note} {ends : Except ε Unit → σ → Prop} {s : σ} :
    (leave n : Program ε Unit).Leads h each ends s ↔ ends (.ok ()) (h.note n s) := Iff.rfl

@[simp] theorem leads_now {ends : Except ε String → σ → Prop} {s : σ} :
    (now : Program ε String).Leads h each ends s ↔ ∀ time, ends (.ok time) s := Iff.rfl

@[simp] theorem leads_settle {errors : Aggregate} {a : α}
    {ends : Except ReconcileError α → σ → Prop} {s : σ} :
    (settle errors a).Leads h each ends s ↔
      ends (if errors.isEmpty then .ok a else .error (.several errors)) s := by
  rw [settle]
  split <;> exact Iff.rfl

/-- A weaker end is led to as well. -/
theorem Leads.mono {p : Program ε α} {ends ends' : Except ε α → σ → Prop} {s : σ}
    (hp : p.Leads h each ends s) (weaker : ∀ r t, ends r t → ends' r t) :
    p.Leads h each ends' s := by
  induction p generalizing s with
  | done a => exact weaker _ _ hp
  | fail e => exact weaker _ _ hp
  | call c next ih => exact ⟨hp.1, ih _ hp.2⟩
  | clock next ih => exact fun time => ih _ (hp time)
  | note n next ih => exact ih _ hp

/-- Less may be asked of the calls. -/
theorem Leads.mono_each {each' : σ → Call → Prop} {p : Program ε α}
    {ends : Except ε α → σ → Prop} {s : σ} (hp : p.Leads h each ends s)
    (weaker : ∀ t c, each t c → each' t c) : p.Leads h each' ends s := by
  induction p generalizing s with
  | done a => exact hp
  | fail e => exact hp
  | call c next ih => exact ⟨weaker s c hp.1, ih _ hp.2⟩
  | clock next ih => exact fun time => ih _ (hp time)
  | note n next ih => exact ih _ hp

/-- What a program leads to at its end it leads to without regard to its calls. -/
theorem Leads.ends {each : Cluster → Call → Prop} {p : Program ε α}
    {ends : Except ε α → Cluster → Prop} {s : Cluster}
    (hp : p.Leads Cluster.handler each ends s) : p.Ends ends s :=
  hp.mono_each fun _ _ _ => trivial

/-- What a program leads to at its end may be added to what else it leads to. -/
theorem Leads.and {p : Program ε α} {ends ends' : Except ε α → σ → Prop} {s : σ}
    (hp : p.Leads h each ends s) (hp' : p.Leads h (fun _ _ => True) ends' s) :
    p.Leads h each (fun r t => ends r t ∧ ends' r t) s := by
  induction p generalizing s with
  | done a => exact ⟨hp, hp'⟩
  | fail e => exact ⟨hp, hp'⟩
  | call c next ih => exact ⟨hp.1, ih _ hp.2 hp'.2⟩
  | clock next ih => exact fun time => ih _ (hp time) (hp' time)
  | note n next ih => exact ih _ hp hp'

/-- An item of a list without repetition has no result yet when it is reached. -/
theorem not_mem_of_reached {items rest : List ι} {results : List (ι × α)} {i : ι}
    (nodup : items.Nodup) (left : items = results.map (·.1) ++ i :: rest) :
    i ∉ results.map (·.1) := by
  rw [left, List.nodup_append] at nodup
  exact fun worked => nodup.2.2 i worked i List.mem_cons_self rfl

/-- Working on every item of a list: what holds of the results so far is carried from one item
to the next. -/
theorem Leads.forEach {work : ι → Program δ α} {items : List ι} {s : σ}
    (sofar : List (ι × Except δ α) → σ → Prop)
    (step : ∀ results i rest t, items = results.map (·.1) ++ i :: rest → sofar results t →
      (work i).Leads h each (fun r u => sofar (results ++ [(i, r)]) u) t)
    (start : sofar [] s) :
    (Program.forEach work items : Program ε _).Leads h each
      (fun r t => ∃ results, r = .ok results ∧ results.map (·.1) = items ∧ sofar results t) s := by
  -- The induction is on what is left; `results` are those of the items before.
  suffices general : ∀ left results t, items = results.map (·.1) ++ left → sofar results t →
      (Program.forEach work left : Program ε _).Leads h each
        (fun r u => ∃ more, r = .ok more ∧ more.map (·.1) = left ∧ sofar (results ++ more) u) t by
    exact (general items [] s rfl start).mono fun r t hr => hr
  intro left
  induction left with
  | nil =>
    intro results t _ ht
    rw [Program.forEach]
    exact ⟨[], rfl, rfl, by simpa using ht⟩
  | cons i rest ih =>
    intro results t hitems ht
    rw [Program.forEach, leads_bind, leads_attempt]
    refine (step results i rest t hitems ht).mono fun r u hu => ?_
    refine leads_bind.2 ((ih (results ++ [(i, r)]) u (by simp [hitems]) hu).mono ?_)
    rintro _ v ⟨more, rfl, hmore, hv⟩
    exact ⟨(i, r) :: more, rfl, by simp [hmore], by simpa using hv⟩

/-- How an attempt may end: after a conflict the next one has to be reached, if there is a next
one; any other end is the end of all. -/
def attempted (again : Prop) (reached : σ → Prop) (ends : Except StoreError α → σ → Prop) :
    Except StoreError α → σ → Prop
  | .ok a, t => ends (.ok a) t
  | .error e, t =>
    (e.isConflict = true ∧ again → reached t) ∧
      (¬ (e.isConflict = true ∧ again) → ends (.error e) t)

/-- Attempting a change: every attempt is made from a state that the attempts before it have
reached. -/
theorem Leads.retry {policy : RetryPolicy} {change : Nat → Program StoreError α}
    {ends : Except StoreError α → σ → Prop} {s : σ} (reached : Nat → σ → Prop)
    (noted : ∀ i n t, reached i t → reached i (h.note n t))
    (attempt : ∀ i t, i < policy.budget → reached i t → (change i).Leads h each
      (attempted (i + 1 < policy.budget) (reached (i + 1)) ends) t)
    (start : reached 0 s) :
    (Program.retry policy change).Leads h each ends s := by
  -- The induction is on the attempts that are left after the next one.
  suffices general : ∀ retries i t, i + retries + 1 = policy.budget → reached i t →
      (retryFrom policy.pause change i retries).Leads h each ends t by
    refine general (policy.attempts - 1) 0 s ?_ start
    rw [RetryPolicy.budget]
    omega
  intro retries
  induction retries with
  | zero =>
    intro i t hi ht
    refine (attempt i t (by omega) ht).mono fun r u hu => ?_
    cases r with
    | ok a => exact hu
    | error e => exact hu.2 fun again => by omega
  | succ retries ih =>
    intro i t hi ht
    rw [retryFrom, leads_bind, leads_attempt]
    refine (attempt i t (by omega) ht).mono fun r u hu => ?_
    cases r with
    | ok a => exact hu
    | error e =>
      show (if e.isConflict = true then _ else _ : Program StoreError α).Leads h each ends u
      split
      next conflict =>
        -- Between two attempts there is a note, and another one for the pause if there is any.
        have next : reached (i + 1) u := hu.1 ⟨conflict, by omega⟩
        rw [leads_bind, leads_leave]
        show (wait policy.pause >>= fun _ => retryFrom policy.pause change (i + 1) retries).Leads
          h each ends _
        rw [leads_bind, wait]
        split
        · exact ih (i + 1) _ (by omega) (noted _ _ _ next)
        · exact ih (i + 1) _ (by omega) (noted _ _ _ (noted _ _ _ next))
      next noConflict => exact hu.2 fun again => noConflict again.1

/-- A change that runs into no conflict is attempted once. -/
theorem Leads.retry_once {policy : RetryPolicy} {change : Nat → Program StoreError α}
    {ends : Except StoreError α → σ → Prop} {s : σ} (noted : ∀ n t, h.note n t = t)
    (once : (change 0).Leads h each
      (fun r t => ends r t ∧ ∀ e, r = .error e → e.isConflict = false) s) :
    (Program.retry policy change).Leads h each ends s := by
  -- Nothing past the first attempt is ever reached.
  refine Leads.retry (fun i t => i = 0 ∧ t = s) ?_ ?_ ⟨rfl, rfl⟩
  · rintro i n t ⟨hi, rfl⟩
    exact ⟨hi, noted n t⟩
  · rintro i t - ⟨rfl, rfl⟩
    apply once.mono
    rintro (e | a) u ⟨hu, noConflict⟩
    · refine ⟨fun again => ?_, fun _ => hu⟩
      rw [noConflict e rfl] at again
      exact Bool.noConfusion again.1
    · exact hu

end Rules

/-! ## Keeping a property -/

section Keeping

variable {kept : Cluster → Prop}

theorem Keeps.pure {a : α} : Keeps kept (Pure.pure a : Program ε α) := fun _ hs => hs

theorem Keeps.fail {e : ε} : Keeps kept (Program.fail e : Program ε α) := fun _ hs => hs

theorem Keeps.leave {n : Note} : Keeps kept (Program.leave n : Program ε Unit) := fun _ hs => hs

theorem Keeps.ask {c : Call} (hc : ∀ s, kept s → kept (s.answer c).2) : Keeps kept (ask c) := by
  intro s hs
  rw [leads_ask]
  exact ⟨hc s hs, hc s hs⟩

theorem Keeps.bind {p : Program ε α} {f : α → Program ε β} (hp : Keeps kept p)
    (hf : ∀ a, Keeps kept (f a)) : Keeps kept (p >>= f) := by
  intro s hs
  rw [leads_bind]
  refine (hp s hs).mono fun r t ht => ?_
  cases r with
  | ok a => exact hf a t ht
  | error e => exact ht

/-- Both branches of a choice keep the property. -/
theorem Keeps.ite {c : Prop} [Decidable c] {p q : Program ε α} (hp : Keeps kept p)
    (hq : Keeps kept q) : Keeps kept (if c then p else q) := by
  split
  · exact hp
  · exact hq

theorem Keeps.attempt {p : Program ε α} (hp : Keeps kept p) :
    Keeps kept (p.attempt : Program δ (Except ε α)) := by
  intro s hs
  rw [leads_attempt]
  exact hp s hs

theorem Keeps.liftM {p : Program StoreError α} (hp : Keeps kept p) :
    Keeps kept (MonadLiftT.monadLift p : Program ReconcileError α) := by
  intro s hs
  exact leads_liftM.2 (hp s hs)

theorem Keeps.ofExcept {r : Except ε α} : Keeps kept (Program.ofExcept r) := by
  cases r
  · exact Keeps.fail
  · exact Keeps.pure

theorem Keeps.settle {errors : Aggregate} {a : α} : Keeps kept (Program.settle errors a) := by
  intro s hs
  rw [leads_settle]
  exact hs

theorem Keeps.forEach {work : ι → Program δ α} {items : List ι} (hwork : ∀ i, Keeps kept (work i)) :
    Keeps kept (Program.forEach work items : Program ε _) := by
  intro s hs
  refine (Leads.forEach (fun _ t => kept t) (fun _ i _ t _ ht => hwork i t ht) hs).mono ?_
  rintro r t ⟨_, _, _, ht⟩
  exact ht

theorem Keeps.retry {policy : RetryPolicy} {change : Nat → Program StoreError α}
    (hchange : ∀ i, Keeps kept (change i)) : Keeps kept (Program.retry policy change) := by
  intro s hs
  refine Leads.retry (fun _ t => kept t) (fun _ _ _ ht => ht) (fun i t _ ht => ?_) hs
  refine (hchange i t ht).mono fun r u hu => ?_
  cases r with
  | ok a => exact hu
  | error e => exact ⟨fun _ => hu, fun _ => hu⟩

/-- What every call keeps may be weakened along a run. -/
theorem Keeps.leads {kept' : Cluster → Prop} {p : Program ε α} {s : Cluster} (hp : Keeps kept p)
    (start : kept s) (weaker : ∀ t, kept t → kept' t) :
    p.Leads Cluster.handler (fun t c => kept' (t.answer c).2) (fun _ t => kept' t) s :=
  ((hp s start).mono_each fun t c => weaker (t.answer c).2).mono fun _ t => weaker t

end Keeping

/-! ## Runs -/

section Runs

variable {w : Surroundings σ} {each : Cluster → Call → Prop}

/-- A run in any surroundings ends as the program leads to. -/
theorem Leads.run {p : Program ε α} {ends : Except ε α → Cluster → Prop} {x : σ}
    (hp : p.Leads Cluster.handler each ends (w.cluster x)) :
    ends (p.run w.toHandler x).1 (w.cluster (p.run w.toHandler x).2) := by
  induction p generalizing x with
  | done a => exact hp
  | fail e => exact hp
  | call c next ih =>
    apply ih
    rw [w.call_fst, w.cluster_call]
    exact hp.2
  | clock next ih =>
    apply ih
    rw [w.cluster_clock]
    exact hp _
  | note n next ih =>
    apply ih
    rw [w.cluster_note]
    exact hp

/-- Every call of a run in any surroundings is made as the program leads to. -/
theorem Leads.calls {p : Program ε α} {ends : Except ε α → Cluster → Prop} {x : σ}
    (hp : p.Leads Cluster.handler each ends (w.cluster x)) :
    ∀ e ∈ p.calls w.toHandler x, each (w.cluster e.1) e.2 := by
  induction p generalizing x with
  | done a => exact fun e he => by cases he
  | fail e => exact fun e he => by cases he
  | call c next ih =>
    intro e he
    rcases List.mem_cons.1 he with rfl | later
    · exact hp.1
    · refine ih _ ?_ e later
      rw [w.call_fst, w.cluster_call]
      exact hp.2
  | clock next ih =>
    refine ih _ ?_
    rw [w.cluster_clock]
    exact hp _
  | note n next ih =>
    refine ih _ ?_
    rw [w.cluster_note]
    exact hp

/-- A run that is cut off stands where the last call has led. -/
theorem Leads.cut {p : Program ε α} {ends : Except ε α → Cluster → Prop} {kept : Cluster → Prop}
    {x : σ} (hp : p.Leads Cluster.handler (fun t c => kept (t.answer c).2) ends (w.cluster x))
    (start : kept (w.cluster x)) (n : Nat) : kept (w.cluster (p.cut w.toHandler n x)) := by
  induction p generalizing x n with
  | done a => exact start
  | fail e => exact start
  | call c next ih =>
    cases n with
    | zero => exact start
    | succ n =>
      -- What was asked of this call is what the rest of the run starts from.
      refine ih _ ?_ ?_ n
      · rw [w.call_fst, w.cluster_call]
        exact hp.2
      · rw [w.cluster_call]
        exact hp.1
  | clock next ih =>
    refine ih _ ?_ ?_ n
    · rw [w.cluster_clock]
      exact hp _
    · rw [w.cluster_clock]
      exact start
  | note m next ih =>
    refine ih _ ?_ ?_ n
    · rw [w.cluster_note]
      exact hp
    · rw [w.cluster_note]
      exact start

end Runs

end Program

end PullSecrets
