import PullSecrets.Proofs.Sync

/-!
# Two runs side by side

Two programs run each in surroundings of its own, and `Twin` says of the two clusters from which
they start how the runs compare: the calls that are watched are the same, with the same answers,
and the ends are related. The rules follow the ways in which programs are put together, as those
of `Leads` do for one run. What the clocks say is left open on both sides.

Where nothing that is watched happens, it is enough to know how each of the two programs ends.
Where the same program runs on both sides and its calls are answered alike, the runs go in step.

## Main facts

* `Program.Twin.bind`, `Program.Twin.attempt`, ...: the rules for programs put together.
* `Program.Twin.of_ends`: from what each of two programs leads to.
* `Program.Makes.twin`: runs of one program that go in step.
* `Reconcile.twin_reconcile_of_live`: two reconciles of live pullers.
-/

namespace PullSecrets

/-! ## Two surroundings -/

/-- Two surroundings, and which calls are watched in both. -/
structure Duet (σ τ : Type) where
  left : Surroundings σ
  right : Surroundings τ
  watched : Call → Bool

namespace Program

variable {σ τ ε ζ δ α β γ κ ι : Type}

/-! ## Exchanges -/

/-- The watched calls of a run, each with its answer. -/
def exchanges (h : Handler σ) (watched : Call → Bool) (p : Program ε α) (x : σ) :
    List ((c : Call) × c.Reply) :=
  ((p.calls h x).filter fun e => watched e.2).map fun e => ⟨e.2, (h.call e.2 e.1).1⟩

section Exchanges

variable {h : Handler σ} {watched : Call → Bool} {x : σ}

/-- What is watched of two programs one after the other. -/
theorem exchanges_bind (p : Program ε α) (f : α → Program ε β) :
    (p >>= f).exchanges h watched x = p.exchanges h watched x ++
      match p.run h x with
      | (.ok a, y) => (f a).exchanges h watched y
      | (.error _, _) => [] := by
  simp only [exchanges, calls_bind, List.filter_append, List.map_append]
  congr 1
  rcases p.run h x with ⟨e | a, y⟩
  · rfl
  · rfl

theorem exchanges_call (c : Call) (next : c.Reply → Program ε α) :
    (call c next).exchanges h watched x =
      (if watched c then [⟨c, (h.call c x).1⟩] else []) ++
        (next (h.call c x).1).exchanges h watched (h.call c x).2 := by
  unfold exchanges
  rw [calls, List.filter_cons]
  cases watched c <;> rfl

/-- Where nothing is watched, nothing is seen. -/
theorem exchanges_none (p : Program ε α) : p.exchanges h (fun _ => false) x = [] := by
  simp [exchanges]

end Exchanges

/-! ## Kinds of calls -/

/-- Every call that the program can make is one of some kind, whatever is answered. It does not
read the clock. -/
def Makes (kind : Call → Prop) : Program ε α → Prop
  | done _ => True
  | fail _ => True
  | call c next => kind c ∧ ∀ r, (next r).Makes kind
  | clock _ => False
  | note _ next => (next ()).Makes kind

section Makes

variable {kind : Call → Prop}

theorem Makes.ask {c : Call} (hc : kind c) : (Program.ask c).Makes kind := by
  refine ⟨hc, ?_⟩
  rintro (e | v)
  · trivial
  · trivial

theorem Makes.bind {p : Program ε α} {f : α → Program ε β} (hp : p.Makes kind)
    (hf : ∀ a, (f a).Makes kind) : (p >>= f).Makes kind := by
  rw [bind_eq]
  induction p with
  | done a => exact hf a
  | fail e => trivial
  | call c next ih => exact ⟨hp.1, fun r => ih r (hp.2 r)⟩
  | clock next ih => exact hp.elim
  | note n next ih => exact ih () hp

theorem Makes.attempt {p : Program ε α} (hp : p.Makes kind) :
    (p.attempt : Program δ (Except ε α)).Makes kind := by
  induction p with
  | done a => trivial
  | fail e => trivial
  | call c next ih => exact ⟨hp.1, fun r => ih r (hp.2 r)⟩
  | clock next ih => exact hp.elim
  | note n next ih => exact ih () hp

theorem Makes.liftM {p : Program StoreError α} (hp : p.Makes kind) :
    (MonadLiftT.monadLift p : Program ReconcileError α).Makes kind := by
  show (p.mapError ReconcileError.store).Makes kind
  induction p with
  | done a => trivial
  | fail e => trivial
  | call c next ih => exact ⟨hp.1, fun r => ih r (hp.2 r)⟩
  | clock next ih => exact hp.elim
  | note n next ih => exact ih () hp

theorem Makes.ite {c : Prop} [Decidable c] {p q : Program ε α} (hp : p.Makes kind)
    (hq : q.Makes kind) : (if c then p else q).Makes kind := by
  split
  · exact hp
  · exact hq

theorem Makes.settle {errors : Aggregate} {a : α} : (Program.settle errors a).Makes kind :=
  Makes.ite trivial trivial

theorem Makes.unlessMissing {p : Program StoreError α} (hp : p.Makes kind) :
    p.unlessMissing.Makes kind := by
  refine hp.attempt.bind ?_
  rintro (e | a)
  · exact Makes.ite trivial trivial
  · trivial

theorem Makes.retry {policy : RetryPolicy} {change : Nat → Program StoreError α}
    (h : ∀ i, (change i).Makes kind) : (Program.retry policy change).Makes kind := by
  -- The induction is on the attempts that are left after the next one.
  suffices general : ∀ retries i, (retryFrom policy.pause change i retries).Makes kind from
    general _ 0
  intro retries
  induction retries with
  | zero => exact h
  | succ retries ih =>
    intro i
    rw [retryFrom]
    refine (h i).attempt.bind ?_
    rintro (e | a)
    · refine Makes.ite (Makes.bind trivial fun _ => Makes.bind ?_ fun _ => ih _) trivial
      unfold wait
      exact Makes.ite trivial trivial
    · trivial

theorem Makes.forEach {work : ι → Program δ α} {items : List ι} (h : ∀ i, (work i).Makes kind) :
    (Program.forEach work items : Program ε _).Makes kind := by
  induction items with
  | nil => trivial
  | cons i rest ih => exact (h i).attempt.bind fun _ => ih.bind fun _ => trivial

/-- A program that makes no watched call shows nothing. -/
theorem Makes.exchanges_eq_nil {p : Program ε α} {watched : Call → Bool}
    (hp : p.Makes fun c => watched c = false) (h : Handler σ) (x : σ) :
    p.exchanges h watched x = [] := by
  induction p generalizing x with
  | done a => rfl
  | fail e => rfl
  | call c next ih =>
    rw [exchanges_call, hp.1]
    exact ih _ (hp.2 _) _
  | clock next ih => exact hp.elim
  | note n next ih => exact ih () hp _

end Makes

/-! ## Twins -/

/-- The runs of two programs from two clusters show the same, and their results and the clusters at
their ends are related. -/
def Twin (d : Duet σ τ) (R : Except ε α → Except ζ β → Cluster → Cluster → Prop)
    (p : Program ε α) (q : Program ζ β) (s t : Cluster) : Prop :=
  ∀ x y, d.left.cluster x = s → d.right.cluster y = t →
    q.exchanges d.right.toHandler d.watched y = p.exchanges d.left.toHandler d.watched x ∧
      R (p.run d.left.toHandler x).1 (q.run d.right.toHandler y).1
        (d.left.cluster (p.run d.left.toHandler x).2)
        (d.right.cluster (q.run d.right.toHandler y).2)

/-- The results are the same, and the clusters are related. -/
def Agree (K : Cluster → Cluster → Prop) (r r' : Except ε α) (s t : Cluster) : Prop :=
  r' = r ∧ K s t

/-- Both runs succeed, and what they end with is related. -/
def Both (ok : α → β → Cluster → Cluster → Prop) (r : Except ε α) (r' : Except ζ β)
    (s t : Cluster) : Prop :=
  ∃ a b, r = .ok a ∧ r' = .ok b ∧ ok a b s t

section Rules

variable {d : Duet σ τ} {s t : Cluster} {K : Cluster → Cluster → Prop}

theorem Twin.mono {R R' : Except ε α → Except ζ β → Cluster → Cluster → Prop} {p : Program ε α}
    {q : Program ζ β} (h : p.Twin d R q s t) (weaker : ∀ r r' u v, R r r' u v → R' r r' u v) :
    p.Twin d R' q s t :=
  fun x y hx hy => ⟨(h x y hx hy).1, weaker _ _ _ _ (h x y hx hy).2⟩

theorem Twin.ofExcept {r : Except ε α} {r' : Except ζ β}
    {R : Except ε α → Except ζ β → Cluster → Cluster → Prop} (h : R r r' s t) :
    (Program.ofExcept r).Twin d R (Program.ofExcept r') s t := by
  rintro x y rfl rfl
  cases r <;> cases r' <;> exact ⟨rfl, h⟩

theorem Twin.pure {a : α} {b : β} {R : Except ε α → Except ζ β → Cluster → Cluster → Prop}
    (h : R (.ok a) (.ok b) s t) :
    (Pure.pure a : Program ε α).Twin d R (Pure.pure b : Program ζ β) s t :=
  Twin.ofExcept h

theorem Twin.settle {errors : Aggregate} {a : α} (h : K s t) :
    (Program.settle errors a).Twin d (Agree K) (Program.settle errors a) s t := by
  unfold Program.settle
  split
  · exact Twin.pure ⟨rfl, h⟩
  · let failed : Except ReconcileError α := .error (.several errors)
    have agree : Agree K failed failed s t := ⟨rfl, h⟩
    exact Twin.ofExcept agree

/-- Going on with two values. A failure has to end both runs. -/
theorem Twin.bind {R : Except ε β → Except ζ γ → Cluster → Cluster → Prop} {p : Program ε α}
    {q : Program ζ κ} {f : α → Program ε β} {g : κ → Program ζ γ}
    (h : p.Twin d (fun r r' u v => match r, r' with
      | .ok a, .ok b => (f a).Twin d R (g b) u v
      | .error e, .error e' => R (.error e) (.error e') u v
      | _, _ => False) q s t) : (p >>= f).Twin d R (q >>= g) s t := by
  intro x y hx hy
  obtain ⟨shown, ended⟩ := h x y hx hy
  simp only [exchanges_bind, shown]
  simp only [bind_eq, run_bind]
  generalize p.run d.left.toHandler x = first at ended ⊢
  generalize q.run d.right.toHandler y = second at ended ⊢
  obtain ⟨r, x'⟩ := first
  obtain ⟨r', y'⟩ := second
  cases r with
  | error e =>
    cases r' with
    | error e' => exact ⟨rfl, ended⟩
    | ok b => exact ended.elim
  | ok a =>
    cases r' with
    | error e' => exact ended.elim
    | ok b =>
      obtain ⟨later, ended⟩ := ended x' y' rfl rfl
      exact ⟨congrArg _ later, ended⟩

/-- Going on with two values where no run can fail. -/
theorem Twin.bind_both {R : Except ε β → Except ζ γ → Cluster → Cluster → Prop} {p : Program ε α}
    {q : Program ζ κ} {f : α → Program ε β} {g : κ → Program ζ γ}
    (h : p.Twin d (Both fun a b u v => (f a).Twin d R (g b) u v) q s t) :
    (p >>= f).Twin d R (q >>= g) s t := by
  refine Twin.bind (h.mono ?_)
  rintro _ _ u v ⟨a, b, rfl, rfl, related⟩
  exact related

/-- Going on with the same value. -/
theorem Twin.bind_agree {K' : Cluster → Cluster → Prop} {p q : Program ε α}
    {f g : α → Program ε β} (h : p.Twin d (Agree K) q s t)
    (ok : ∀ a u v, K u v → (f a).Twin d (Agree K') (g a) u v) (weaker : ∀ u v, K u v → K' u v) :
    (p >>= f).Twin d (Agree K') (q >>= g) s t := by
  refine Twin.bind (h.mono ?_)
  rintro (e | a) _ u v ⟨rfl, related⟩
  · exact ⟨rfl, weaker u v related⟩
  · exact ok a u v related

theorem Twin.attempt {p : Program ε α} {q : Program ζ β}
    {R : Except δ (Except ε α) → Except δ (Except ζ β) → Cluster → Cluster → Prop}
    (h : p.Twin d (fun r r' u v => R (.ok r) (.ok r') u v) q s t) :
    p.attempt.Twin d R q.attempt s t := by
  intro x y hx hy
  simp only [exchanges, calls_attempt, run_attempt]
  exact h x y hx hy

theorem Twin.liftM {p : Program StoreError α} {q : Program StoreError β}
    {R : Except ReconcileError α → Except ReconcileError β → Cluster → Cluster → Prop}
    (h : p.Twin d (fun r r' u v => R (r.mapError .store) (r'.mapError .store) u v) q s t) :
    (MonadLiftT.monadLift p : Program ReconcileError α).Twin d R
      (MonadLiftT.monadLift q : Program ReconcileError β) s t := by
  intro x y hx hy
  show (q.mapError ReconcileError.store).exchanges _ _ _ =
      (p.mapError ReconcileError.store).exchanges _ _ _ ∧
    R ((p.mapError ReconcileError.store).run _ _).1 ((q.mapError ReconcileError.store).run _ _).1
      (d.left.cluster ((p.mapError ReconcileError.store).run _ _).2)
      (d.right.cluster ((q.mapError ReconcileError.store).run _ _).2)
  simp only [exchanges, calls_mapError, run_mapError]
  exact h x y hx hy

/-- A program of the store within a reconcile, with the same result on both sides. -/
theorem Twin.liftM_agree {p q : Program StoreError α} (h : p.Twin d (Agree K) q s t) :
    (MonadLiftT.monadLift p : Program ReconcileError α).Twin d (Agree K)
      (MonadLiftT.monadLift q : Program ReconcileError α) s t :=
  Twin.liftM (h.mono fun _ _ _ _ ended => ⟨congrArg _ ended.1, ended.2⟩)

/-- A program of the store within a reconcile that succeeds on both sides. -/
theorem Twin.liftM_both {ok : α → β → Cluster → Cluster → Prop} {p : Program StoreError α}
    {q : Program StoreError β} (h : p.Twin d (Both ok) q s t) :
    (MonadLiftT.monadLift p : Program ReconcileError α).Twin d (Both ok)
      (MonadLiftT.monadLift q : Program ReconcileError β) s t := by
  refine Twin.liftM (h.mono ?_)
  rintro _ _ u v ⟨a, b, rfl, rfl, related⟩
  exact ⟨a, b, rfl, rfl, related⟩

theorem Twin.leave_bind {n n' : Note} {R : Except ε α → Except ζ β → Cluster → Cluster → Prop}
    {f : Unit → Program ε α} {g : Unit → Program ζ β} (h : (f ()).Twin d R (g ()) s t) :
    (Program.leave n >>= f).Twin d R (Program.leave n' >>= g) s t :=
  fun x y hx hy => h _ _ ((d.left.cluster_note n x).trans hx) ((d.right.cluster_note n' y).trans hy)

/-- Neither of the clocks is known. -/
theorem Twin.now_bind {R : Except ε α → Except ζ β → Cluster → Cluster → Prop}
    {f : String → Program ε α} {g : String → Program ζ β}
    (h : ∀ time time', (f time).Twin d R (g time') s t) :
    (Program.now >>= f).Twin d R (Program.now >>= g) s t :=
  fun x y hx hy =>
    h _ _ _ _ ((d.left.cluster_clock x).trans hx) ((d.right.cluster_clock y).trans hy)

/-- Working on every item of a list in both runs. -/
theorem Twin.forEach {work : ι → Program δ α} {items : List ι}
    (each : ∀ i ∈ items, ∀ u v, K u v → (work i).Twin d (Agree K) (work i) u v) (start : K s t) :
    (Program.forEach work items : Program ε _).Twin d (Agree K) (Program.forEach work items)
      s t := by
  induction items generalizing s t with
  | nil => exact Twin.pure ⟨rfl, start⟩
  | cons i rest ih =>
    have head := each i List.mem_cons_self s t start
    refine Twin.bind (Twin.attempt (head.mono ?_))
    rintro r _ u v ⟨rfl, related⟩
    refine Twin.bind_agree (ih (fun j hj => each j (List.mem_cons_of_mem i hj)) related) ?_
      fun _ _ related => related
    exact fun results u v related => Twin.pure ⟨rfl, related⟩

/-- Two programs that show nothing, from what each of them leads to. -/
theorem Twin.of_ends {E : Except ε α → Cluster → Prop} {E' : Except ζ β → Cluster → Prop}
    {R : Except ε α → Except ζ β → Cluster → Cluster → Prop} {p : Program ε α} {q : Program ζ β}
    (quiet : ∀ x, p.exchanges d.left.toHandler d.watched x = [])
    (quiet' : ∀ y, q.exchanges d.right.toHandler d.watched y = [])
    (left : p.Ends E s) (right : q.Ends E' t)
    (h : ∀ r u r' v, E r u → E' r' v → R r r' u v) : p.Twin d R q s t := by
  rintro x y rfl rfl
  exact ⟨by rw [quiet, quiet'], h _ _ _ _ left.run right.run⟩

/-- Two calls that are not watched. -/
theorem Twin.ask {c c' : Call} (hidden : d.watched c = false) (hidden' : d.watched c' = false)
    {R : Except StoreError c.Value → Except StoreError c'.Value → Cluster → Cluster → Prop}
    (h : R (s.answer c).1 (t.answer c').1 (s.answer c).2 (t.answer c').2) :
    (Program.ask c).Twin d R (Program.ask c') s t := by
  have left : (Program.ask c).Ends (fun r u => r = (s.answer c).1 ∧ u = (s.answer c).2) s :=
    leads_ask.2 ⟨trivial, rfl, rfl⟩
  have right : (Program.ask c').Ends (fun r u => r = (t.answer c').1 ∧ u = (t.answer c').2) t :=
    leads_ask.2 ⟨trivial, rfl, rfl⟩
  refine Twin.of_ends (fun x => (Makes.ask hidden).exchanges_eq_nil _ x)
    (fun y => (Makes.ask hidden').exchanges_eq_nil _ y) left right ?_
  rintro _ _ _ _ ⟨rfl, rfl⟩ ⟨rfl, rfl⟩
  exact h

/-- What each of two programs leads to may be added to how their runs compare. -/
theorem Twin.and_ends {E : Except ε α → Cluster → Prop} {E' : Except ζ β → Cluster → Prop}
    {R : Except ε α → Except ζ β → Cluster → Cluster → Prop} {p : Program ε α} {q : Program ζ β}
    (h : p.Twin d R q s t) (left : p.Ends E s) (right : q.Ends E' t) :
    p.Twin d (fun r r' u v => R r r' u v ∧ E r u ∧ E' r' v) q s t := by
  rintro x y rfl rfl
  obtain ⟨shown, ended⟩ := h x y rfl rfl
  exact ⟨shown, ended, left.run, right.run⟩

/-- Runs of one program go in step when its calls are answered alike. -/
theorem Makes.twin {kind : Call → Prop} {p : Program ε α} (hp : p.Makes kind)
    (step : ∀ c u v, kind c → K u v →
      (v.answer c).1 = (u.answer c).1 ∧ K (u.answer c).2 (v.answer c).2) (start : K s t) :
    p.Twin d (Agree K) p s t := by
  rintro x y rfl rfl
  induction p generalizing x y with
  | done a => exact ⟨rfl, rfl, start⟩
  | fail e => exact ⟨rfl, rfl, start⟩
  | call c next ih =>
    obtain ⟨answered, related⟩ := step c _ _ hp.1 start
    have same : (d.right.call c y).1 = (d.left.call c x).1 := by
      rw [d.left.call_fst, d.right.call_fst, answered]
    rw [← d.left.cluster_call, ← d.right.cluster_call] at related
    obtain ⟨shown, ended⟩ := ih (d.left.call c x).1 (hp.2 _) _ _ related
    refine ⟨?_, ?_⟩
    · rw [exchanges_call, exchanges_call, same, shown]
    · simp only [run, same]
      exact ended
  | clock next ih => exact hp.elim
  | note n next ih =>
    rw [← d.left.cluster_note n, ← d.right.cluster_note n] at start
    exact ih () hp _ _ start

end Rules

end Program

/-! ## Two reconciles -/

namespace Reconcile

variable {σ τ : Type} {d : Duet σ τ} {config : Config} {policy : RetryPolicy} {p q : Puller}
  {name : String} {s t : Cluster} {K : Cluster → Cluster → Prop}

/-- Pullers that want the same have the same work done. -/
theorem converge_congr (akin : p.Akin q) : converge policy q = converge policy p := by
  have each : ensureNamespace policy q (Credentials.bytes p.spec.registries) =
      ensureNamespace policy p (Credentials.bytes p.spec.registries) := by
    funext n
    have wanted : PullSecret.wanted q (Credentials.bytes p.spec.registries) n =
        PullSecret.wanted p (Credentials.bytes p.spec.registries) n := by
      have same := akin.wanted_eq n
      rw [akin.document_eq] at same
      exact same
    rw [ensureNamespace, ensureNamespace, wanted]
  unfold converge
  rw [akin.spec]
  dsimp only
  rw [each]

/-- Two reconciles are compared by their steps. -/
theorem twin_reconcile_of_steps
    (h : (steps config name).Twin d (Program.Agree K) (steps config name) s t) :
    (reconcile config name).Twin d (Program.Agree K) (reconcile config name) s t := by
  unfold reconcile
  refine .leave_bind (Program.Twin.bind (.attempt (h.mono ?_)))
  rintro r _ u v ⟨rfl, related⟩
  exact .leave_bind (.ofExcept ⟨rfl, related⟩)

/-- Working on the targets of two pullers with the same result, and reporting about it. -/
theorem twin_sync
    (h : (converge policy p).Twin d (fun r r' u v => r' = r ∧
      ∀ readyTime errorTime readyTime' errorTime',
        (Report.update policy p (Report.status p.status (failure? r) readyTime errorTime)).Twin d
          (Program.Both fun _ _ => K)
          (Report.update policy q (Report.status q.status (failure? r) readyTime' errorTime'))
          u v) (converge policy q) s t) :
    (sync policy p).Twin d (Program.Agree K) (sync policy q) s t := by
  unfold sync Report.statusNow
  refine Program.Twin.bind (.attempt (h.mono ?_))
  rintro r _ u v ⟨rfl, reporting⟩
  -- The clocks are read twice each.
  simp only [bind_assoc, pure_bind]
  refine .now_bind fun readyTime readyTime' => .now_bind fun errorTime errorTime' => ?_
  refine .bind_both (.liftM_both ((reporting _ _ _ _).mono ?_))
  rintro _ _ u v ⟨b, b', rfl, rfl, related⟩
  exact ⟨b, b', rfl, rfl, .ofExcept ⟨rfl, related⟩⟩

/-- Two pullers of the same name that are both guarded, then worked on and reported about. -/
theorem twin_reconcile_of_live (hidden : d.watched (.getPuller name) = false)
    (stored : s.pullers.get? name = some p) (stored' : t.pullers.get? name = some q)
    (live : p.metadata.isTerminating = false) (live' : q.metadata.isTerminating = false)
    (h : (Finalizer.ensure config.retryPolicy p).Twin d (Program.Both fun p' q' =>
      (sync config.retryPolicy p').Twin d (Program.Agree K) (sync config.retryPolicy q'))
      (Finalizer.ensure config.retryPolicy q) s t) :
    (reconcile config name).Twin d (Program.Agree K) (reconcile config name) s t := by
  refine twin_reconcile_of_steps ?_
  unfold steps
  refine .bind_both (.liftM_both (.ask hidden hidden ⟨some p, some q, ?_, ?_, ?_⟩))
  · exact congrArg _ stored
  · exact congrArg _ stored'
  · simp only [live, live', Bool.false_eq_true, if_false]
    refine .bind_both (.liftM_both (h.mono ?_))
    rintro _ _ u v ⟨p', q', rfl, rfl, working⟩
    refine ⟨p', q', rfl, rfl, ?_⟩
    exact working.bind_agree (fun _ _ _ related => .leave_bind (.pure ⟨rfl, related⟩))
      fun _ _ related => related

/-- Two pullers of the same name that are to be deleted. -/
theorem twin_reconcile_of_terminating (hidden : d.watched (.getPuller name) = false)
    (stored : s.pullers.get? name = some p) (stored' : t.pullers.get? name = some q)
    (terminating : p.metadata.isTerminating = true)
    (terminating' : q.metadata.isTerminating = true)
    (h : (cleanup config.retryPolicy p).Twin d (Program.Agree K) (cleanup config.retryPolicy q)
      s t) : (reconcile config name).Twin d (Program.Agree K) (reconcile config name) s t := by
  refine twin_reconcile_of_steps ?_
  unfold steps
  refine .bind_both (.liftM_both (.ask hidden hidden ⟨some p, some q, ?_, ?_, ?_⟩))
  · exact congrArg _ stored
  · exact congrArg _ stored'
  · simp only [terminating, terminating', if_true]
    exact h.bind_agree (fun _ _ _ related => .pure ⟨rfl, related⟩) fun _ _ related => related

end Reconcile

end PullSecrets
