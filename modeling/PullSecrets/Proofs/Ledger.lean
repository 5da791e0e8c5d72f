import PullSecrets.Proofs.Conflicts
import PullSecrets.Proofs.Statuses

/-!
# Keeping books about a run

A ledger goes along with a run against a cluster. Besides the counters, which hold what the program
says about its work, it counts the writes of secrets and of service accounts that the cluster has
accepted. What a program leads to with a ledger at hand is what its runs do, where the calls are
counted afterwards.

## Main facts

* `Program.Posts.run`: from the ledger to the accepted calls of a run.
* `Program.posts_of_aside`: work on pullers alone is not entered.
* `PullSecret.posts_ensure`, `Binding.posts_amend`: a secret and an account are written at most
  once, and the result says whether they were.
-/

namespace PullSecrets

open Program (ask Ends Leads Makes Hushed)

/-! ## Accepted writes -/

/-- Whether a call writes a secret. -/
def Call.writesSecret : Call → Bool
  | .createSecret _ | .replaceSecret _ => true
  | _ => false

/-- Whether a call writes a service account. -/
def Call.writesAccount : Call → Bool
  | .replaceServiceAccount _ => true
  | _ => false

/-- How many of the watched calls of a run were accepted. -/
def Program.accepted {σ ε α : Type} (h : Handler σ) (watched : Call → Bool) (p : Program ε α)
    (x : σ) : Nat :=
  (p.exchanges h watched x).countP fun e => e.2.isOk

theorem Call.not_writes_of_not_isAside {c : Call} (h : c.isAside = false) :
    c.writesSecret = false ∧ c.writesAccount = false := by
  cases c <;> first | exact ⟨rfl, rfl⟩ | cases h

/-! ## Ledgers -/

/-- A cluster with counters, and with the numbers of accepted writes. -/
structure Ledger where
  cluster : Cluster
  counters : Counters := {}
  secrets : Nat := 0
  accounts : Nat := 0

namespace Ledger

/-- The ledger after a call. -/
def enter (c : Call) (x : Ledger) : Ledger where
  cluster := (x.cluster.answer c).2
  counters := x.counters
  secrets := x.secrets + if c.writesSecret && (x.cluster.answer c).1.isOk then 1 else 0
  accounts := x.accounts + if c.writesAccount && (x.cluster.answer c).1.isOk then 1 else 0

/-- Ledgers as what programs run against. -/
def handler : Handler Ledger where
  call := fun c x => ((x.cluster.answer c).1, x.enter c)
  clock := fun x => ("", x)
  note := fun n x => { x with counters := x.counters.record n }

/-- Reading and listing is answered by the cluster, and nothing is entered. -/
theorem call_of_reads {c : Call} {r : c.Reply} {x : Ledger} (reads : c.isWrite = false)
    (answered : x.cluster.answer c = (r, x.cluster)) : handler.call c x = (r, x) := by
  have silent : c.writesSecret = false ∧ c.writesAccount = false := by
    cases c <;> first | exact ⟨rfl, rfl⟩ | cases reads
  show ((x.cluster.answer c).1, x.enter c) = (r, x)
  simp [enter, answered, silent]

/-- The second ledger has some more writes, and its counters are the same, up to attempts after
conflicts. -/
structure Grown (secrets accounts : Nat) (x y : Ledger) : Prop where
  secrets : y.secrets = x.secrets + secrets
  accounts : y.accounts = x.accounts + accounts
  counters : x.counters.UpToRetries y.counters

variable {x y z : Ledger}

theorem Grown.trans {m n m' n' : Nat} (h : Grown m n x y) (h' : Grown m' n' y z) :
    Grown (m + m') (n + n') x z where
  secrets := by rw [h'.secrets, h.secrets, Nat.add_assoc]
  accounts := by rw [h'.accounts, h.accounts, Nat.add_assoc]
  counters := h.counters.trans h'.counters

/-- The second ledger has some more writes, and its counters tell of some more. -/
structure Booked (secrets bound unbound accounts : Nat) (x y : Ledger) : Prop where
  secretsWritten : y.counters.secretsWritten = x.counters.secretsWritten + secrets
  accountsBound : y.counters.accountsBound = x.counters.accountsBound + bound
  accountsUnbound : y.counters.accountsUnbound = x.counters.accountsUnbound + unbound
  secrets : y.secrets = x.secrets + secrets
  accounts : y.accounts = x.accounts + accounts

/-- The notes about the course of a reconcile tell of no writes. -/
theorem booked_note {n : Note} (silent : n ∈ [.reconcileBegun, .reconcileEnded, .resyncScheduled])
    (x : Ledger) : Booked 0 0 0 0 x (handler.note n x) := by
  simp only [List.mem_cons, List.not_mem_nil, or_false] at silent
  obtain rfl | rfl | rfl := silent
  · exact ⟨rfl, rfl, rfl, rfl, rfl⟩
  · exact ⟨rfl, rfl, rfl, rfl, rfl⟩
  · exact ⟨rfl, rfl, rfl, rfl, rfl⟩

/-- Counters that differ in attempts after conflicts tell of the same writes. -/
theorem Grown.booked {n : Nat} (h : Grown 0 n x y) : Booked 0 0 0 n x y := by
  obtain ⟨secrets, accounts, counters⟩ := h
  refine ⟨?_, ?_, ?_, secrets, accounts⟩ <;> rw [counters] <;> rfl

/-- Writes of the work on a puller, and the notes about them. -/
theorem Grown.note_bound {m n : Nat} (h : Grown m n x y) (bound : Nat) :
    Booked m bound 0 n x
      (handler.note (.accountsBound bound) (handler.note (.secretsWritten m) y)) := by
  obtain ⟨secrets, accounts, counters⟩ := h
  refine ⟨?_, ?_, ?_, secrets, accounts⟩ <;> simp only [handler] <;> rw [counters] <;> rfl

/-- Writes of a cleanup, and the note about them. -/
theorem Grown.note_unbound {n : Nat} (h : Grown 0 n x y) (unbound : Nat) :
    Booked 0 0 unbound n x (handler.note (.accountsUnbound unbound) y) := by
  obtain ⟨secrets, accounts, counters⟩ := h
  refine ⟨?_, ?_, ?_, secrets, accounts⟩ <;> simp only [handler] <;> rw [counters] <;> rfl

theorem Booked.trans {m n k l m' n' k' l' : Nat} (h : Booked m n k l x y)
    (h' : Booked m' n' k' l' y z) : Booked (m + m') (n + n') (k + k') (l + l') x z := by
  cases h
  cases h'
  constructor <;> omega

end Ledger

namespace Program

variable {ε α : Type} {x : Ledger}

/-- What a program leads to at its end, with a ledger at hand. -/
abbrev Posts (ends : Except ε α → Ledger → Prop) (p : Program ε α) (x : Ledger) : Prop :=
  p.Leads Ledger.handler (fun _ _ => True) ends x

/-- What a program leads to in a cluster, it leads to with a ledger at hand. -/
theorem Leads.posts {p : Program ε α} {ends : Except ε α → Cluster → Prop}
    (hp : p.Ends ends x.cluster) : p.Posts (fun r y => ends r y.cluster) x := by
  induction p generalizing x with
  | done a => exact hp
  | fail e => exact hp
  | call c next ih => exact ⟨trivial, ih _ hp.2⟩
  | clock next ih => exact fun time => ih _ (hp time)
  | note n next ih => exact ih _ hp

/-- The ledger says what a run has done: the counters are those of the run, and the numbers are
those of its accepted calls. -/
theorem Posts.run {p : Program ε α} {ends : Except ε α → Ledger → Prop} {times : Nat → String}
    {x : Scene} {m n : Nat} (hp : p.Posts ends ⟨x.cluster, x.counters, m, n⟩) :
    let h := (Scene.surroundings times).toHandler
    let y := (p.run h x).2
    ends (p.run h x).1 ⟨y.cluster, y.counters, m + p.accepted h Call.writesSecret x,
      n + p.accepted h Call.writesAccount x⟩ := by
  intro h y
  induction p generalizing x m n with
  | done a => exact hp
  | fail e => exact hp
  | call c next ih =>
    have later := ih _ (x := (h.call c x).2) hp.2
    have entered (watched : Call → Bool) (k : Nat) :
        k + (if watched c && (x.cluster.answer c).1.isOk then 1 else 0) +
          (next (h.call c x).1).accepted h watched (h.call c x).2 =
        k + (call c next).accepted h watched x := by
      rw [accepted, accepted, exchanges_call, List.countP_append, Nat.add_assoc]
      congr 2
      cases watched c
      · rfl
      · exact (List.countP_singleton ..).symm
    rw [← entered, ← entered]
    exact later
  | clock next ih => exact ih _ (hp _)
  | note k next ih => exact ih _ hp

/-- A hushed program leaves the counters alone, up to attempts after conflicts. -/
theorem Hushed.posts {p : Program ε α} (hp : p.Hushed) (x : Ledger) :
    p.Posts (fun _ y => x.counters.UpToRetries y.counters) x := by
  induction p generalizing x with
  | done a => exact (rfl : x.counters.UpToRetries x.counters)
  | fail e => exact (rfl : x.counters.UpToRetries x.counters)
  | call c next ih => exact ⟨trivial, ih _ (hp _) (x.enter c)⟩
  | clock next ih => exact hp.elim
  | note n next ih =>
    refine (ih () hp.2 _).mono fun r y later => Counters.UpToRetries.trans ?_ later
    rcases hp.1 with rfl | ⟨milliseconds, rfl⟩ <;> rfl

/-- Work on pullers alone is not entered. -/
theorem posts_of_aside {p : Program ε α} (makes : p.Makes fun c => c.isAside = false)
    (hushed : p.Hushed) (x : Ledger) : p.Posts (fun _ y => Ledger.Grown 0 0 x y) x := by
  suffices entered : p.Posts (fun _ y => y.secrets = x.secrets ∧ y.accounts = x.accounts) x by
    refine ((hushed.posts x).and entered).mono ?_
    rintro r y ⟨counters, secrets, accounts⟩
    exact ⟨secrets, accounts, counters⟩
  clear hushed
  induction p generalizing x with
  | done a => exact ⟨rfl, rfl⟩
  | fail e => exact ⟨rfl, rfl⟩
  | call c next ih =>
    have same : (x.enter c).secrets = x.secrets ∧ (x.enter c).accounts = x.accounts := by
      obtain ⟨secret, account⟩ := Call.not_writes_of_not_isAside makes.1
      simp [Ledger.enter, secret, account]
    refine ⟨trivial, (ih _ (makes.2 _) (x.enter c)).mono ?_⟩
    rintro r y ⟨secrets, accounts⟩
    exact ⟨secrets.trans same.1, accounts.trans same.2⟩
  | clock next ih => exact makes.elim
  | note n next ih => exact ih () makes { x with counters := x.counters.record n }

end Program

/-! ## One secret, and one account -/

/-- The number of writes that a result tells of. -/
def told {ε : Type} (r : Except ε Bool) : Nat := if r.toOption == some true then 1 else 0

/-- A call is entered if it is accepted. -/
theorem Program.posts_ask (c : Call) (y : Ledger) :
    (ask c).Posts (fun r z =>
      z.secrets = y.secrets + (if c.writesSecret && r.isOk then 1 else 0) ∧
        z.accounts = y.accounts + if c.writesAccount && r.isOk then 1 else 0) y :=
  Program.leads_ask.2 ⟨trivial, rfl, rfl⟩

theorem told_ok {ε : Type} (b : Bool) : told (.ok b : Except ε Bool) = b.toNat := by
  cases b <;> rfl

theorem told_map {α : Type} (r : Except StoreError α) :
    told (r.map fun _ => true) = if r.isOk then 1 else 0 := by
  cases r <;> rfl

section Single

variable {policy : RetryPolicy} {x : Ledger}

/-- Attempts that write at most once each, and end when they have written, write at most once. What
they write are secrets or accounts, by the factors. -/
theorem Program.posts_retry {m n : Nat} {change : Nat → Program StoreError Bool}
    (hushed : (Program.retry policy change).Hushed)
    (attempt : ∀ i y, (change i).Posts (fun r z => z.secrets = y.secrets + m * told r ∧
      z.accounts = y.accounts + n * told r) y) :
    (Program.retry policy change).Posts (fun r y => x.Grown (m * told r) (n * told r) y) x := by
  suffices entered : (Program.retry policy change).Posts (fun r y =>
      y.secrets = x.secrets + m * told r ∧ y.accounts = x.accounts + n * told r) x by
    refine ((hushed.posts x).and entered).mono ?_
    rintro r y ⟨counters, secrets, accounts⟩
    exact ⟨secrets, accounts, counters⟩
  -- An attempt that ends with a failure has written nothing.
  refine Leads.retry (fun _ y => y.secrets = x.secrets ∧ y.accounts = x.accounts)
    (fun _ _ _ reached => reached) ?_ ⟨rfl, rfl⟩
  rintro i y - ⟨secrets, accounts⟩
  rw [← secrets, ← accounts]
  apply (attempt i y).mono
  rintro (e | b) z entered
  · exact ⟨fun _ => entered, fun _ => entered⟩
  · exact entered

/-- Giving a namespace its secret writes the secret if the result says so, and nothing else. -/
theorem PullSecret.posts_ensure (wanted : Secret) :
    (ensure policy wanted).Posts (fun r y => x.Grown (told r) 0 y) x := by
  have written (y : Ledger) {c : Call} (secret : c.writesSecret = true)
      (account : c.writesAccount = false) :
      (ask c >>= fun _ => pure true : Program StoreError Bool).Posts (fun r z =>
        z.secrets = y.secrets + 1 * told r ∧ z.accounts = y.accounts + 0 * told r) y := by
    refine leads_written.2 ((Program.posts_ask c y).mono ?_)
    rintro r z ⟨secrets, accounts⟩
    rw [secrets, accounts, secret, account, told_map]
    simp
  suffices ended : (ensure policy wanted).Posts
      (fun r y => x.Grown (1 * told r) (0 * told r) y) x by simpa using ended
  unfold ensure
  refine Program.posts_retry (hushed_ensure wanted) fun _ y => ?_
  refine (Program.leads_ask_ok (v := y.cluster.secrets.get? _) (t := y) rfl).2 ⟨trivial, ?_⟩
  cases y.cluster.secrets.get? _ with
  | none => exact written y rfl rfl
  | some current =>
    dsimp only
    split
    · exact ⟨rfl, rfl⟩
    · exact written y rfl rfl

/-- Changing the list of an account writes the account if the result says so, and nothing else. -/
theorem Binding.posts_amend (change : List String → Option (List String)) (key : ObjectKey) :
    (Program.retry policy fun _ => amend change key).Posts
      (fun r y => x.Grown 0 (told r) y) x := by
  suffices ended : (Program.retry policy fun _ => amend change key).Posts
      (fun r y => x.Grown (0 * told r) (1 * told r) y) x by simpa using ended
  refine Program.posts_retry (Hushed.retry fun _ => hushed_amend change key) fun _ y => ?_
  unfold amend
  refine (Program.leads_ask_ok (v := y.cluster.serviceAccounts.get? _) (t := y) rfl).2
    ⟨trivial, ?_⟩
  cases y.cluster.serviceAccounts.get? _ with
  | none => exact ⟨rfl, rfl⟩
  | some a =>
    dsimp only
    split
    · exact ⟨rfl, rfl⟩
    next names _ =>
      refine Program.leads_unlessMissing.2 ((Program.posts_ask _ y).mono ?_)
      rintro (e | _) z ⟨secrets, accounts⟩
      · have nothing : told (if e.isNotFound then .ok false else .error e) = 0 := by
          split <;> rfl
        dsimp only
        rw [nothing]
        exact ⟨secrets, accounts⟩
      · exact ⟨secrets, accounts⟩

end Single

end PullSecrets
