import PullSecrets.Proofs.Tallies
import PullSecrets.Proofs.Versions

/-!
# What is counted is what was written

A run is a sequence of reconciles, with anything else in between that may happen to a cluster.
Every secret that the reconciles of a run have written is counted. Accounts that were written are
counted unless they were worked on along with others that have failed: then the failure is
reported, and the accounts that were written are not told of.

## Main facts

* `Episode.exists_counts`: how the writes of one reconcile are counted.
* `counted_of_turns`: how those of a run are, and when all of them are.
* `uncounted_of_turns`: runs that have written accounts and do not count them.
-/

namespace PullSecrets

/-! ## Runs -/

/-- What happens to a cluster: it is changed or called from outside, or a puller is reconciled. -/
inductive Turn where
  | step (d : Step)
  | reconcile (config : Config) (name : String)

/-- A reconcile within a run, with the scene from which it starts. -/
structure Episode where
  before : Scene
  config : Config
  name : String

namespace Episode

variable (times : Nat → String) (e : Episode)

/-- Whether the puller is stored and to be deleted, so that the reconcile is a cleanup. -/
def terminating : Bool :=
  (e.before.cluster.pullers.get? e.name).any (·.metadata.isTerminating)

/-- The scene after the reconcile. -/
def after : Scene :=
  ((Reconcile.reconcile e.config e.name).run (Scene.surroundings times).toHandler e.before).2

/-- How many of the watched calls of the reconcile were accepted. -/
def accepted (watched : Call → Bool) : Nat :=
  (Reconcile.reconcile e.config e.name).accepted (Scene.surroundings times).toHandler watched
    e.before

/-- How many of the watched calls of several reconciles were accepted. -/
def total (watched : Call → Bool) (es : List Episode) : Nat :=
  es.foldr (fun e count => e.accepted times watched + count) 0

/-- Of the accounts that the puller had to change, none has changed or every one has: in the whole
cluster if it is to be deleted, and in each namespace by itself otherwise. -/
def Whole : Prop :=
  let s := e.before.cluster
  let t := (e.after times).cluster
  if e.terminating then s.AllOrNone (s.boundTo Names.secret) t
  else ∀ n, s.AllOrNone (s.unboundIn n Names.secret) t

end Episode

namespace Scene

/-- The scene after a turn. -/
def turn (times : Nat → String) (x : Scene) : Turn → Scene
  | .step d => { x with cluster := x.cluster.step d }
  | .reconcile config name => Episode.after times ⟨x, config, name⟩

/-- The scene after several turns. -/
def turns (times : Nat → String) (x : Scene) (l : List Turn) : Scene := l.foldl (turn times) x

/-- The reconciles of a run. -/
def episodes (times : Nat → String) (x : Scene) : List Turn → List Episode
  | [] => []
  | .step d :: l => (x.turn times (.step d)).episodes times l
  | .reconcile config name :: l =>
    ⟨x, config, name⟩ :: (x.turn times (.reconcile config name)).episodes times l

end Scene

section Runs

variable (times : Nat → String) {x : Scene}

theorem Scene.reachable_turn (reachable : Reachable x.cluster) (d : Turn) :
    Reachable (x.turn times d).cluster := by
  cases d with
  | step d => exact reachable.step d
  | reconcile config name => exact Program.reachable_run (Scene.surroundings times) _ reachable

/-- How the writes of a reconcile have been counted. -/
theorem Episode.exists_counts {e : Episode} (reachable : Reachable e.before.cluster) :
    let c := e.before.counters
    let d := (e.after times).counters
    ∃ count, Honest (e.Whole times) (e.accepted times Call.writesAccount) count ∧
      d.secretsWritten = c.secretsWritten + e.accepted times Call.writesSecret ∧
      d.accountsBound = c.accountsBound + (if !e.terminating then count else 0) ∧
      d.accountsUnbound = c.accountsUnbound + if e.terminating then count else 0 := by
  intro c d
  have counted : Reconcile.Counted e.terminating ⟨e.before.cluster, c, 0, 0⟩
      ⟨(e.after times).cluster, d, 0 + e.accepted times Call.writesSecret,
        0 + e.accepted times Call.writesAccount⟩ :=
    Program.Posts.run (Reconcile.posts_reconcile e.config e.name reachable.filed)
  obtain ⟨secrets, bound, unbound, made, booked, honest⟩ := counted
  have secrets_eq := booked.secrets
  have made_eq := booked.accounts
  simp only [Nat.zero_add] at secrets_eq made_eq
  subst secrets_eq made_eq
  cases terminating : e.terminating with
  | true =>
    rw [terminating] at honest
    obtain ⟨rfl, honest⟩ := honest
    refine ⟨unbound, ?_, booked.secretsWritten, booked.accountsBound, booked.accountsUnbound⟩
    rw [Episode.Whole, terminating]
    exact honest
  | false =>
    rw [terminating] at honest
    obtain ⟨rfl, honest⟩ := honest
    refine ⟨bound, ?_, booked.secretsWritten, booked.accountsBound, booked.accountsUnbound⟩
    rw [Episode.Whole, terminating]
    exact honest

/-- One more reconcile of a run: if it is to be kept, what it tells of is added. -/
theorem Episode.honest_cons (keep : Episode → Bool) {e : Episode} {es : List Episode}
    {count counts : Nat}
    (h : Honest (e.Whole times) (e.accepted times Call.writesAccount) count)
    (rest : Honest (∀ q ∈ es.filter keep, q.Whole times)
      (Episode.total times Call.writesAccount (es.filter keep)) counts) :
    Honest (∀ q ∈ (e :: es).filter keep, q.Whole times)
      (Episode.total times Call.writesAccount ((e :: es).filter keep))
      ((if keep e then count else 0) + counts) := by
  rw [List.filter_cons]
  cases keep e with
  | true => exact (h.add rest).congr List.forall_mem_cons.symm
  | false =>
    rw [if_neg Bool.false_ne_true, if_neg Bool.false_ne_true, Nat.zero_add]
    exact rest

/-- The counts of a run are those of its reconciles, one after the other. -/
theorem exists_counts_of_turns (l : List Turn) (reachable : Reachable x.cluster) :
    let c := x.counters
    let d := (x.turns times l).counters
    let es := x.episodes times l
    let syncs := es.filter (!·.terminating)
    let cleanups := es.filter (·.terminating)
    d.secretsWritten = c.secretsWritten + Episode.total times Call.writesSecret es ∧
      (∃ bound, d.accountsBound = c.accountsBound + bound ∧
        Honest (∀ e ∈ syncs, e.Whole times)
          (Episode.total times Call.writesAccount syncs) bound) ∧
      ∃ unbound, d.accountsUnbound = c.accountsUnbound + unbound ∧
        Honest (∀ e ∈ cleanups, e.Whole times)
          (Episode.total times Call.writesAccount cleanups) unbound := by
  induction l generalizing x with
  | nil => exact ⟨rfl, ⟨0, rfl, .of_all nofun 0⟩, 0, rfl, .of_all nofun 0⟩
  | cons turn l ih =>
    obtain ⟨secrets, ⟨bound, bound_eq, syncs⟩, unbound, unbound_eq, cleanups⟩ :=
      ih (Scene.reachable_turn times reachable turn)
    cases turn with
    | step d => exact ⟨secrets, ⟨bound, bound_eq, syncs⟩, unbound, unbound_eq, cleanups⟩
    | reconcile config name =>
      obtain ⟨count, honest, written, newBound, newUnbound⟩ :=
        Episode.exists_counts times (e := ⟨x, config, name⟩) reachable
      refine ⟨?_, ⟨_, ?_, Episode.honest_cons times _ honest syncs⟩, _, ?_,
        Episode.honest_cons times _ honest cleanups⟩
      · exact secrets.trans ((congrArg (· + _) written).trans (Nat.add_assoc ..))
      · exact bound_eq.trans ((congrArg (· + bound) newBound).trans (Nat.add_assoc ..))
      · exact unbound_eq.trans ((congrArg (· + unbound) newUnbound).trans (Nat.add_assoc ..))

/-- Every secret that the reconciles of a run have written is counted. Accounts that were written
are counted as bound by live pullers, and as unbound by terminating ones, but for those that were
worked on along with others that have failed: each of the two counts is exact if and only if every
reconcile of its pullers has changed all or none of the accounts in question. -/
theorem counted_of_turns (l : List Turn) (reachable : Reachable x.cluster) :
    let c := x.counters
    let d := (x.turns times l).counters
    let es := x.episodes times l
    let syncs := es.filter (!·.terminating)
    let cleanups := es.filter (·.terminating)
    d.secretsWritten = c.secretsWritten + Episode.total times Call.writesSecret es ∧
      (c.accountsBound ≤ d.accountsBound ∧ d.accountsBound ≤
        c.accountsBound + Episode.total times Call.writesAccount syncs) ∧
      (d.accountsBound =
          c.accountsBound + Episode.total times Call.writesAccount syncs ↔
        ∀ e ∈ syncs, e.Whole times) ∧
      (c.accountsUnbound ≤ d.accountsUnbound ∧ d.accountsUnbound ≤
        c.accountsUnbound + Episode.total times Call.writesAccount cleanups) ∧
      (d.accountsUnbound =
          c.accountsUnbound + Episode.total times Call.writesAccount cleanups ↔
        ∀ e ∈ cleanups, e.Whole times) := by
  intro c d es syncs cleanups
  obtain ⟨secrets, ⟨bound, bound_eq, synced⟩, unbound, unbound_eq, cleaned⟩ :=
    exists_counts_of_turns times l reachable
  refine ⟨secrets, ⟨?_, ?_⟩, ?_, ⟨?_, ?_⟩, ?_⟩
  · exact Nat.le.intro bound_eq.symm
  · exact Nat.le_trans (Nat.le_of_eq bound_eq) (Nat.add_le_add_left synced.le _)
  · rw [← synced.eq_iff, show d.accountsBound = c.accountsBound + bound from bound_eq]
    exact Nat.add_left_cancel_iff
  · exact Nat.le.intro unbound_eq.symm
  · exact Nat.le_trans (Nat.le_of_eq unbound_eq) (Nat.add_le_add_left cleaned.le _)
  · rw [← cleaned.eq_iff, show d.accountsUnbound = c.accountsUnbound + unbound from unbound_eq]
    exact Nat.add_left_cancel_iff

/-- The puller of the small cluster is reconciled, its deletion is asked for, and it is reconciled
again. Both accounts are counted each time, so both reconciles have changed all of them. -/
theorem counted_of_turns_sample :
    let x : Scene := { cluster := .sample }
    let l : List Turn := [.reconcile {} "creds1",
      .step (.change (.deletePuller "creds1" ⟨0, false⟩)), .reconcile {} "creds1"]
    let d := (x.turns (fun _ => "") l).counters
    (d.secretsWritten = 2 ∧ d.accountsBound = 2 ∧ d.accountsUnbound = 2) ∧
      ∀ e ∈ x.episodes (fun _ => "") l, e.Whole fun _ => "" := by
  intro x l d
  obtain ⟨secrets, -, bound, -, unbound⟩ := counted_of_turns (fun _ => "") (x := x) l
    Cluster.reachable_sample
  have made : (Episode.total (fun _ => "") Call.writesSecret (x.episodes (fun _ => "") l),
      Episode.total (fun _ => "") Call.writesAccount
        ((x.episodes (fun _ => "") l).filter (!·.terminating)),
      Episode.total (fun _ => "") Call.writesAccount
        ((x.episodes (fun _ => "") l).filter (·.terminating))) = (2, 2, 2) := by decide +kernel
  have told : (d.accountsBound, d.accountsUnbound) = (2, 2) := by decide +kernel
  obtain ⟨madeSecrets, made⟩ := Prod.mk.inj made
  obtain ⟨madeBound, madeUnbound⟩ := Prod.mk.inj made
  obtain ⟨toldBound, toldUnbound⟩ := Prod.mk.inj told
  refine ⟨⟨secrets.trans (congrArg (0 + ·) madeSecrets), toldBound, toldUnbound⟩, fun e he => ?_⟩
  cases terminating : e.terminating with
  | true =>
    have whole := unbound.1 (toldUnbound.trans (congrArg (0 + ·) madeUnbound.symm))
    exact whole e (List.mem_filter.2 ⟨he, terminating⟩)
  | false =>
    have whole := bound.1 (toldBound.trans (congrArg (0 + ·) madeBound.symm))
    exact whole e (List.mem_filter.2 ⟨he, congrArg not terminating⟩)

/-- The puller of the small cluster is reconciled. If writes fail in one namespace when its deletion
is asked for, the next reconcile unbinds the account of the other one, and counts none. If two
accounts are added and as many conflicts are pending as there are attempts, the next reconcile binds
one of them, and counts no more than before. -/
theorem uncounted_of_turns :
    let x : Scene := { cluster := .sample }
    let cleaning : List Turn := [.reconcile {} "creds1",
      .step (.change (.breakNamespace "default")),
      .step (.change (.deletePuller "creds1" ⟨0, false⟩)), .reconcile {} "creds1"]
    let binding : List Turn := [.reconcile {} "creds1",
      .step (.change (.addServiceAccount "default" "builder")),
      .step (.change (.addServiceAccount "default" "runner")),
      .step (.change (.injectConflicts 5)), .reconcile {} "creds1"]
    let made := fun (l : List Turn) (keep : Episode → Bool) =>
      Episode.total (fun _ => "") Call.writesAccount ((x.episodes (fun _ => "") l).filter keep)
    Reachable x.cluster ∧
      ((x.turns (fun _ => "") cleaning).counters.accountsUnbound = 0 ∧
        made cleaning (·.terminating) = 1) ∧
      (x.turns (fun _ => "") binding).counters.accountsBound = 2 ∧
        made binding (!·.terminating) = 3 :=
  ⟨Cluster.reachable_sample, ⟨by decide +kernel, by decide +kernel⟩, by decide +kernel,
    by decide +kernel⟩

end Runs

end PullSecrets
