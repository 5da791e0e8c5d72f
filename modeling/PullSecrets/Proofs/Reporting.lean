import PullSecrets.Proofs.Secrets
import PullSecrets.Proofs.Versions
import PullSecrets.Reconcile.Report

/-!
# What a report leaves in the store

A status is written unless the copy at hand has it. Other clients may have changed the stored
puller since the copy was read, and they may go on changing it between any two calls. A write that
is accepted leaves the status in the store whatever the copy was, and so does an attempt that reads
the puller again and finds the status there. Only a copy that has the status already is trusted
without a look at the store; then the puller may be stored with another status, and stays so.

## Main facts

* `Interleaved`: a cluster that other clients work on between the calls of a program.
* `Report.update_settles`: how a report ends whose copy does not have the status.
* `Report.reported_of_update_iff`: the status is in the store after a success, if and only if the
  copy was right about having it.
* `Report.unreported_of_update`: a success that leaves another status in the store.
-/

namespace PullSecrets

open Program (ask Leads)

/-! ## Other clients between the calls -/

/-- A cluster that other clients work on as well: what they are going to do before each of the next
calls of a program, and which writes of the program have been accepted. -/
structure Interleaved where
  cluster : Cluster
  /-- The steps of the others before each of the next calls; later on they take none. -/
  plan : List (List Step) := []
  /-- The accepted writes of the program. -/
  written : List Call := []

namespace Interleaved

variable {x y : Interleaved}

/-- The cluster that the next call meets. -/
def met (x : Interleaved) : Cluster := x.cluster.steps (x.plan.headD [])

/-- What is left after a call. -/
def enter (c : Call) (x : Interleaved) : Interleaved where
  cluster := (x.met.answer c).2
  plan := x.plan.tail
  written := if c.isWrite && (x.met.answer c).1.isOk then x.written ++ [c] else x.written

/-- The cluster and the other clients as what a program runs against. -/
def handler : Handler Interleaved where
  call := fun c x => ((x.met.answer c).1, x.enter c)
  clock := fun x => ("", x)
  note := fun _ x => x

theorem reachable_met (h : Reachable x.cluster) : Reachable x.met := h.steps _

/-- A program leads from clusters that can be reached to such clusters. -/
theorem leads_reachable {ε α : Type} (p : Program ε α) (h : Reachable x.cluster) :
    p.Leads handler (fun _ _ => True) (fun _ y => Reachable y.cluster) x := by
  induction p generalizing x with
  | done a => exact h
  | fail e => exact h
  | call c next ih => exact ⟨trivial, ih _ (.call (reachable_met h) c)⟩
  | clock next ih => exact fun time => ih time h
  | note n next ih => exact ih () h

/-- A call that fails is no accepted write. -/
theorem written_enter_of_error {c : Call} {e : StoreError}
    (failed : (x.met.answer c).1 = .error e) :
    (x.enter c).written = x.written := by
  simp [enter, failed, Except.isOk, Except.toBool]

theorem written_enter_of_ok {c : Call} {v : c.Value} (writes : c.isWrite = true)
    (accepted : (x.met.answer c).1 = .ok v) : (x.enter c).written = x.written ++ [c] := by
  simp [enter, writes, accepted, Except.isOk, Except.toBool]

/-- What a program leads to among other clients holds of its run. -/
theorem run_of_leads {ε α : Type} {p : Program ε α} {each : Interleaved → Call → Prop}
    {ends : Except ε α → Interleaved → Prop} (hp : p.Leads handler each ends x) :
    ends (p.run handler x).1 (p.run handler x).2 := by
  induction p generalizing x with
  | done a => exact hp
  | fail e => exact hp
  | call c next ih => exact ih _ hp.2
  | clock next ih => exact ih _ (hp _)
  | note n next ih => exact ih _ hp

end Interleaved

/-! ## Reporting -/

namespace Report

variable {policy : RetryPolicy} {copy : Puller} {status : PullerStatus} {name : String}
  {x y : Interleaved}

/-- The puller of a name has a status, if it is stored. -/
def Stands (name : String) (status : PullerStatus) (s : Cluster) : Prop :=
  ∀ q, s.pullers.get? name = some q → q.status = some status

/-- How a report ends whose copy does not have the status. -/
inductive Settles (name : String) (status : PullerStatus) (before : List Call) :
    Except StoreError Bool → Interleaved → Prop
  | wrote {y : Interleaved} (p : Puller) (named : p.name = name) (carries : p.status = some status)
    (stands : Stands name status y.cluster)
    (once : y.written = before ++ [.replacePullerStatus p]) :
    Settles name status before (.ok true) y
  | idle {y : Interleaved} (stands : Stands name status y.cluster) (never : y.written = before) :
    Settles name status before (.ok false) y
  | failed {e : StoreError} {y : Interleaved} (never : y.written = before) :
    Settles name status before (.error e) y

/-- Writing a status to a puller that may have been changed since it was read. -/
theorem write_settles {p : Puller} (carries : p.status = some status) (x : Interleaved) :
    (ask (.replacePullerStatus p) >>= fun _ => pure true : Program StoreError Bool).Leads
      Interleaved.handler (fun _ _ => True) (Settles p.name status x.written) x := by
  refine PullSecret.leads_written.2 (Program.leads_ask.2 ⟨trivial, ?_⟩)
  change Settles p.name status x.written
    ((x.met.answer (.replacePullerStatus p)).1.map fun _ => true)
    (x.enter (.replacePullerStatus p))
  cases answered : (x.met.answer (.replacePullerStatus p)).1 with
  | error e => exact .failed (Interleaved.written_enter_of_error answered)
  | ok v =>
    -- An accepted write has stored the puller with the status, whatever was stored before.
    obtain ⟨old, -, -, rfl, after⟩ := Cluster.replacePullerStatus_accepted answered
    refine .wrote p rfl carries (fun q stored => ?_) (Interleaved.written_enter_of_ok rfl answered)
    change (x.met.replacePullerStatus p).2.pullers.get? p.name = some q at stored
    rw [after, Dict.get?_insert, if_pos rfl] at stored
    cases stored
    exact carries

/-- An attempt to report, with the copy at hand or with the puller as it is found. -/
theorem attempt_settles (lacks : copy.status ≠ some status) (reachable : Reachable x.cluster)
    (i : Nat) :
    (do
      let target ← if i = 0 then pure (some copy) else ask (.getPuller copy.name)
      match target with
      | none => pure false
      | some target =>
        if target.status = some status then pure false
        else
          let _ ← ask (.replacePullerStatus { target with status := some status })
          pure true : Program StoreError Bool).Leads Interleaved.handler (fun _ _ => True)
        (Settles copy.name status x.written) x := by
  split
  next first =>
    rw [pure_bind]
    simp only [lacks, if_false]
    exact write_settles (p := { copy with status := some status }) rfl x
  next later =>
    have found : Interleaved.handler.call (.getPuller copy.name) x =
        (.ok (x.met.pullers.get? copy.name), x.enter (.getPuller copy.name)) := rfl
    refine (Program.leads_ask_ok found).2 ⟨trivial, ?_⟩
    cases stored : x.met.pullers.get? copy.name with
    | none =>
      refine .idle (fun q found => ?_) rfl
      cases stored.symm.trans found
    | some latest =>
      dsimp only
      split
      next has =>
        refine .idle (fun q found => ?_) rfl
        obtain rfl := Option.some.inj (stored.symm.trans found)
        exact has
      next differs =>
        have named := (Interleaved.reachable_met reachable).filed.pullers copy.name latest stored
        rw [← named]
        exact write_settles (p := { latest with status := some status }) rfl
          (x.enter (.getPuller latest.name))

/-- A report whose copy does not have the status. -/
theorem update_settles (lacks : copy.status ≠ some status) (reachable : Reachable x.cluster) :
    (update policy copy status).Leads Interleaved.handler (fun _ _ => True)
      (Settles copy.name status x.written) x := by
  unfold update
  rw [if_neg lacks]
  -- A failed attempt has written nothing, so every attempt starts with the same writes.
  refine Leads.retry (fun _ y => Reachable y.cluster ∧ y.written = x.written)
    (fun _ _ _ reached => reached) ?_ ⟨reachable, rfl⟩
  rintro i y - ⟨reachable_y, same⟩
  refine ((attempt_settles lacks reachable_y i).and
    (Interleaved.leads_reachable _ reachable_y)).mono ?_
  rintro r z ⟨settles, reachable_z⟩
  rw [same] at settles
  cases settles with
  | wrote p named carries stands once => exact .wrote p named carries stands once
  | idle stands never => exact .idle stands never
  | failed never => exact ⟨fun _ => ⟨reachable_z, never⟩, fun _ => .failed never⟩

/-- Whatever other clients do before and between the calls of a report that succeeds: the status is
in the store in the end, if and only if the copy does not have it, or the stored puller has it from
the start. The report has made one write, of this status, or it says that it has made none. -/
theorem reported_of_update_iff (policy : RetryPolicy) (copy : Puller) (status : PullerStatus)
    {x : Interleaved} (reachable : Reachable x.cluster) {b : Bool}
    (fine : ((update policy copy status).run Interleaved.handler x).1 = .ok b) :
    let y := ((update policy copy status).run Interleaved.handler x).2
    ((∀ q, y.cluster.pullers.get? copy.name = some q → q.status = some status) ↔
        (copy.status = some status →
          ∀ q, x.cluster.pullers.get? copy.name = some q → q.status = some status)) ∧
      (b = false → y.written = x.written) ∧
      (b = true → ∃ p : Puller, p.name = copy.name ∧ p.status = some status ∧
        y.written = x.written ++ [.replacePullerStatus p]) := by
  intro y
  by_cases has : copy.status = some status
  · -- The copy is trusted, and no call is made.
    have trusted : (update policy copy status).run Interleaved.handler x = (.ok false, x) := by
      rw [update, if_pos has]
      rfl
    have same : y = x := congrArg Prod.snd trusted
    rw [trusted] at fine
    cases fine
    rw [same]
    exact ⟨⟨fun stands _ => stands, fun stands => stands has⟩, fun _ => rfl, nofun⟩
  · have settles : Settles copy.name status x.written _ y :=
      Interleaved.run_of_leads (update_settles has reachable)
    rw [fine] at settles
    cases settles with
    | wrote p named carries stands once =>
      exact ⟨⟨fun _ here => absurd here has, fun _ => stands⟩, nofun,
        fun _ => ⟨p, named, carries, once⟩⟩
    | idle stands never =>
      exact ⟨⟨fun _ here => absurd here has, fun _ => stands⟩, fun _ => never, nofun⟩

/-- The copy is stale when the report begins, and its next attempt meets a conflict. The third one
succeeds, and the status is in the store. -/
theorem reported_of_update_iff_sample :
    let done := Report.status none none "" ""
    let x : Interleaved := {
      cluster := .sample
      plan := [[.change (.editPuller "creds1" {})], [], [.change (.injectConflicts 1)]] }
    let r := (update {} .sample done).run Interleaved.handler x
    r.1 = .ok true ∧ (∃ p : Puller, p.name = "creds1" ∧ p.status = some done ∧
        r.2.written = x.written ++ [.replacePullerStatus p]) ∧
      ∃ q, r.2.cluster.pullers.get? "creds1" = some q ∧ q.status = some done := by
  intro done x r
  have fine : r.1.toOption = some true := by decide +kernel
  have there : (r.2.cluster.pullers.get? "creds1").isSome = true := by decide +kernel
  have lacks : Puller.sample.status ≠ some done := by decide +kernel
  have reachable : Reachable x.cluster := Cluster.reachable_sample
  -- No more is evaluated from here on.
  clear_value x
  obtain ⟨q, stored⟩ := Option.isSome_iff_exists.1 there
  obtain ⟨stands, -, once⟩ := reported_of_update_iff {} .sample done reachable
    (eq_ok_of_toOption fine)
  have carried := stands.2 (fun has => absurd has lacks) q stored
  exact ⟨eq_ok_of_toOption fine, once rfl, q, stored, carried⟩

/-- A client keeps a copy of a puller, and another one changes the status of the stored puller. To
report with the copy what the copy has already is a success, and the other status stays. -/
theorem unreported_of_update :
    let first := Report.status none none "" ""
    let second := Report.status none (some "boom") "" ""
    let before := (Cluster.sample.answer
      (.replacePullerStatus { Puller.sample with status := some first })).2
    let copy := ({ Puller.sample with status := some first } : Puller).stamp "6"
    let x : Interleaved :=
      { cluster := before.steps [.call (.replacePullerStatus { copy with status := some second })] }
    let r := (update {} copy first).run Interleaved.handler x
    Reachable before ∧ before.pullers.get? "creds1" = some copy ∧ r.1 = .ok false ∧
      ∃ q, r.2.cluster.pullers.get? "creds1" = some q ∧ q.status = some second ∧
        q.status ≠ some first := by
  intro first second before copy x r
  have read : before.pullers.get? "creds1" = some copy := by decide +kernel
  have fine : r.1.toOption = some false := by decide +kernel
  have left : (r.2.cluster.pullers.get? "creds1").map (·.status) = some (some second) := by
    decide +kernel
  have differ : some second ≠ some first := by decide +kernel
  obtain ⟨q, stored, other⟩ := Option.map_eq_some_iff.1 left
  exact ⟨.call Cluster.reachable_sample _, read, eq_ok_of_toOption fine, q, stored, other,
    other ▸ differ⟩

end Report

end PullSecrets
