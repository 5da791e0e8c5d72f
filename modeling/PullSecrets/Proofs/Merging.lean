import PullSecrets.Proofs.Atomicity
import PullSecrets.Proofs.Owners
import PullSecrets.Proofs.Quiescence

/-!
# Giving a namespace its secret twice

Whether a secret is current and what a stored one becomes by merging are told apart: the one looks
at the document, the label, the owners and the type, the other writes them. All that is looked at
is written, so a secret is written once at most. After that it is found to be current, whatever it
was before, and nothing is left to be written.

## Main facts

* `PullSecret.merge_merge`: merging again changes nothing.
* `Program.writes_run`: the cluster counts the writes that it accepts.
* `PullSecret.Given`, `PullSecret.given_ensure`: how giving a namespace its secret ends,
  whatever is in the way.
* `PullSecret.ensure_fixed`: one write is enough.
-/

namespace PullSecrets

open Program (ask Ends Leads)

/-! ## Merging again -/

namespace Dict

variable {κ α : Type} [Ord κ] [Std.TransOrd κ] [Std.LawfulEqOrd κ] {k : κ} {es : List (κ × α)}

/-- What is under a key that was written does not depend on what was there before. -/
theorem get?_insertAll_eq (written : ∃ e ∈ es, e.1 = k) (d d' : Dict κ α) :
    (d.insertAll es).get? k = (d'.insertAll es).get? k := by
  classical
  induction es generalizing d d' with
  | nil => simp at written
  | cons e es ih =>
    show ((d.insert e.1 e.2).insertAll es).get? k = ((d'.insert e.1 e.2).insertAll es).get? k
    by_cases later : ∃ e ∈ es, e.1 = k
    · exact ih later _ _
    · have last : ∀ e ∈ es, e.1 ≠ k := fun e he same => later ⟨e, he, same⟩
      have here : e.1 = k := by
        obtain ⟨e', he', same⟩ := written
        rcases List.mem_cons.1 he' with rfl | he'
        · exact same
        · exact absurd same (last e' he')
      rw [get?_insertAll_of_forall_ne _ last, get?_insertAll_of_forall_ne _ last, get?_insert,
        get?_insert, if_pos here.symm, if_pos here.symm]

/-- Writing the same entries again changes nothing. -/
theorem insertAll_insertAll (d : Dict κ α) (es : List (κ × α)) :
    (d.insertAll es).insertAll es = d.insertAll es := by
  apply ext_get?
  intro k
  by_cases written : ∃ e ∈ es, e.1 = k
  · exact get?_insertAll_eq written _ _
  · exact get?_insertAll_of_forall_ne _ fun e he same => written ⟨e, he, same⟩

end Dict

namespace PullSecret

variable {owners claims : List OwnerReference}

/-- Owners that are there are not added again. -/
theorem addOwners_of_forall (there : ∀ o ∈ claims, isOwner owners o = true) :
    addOwners owners claims = owners := by
  induction claims with
  | nil => rfl
  | cons claim claims ih =>
    show addOwners (addOwner owners claim) claims = owners
    rw [addOwner_of_isOwner (there claim List.mem_cons_self)]
    exact ih fun o ho => there o (List.mem_cons_of_mem claim ho)

theorem addOwners_addOwners (owners claims : List OwnerReference) :
    addOwners (addOwners owners claims) claims = addOwners owners claims :=
  addOwners_of_forall fun _ ho => isOwner_addOwners_of_mem ho

theorem ownerReferences_merge (current wanted : Secret) :
    (merge current wanted).metadata.ownerReferences =
      if wanted.metadata.ownerList.isEmpty then current.metadata.ownerReferences
      else some (addOwners current.metadata.ownerList wanted.metadata.ownerList) := rfl

/-- Merging again changes nothing. -/
theorem merge_merge (current wanted : Secret) :
    merge (merge current wanted) wanted = merge current wanted := by
  have labels : (merge (merge current wanted) wanted).metadata.labels =
      (merge current wanted).metadata.labels :=
    congrArg some (Dict.insertAll_insertAll _ _)
  have owners : (merge (merge current wanted) wanted).metadata.ownerReferences =
      (merge current wanted).metadata.ownerReferences := by
    rw [ownerReferences_merge, ownerList_merge, addOwners_addOwners, ownerReferences_merge]
    split
    · rfl
    · rfl
  show { merge current wanted with
    metadata := { (merge current wanted).metadata with
      labels := (merge (merge current wanted) wanted).metadata.labels
      ownerReferences := (merge (merge current wanted) wanted).metadata.ownerReferences } } = _
  rw [labels, owners]

end PullSecret

/-! ## Counted writes -/

/-- A cluster counts the writes that it accepts. -/
theorem Cluster.writes_answer (c : Call) (s : Cluster) :
    (s.answer c).2.writes =
      s.writes + if c.isWrite && (s.answer c).1.isOk then 1 else 0 := by
  cases write : c.isWrite with
  | false =>
    rw [s.answer_of_not_isWrite write]
    rfl
  | true =>
    cases answered : (s.answer c).1 with
    | error e => exact writes_of_refused answered
    | ok v =>
      obtain ⟨place, o, -, -, -, wrote⟩ := wrote_of_accepted write answered
      exact wrote.writes

/-- The cluster counts the writes of a run that it accepts. -/
theorem Program.writes_run {σ ε α : Type} (w : Surroundings σ) (p : Program ε α) (x : σ) :
    (w.cluster (p.run w.toHandler x).2).writes =
      (w.cluster x).writes + p.accepted w.toHandler Call.isWrite x := by
  induction p generalizing x with
  | done a => rfl
  | fail e => rfl
  | call c next ih =>
    refine (ih _ _).trans ?_
    rw [w.cluster_call, Cluster.writes_answer, accepted, accepted, exchanges_call,
      List.countP_append, Nat.add_assoc, w.call_fst]
    congr 2
    cases c.isWrite
    · rfl
    · exact (List.countP_singleton ..).symm
  | clock next ih =>
    refine (ih _ _).trans ?_
    rw [w.cluster_clock]
    rfl
  | note n next ih =>
    refine (ih _ _).trans ?_
    rw [w.cluster_note]
    rfl

/-! ## Ends, whatever is in the way -/

namespace PullSecret

/-- How giving a namespace its secret ends. Unlike `Ensured` this does not say which faults are in
the way, and the namespace need not be there. -/
inductive Given (wanted : Secret) (key : ObjectKey) (s : Cluster) :
    Except StoreError Bool → Cluster → Prop
  | found {x : Secret} {t : Cluster} (same : s.Unwritten t)
    (stored : t.secrets.get? key = some x) (current : isCurrent x wanted = true) :
    Given wanted key s (.ok false) t
  | written {x : Secret} {t : Cluster} (writes : t.writes = s.writes + 1)
    (stored : t.secrets = s.secrets.insert key x) (current : isCurrent x wanted = true) :
    Given wanted key s (.ok true) t
  | refused {e : StoreError} {t : Cluster} (same : s.Unwritten t) :
    Given wanted key s (.error e) t

section Given

variable {wanted x : Secret} {key : ObjectKey} {s t : Cluster} {r : Except StoreError Bool}

/-- The writes are those that the result tells of. -/
theorem Given.writes (h : Given wanted key s r t) : t.writes = s.writes + told r := by
  cases h with
  | found same => exact same.writes
  | written writes => exact writes
  | refused same => exact same.writes

/-- What succeeds leaves a secret that is current. -/
theorem Given.current {b : Bool} (h : Given wanted key s (.ok b) t) :
    ∃ y, t.secrets.get? key = some y ∧ isCurrent y wanted = true := by
  cases h with
  | found same stored current => exact ⟨_, stored, current⟩
  | @written x _ writes stored current =>
    have there : t.secrets.get? key = some x := by rw [stored, Dict.get?_insert, if_pos rfl]
    exact ⟨x, there, current⟩

/-- What is found to be current is left alone. -/
theorem Given.unwritten (h : Given wanted key s (.ok false) t) : s.Unwritten t := by
  cases h with
  | found same => exact same

/-- No other secret changes. -/
theorem Given.others (h : Given wanted key s r t) (other : ObjectKey)
    (elsewhere : other ≠ key) : t.secrets.get? other = s.secrets.get? other := by
  cases h with
  | found same | refused same => rw [same.secrets]
  | written writes stored => rw [stored, Dict.get?_insert, if_neg elsewhere]

/-- A write that stores a secret that is current, if it is accepted. -/
theorem given_ask {c : Call} (same : s.Unwritten t)
    (accepted : ∀ v, (t.answer c).1 = .ok v → ∃ y, (t.answer c).2.writes = t.writes + 1 ∧
      (t.answer c).2.secrets = t.secrets.insert key y ∧ isCurrent y wanted = true) :
    (ask c >>= fun _ => pure true : Program StoreError Bool).Ends (Given wanted key s) t := by
  refine leads_written.2 (Program.leads_ask.2 ⟨trivial, ?_⟩)
  show Given wanted key s ((t.answer c).1.map fun _ => true) (t.answer c).2
  cases answered : (t.answer c).1 with
  | error e => exact .refused (same.trans (Cluster.unwritten_of_refused answered))
  | ok v =>
    obtain ⟨y, writes, stored, current⟩ := accepted v answered
    exact .written (by rw [writes, same.writes]) (by rw [stored, same.secrets]) current

theorem given_createSecret (placed : x.metadata.key .secret = .ok key)
    (current : isCurrent x wanted = true) (same : s.Unwritten t) :
    (ask (.createSecret x) >>= fun _ => pure true : Program StoreError Bool).Ends
      (Given wanted key s) t := by
  refine given_ask same fun v answered => ?_
  obtain ⟨key', placed', -, rfl, after⟩ := Cluster.createSecret_accepted answered
  obtain rfl : key = key' := Except.ok.inj (placed.symm.trans placed')
  change (t.answer (.createSecret x)).2 = _ at after
  rw [after]
  exact ⟨_, rfl, rfl, current⟩

theorem given_replaceSecret (placed : x.metadata.key .secret = .ok key)
    (current : isCurrent x wanted = true) (same : s.Unwritten t) :
    (ask (.replaceSecret x) >>= fun _ => pure true : Program StoreError Bool).Ends
      (Given wanted key s) t := by
  refine given_ask same fun v answered => ?_
  obtain ⟨key', old, placed', -, -, rfl, after⟩ := Cluster.replaceSecret_accepted answered
  obtain rfl : key = key' := Except.ok.inj (placed.symm.trans placed')
  change (t.answer (.replaceSecret x)).2 = _ at after
  rw [after]
  exact ⟨_, rfl, rfl, current⟩

end Given

/-- Giving a namespace its secret, from any cluster in which objects are under their places. -/
theorem given_ensure (policy : RetryPolicy) (p : Puller) (document : ByteArray)
    (inNamespace : String) {s : Cluster} (filed : s.Filed) :
    (ensure policy (wanted p document inNamespace)).Ends
      (Given (wanted p document inNamespace) ⟨inNamespace, Names.secret⟩ s) s := by
  -- What has failed has written nothing, so every attempt finds what the first one has found.
  refine Leads.retry (fun _ t => s.Unwritten t) (fun _ _ _ same => same) ?_ (.refl s)
  intro i t few same
  refine Leads.mono (?_ : Program.Ends (Given (wanted p document inNamespace)
    ⟨inNamespace, Names.secret⟩ s) _ t) ?_
  · refine (Program.leads_ask_ok (v := t.secrets.get? ⟨inNamespace, Names.secret⟩) (t := t)
      rfl).2 ⟨trivial, ?_⟩
    cases stored : t.secrets.get? ⟨inNamespace, Names.secret⟩ with
    | none =>
      exact given_createSecret (key_wanted p document inNamespace)
        (isCurrent_wanted p document inNamespace) same
    | some old =>
      dsimp only
      split
      next current => exact .found same stored current
      next =>
        rw [same.secrets] at stored
        exact given_replaceSecret (filed.secrets _ old stored)
          (isCurrent_merge p document inNamespace old) same
  · rintro (e | b) u ended
    · cases ended with
      | refused same => exact ⟨fun _ => same, fun _ => .refused same⟩
    · exact ended

/-- Whatever a puller wants in a namespace, whatever the policy is and whatever faults there are:
giving the namespace its secret makes a write if it says so, and none if it does not. If it
succeeds, the secret that is stored is current, and giving it once more, under any policy, reads
that and leaves everything as it is. If it fails, nothing has been written. One write is enough,
since merging makes every secret current, and merging again changes nothing. -/
theorem ensure_fixed (p : Puller) (document : ByteArray) (inNamespace : String) :
    let d := wanted p document inNamespace
    (∀ old, isCurrent (merge old d) d = true ∧ merge (merge old d) d = merge old d) ∧
    ∀ {σ : Type} (w : Surroundings σ) (policy : RetryPolicy) (x : σ), Reachable (w.cluster x) →
      let h := w.toHandler
      let y := ((ensure policy d).run h x).2
      (∀ b, ((ensure policy d).run h x).1 = .ok b →
        (ensure policy d).accepted h Call.isWrite x = b.toNat ∧
        (b = false → (w.cluster x).Unwritten (w.cluster y)) ∧
        (∃ z, (w.cluster y).secrets.get? ⟨inNamespace, Names.secret⟩ = some z ∧
          isCurrent z d = true) ∧
        (∀ other, other ≠ ⟨inNamespace, Names.secret⟩ →
          (w.cluster y).secrets.get? other = (w.cluster x).secrets.get? other) ∧
        ∀ policy' : RetryPolicy, ((ensure policy' d).run h y).1 = .ok false ∧
          w.cluster ((ensure policy' d).run h y).2 = w.cluster y ∧
          ∀ e ∈ (ensure policy' d).calls h y, e.2.isWrite = false) ∧
      ∀ e, ((ensure policy d).run h x).1 = .error e →
        (ensure policy d).accepted h Call.isWrite x = 0 ∧
        (w.cluster x).Unwritten (w.cluster y) := by
  intro d
  refine ⟨fun old => ⟨isCurrent_merge p document inNamespace old, merge_merge old d⟩, ?_⟩
  intro σ w policy x reachable h y
  have given : Given d ⟨inNamespace, Names.secret⟩ (w.cluster x)
      ((ensure policy d).run h x).1 (w.cluster y) :=
    (given_ensure policy p document inNamespace reachable.filed).run
  have counted : (ensure policy d).accepted h Call.isWrite x =
      told ((ensure policy d).run h x).1 :=
    Nat.add_left_cancel ((Program.writes_run w (ensure policy d) x).symm.trans given.writes)
  rw [counted]
  constructor
  · intro b success
    rw [success] at given ⊢
    obtain ⟨z, stored, current⟩ := given.current
    refine ⟨told_ok b, fun none => (none ▸ given).unwritten, ⟨z, stored, current⟩,
      given.others, fun policy' => ?_⟩
    have reads : (ensure policy' d).Reads false (w.cluster y) :=
      reads_ensure (key_wanted p document inNamespace) stored current
    exact ⟨reads.run.1, reads.run.2, fun e he => (reads.calls e he).2⟩
  · intro e failure
    rw [failure] at given ⊢
    cases given with
    | refused same => exact ⟨rfl, same⟩

/-- A secret of another kind that someone has stored under the name of the wanted one. -/
def foreign : Secret where
  metadata := {
    name := some Names.secret
    inNamespace := some "default"
    labels := some (Dict.ofList [("app", "web")]) }
  type := some "Opaque"
  data := some (Dict.ofList [(Names.documentKey, "null".toUTF8)])

/-- Two conflicts are in the way of replacing the foreign secret. Five attempts are enough, and then
nothing is left to do; two attempts are not enough, and they leave everything as it is. -/
theorem ensure_fixed_sample :
    let d := wanted .sample Puller.sample.document "default"
    let s := Cluster.sample.steps [.call (.createSecret foreign), .change (.injectConflicts 2)]
    let w := Cluster.alone ""
    let t := ((ensure {} d).run w.toHandler s).2
    isCurrent foreign d = false ∧ isCurrent (merge foreign d) d = true ∧
      (ensure {} d).accepted w.toHandler Call.isWrite s = 1 ∧
      ((ensure {} d).run w.toHandler t).1 = .ok false ∧
      w.cluster ((ensure {} d).run w.toHandler t).2 = w.cluster t ∧
      (w.cluster s).Unwritten (w.cluster ((ensure { attempts := 2 } d).run w.toHandler s).2) := by
  intro d s w t
  obtain ⟨merged, fixed⟩ := ensure_fixed .sample Puller.sample.document "default"
  have differs : isCurrent foreign d = false := by decide +kernel
  have reachable : Reachable (w.cluster s) := Cluster.reachable_sample.steps _
  have written : ((ensure {} d).run w.toHandler s).1 = .ok true := by decide +kernel
  have contended : ((ensure { attempts := 2 } d).run w.toHandler s).1 =
      .error (.conflict .secret Names.secret) := by decide +kernel
  obtain ⟨count, -, -, -, again⟩ := (fixed w {} s reachable).1 true written
  have refused := (fixed w { attempts := 2 } s reachable).2 _ contended
  exact ⟨differs, (merged foreign).1, count, (again {}).1, (again {}).2.1, refused.2⟩

end PullSecret

end PullSecrets
