import PullSecrets.Proofs.Bystanders
import PullSecrets.Proofs.Identities

/-!
# How the deletion of a puller ends

A puller that is to be deleted goes away after every account has been unbound, and not before. When
some account could not be unbound, the puller stays as it is, with its finalizers, and waits for the
next reconcile; the accounts that were unbound meanwhile stay unbound, and the failure names those
that are still as they were.

## Main facts

* `Binding.Swept.blamed_iff`: the accounts that fail are those that are still as they were.
* `Reconcile.cleanup_departed`: how cleaning up ends.
* `Reconcile.departed_of_reconcile`: how the reconcile of a puller that is to be deleted ends.
-/

namespace PullSecrets

open Program (ask Ends Leads)

/-! ## Accounts that are unbound -/

/-- An account that has lost a name from its list is another one. -/
theorem ServiceAccount.erased_ne {a : ServiceAccount} (version : String)
    (bound : a.references Names.secret = true) :
    (a.withPullSecrets (a.pullSecretList.erase Names.secret)).stamp version ≠ a := by
  intro same
  have lists : a.pullSecretList.erase Names.secret = a.pullSecretList :=
    congrArg ServiceAccount.pullSecretList same
  have shorter := List.length_erase_add_one (ServiceAccount.references_iff.1 bound)
  rw [lists] at shorter
  omega

/-- Why the write of an account fails: its namespace is broken, or conflicts have used up all
attempts. -/
def Cluster.refusal (s : Cluster) (key : ObjectKey) : StoreError :=
  if key.inNamespace ∈ s.failingNamespaces then
    .injected .serviceAccount key.inNamespace key.name
  else .conflict .serviceAccount key.name

/-- Every bound account has lost the first occurrence of the secret, and the others are as
before. -/
structure Cluster.Freed (s t : Cluster) : Prop where
  bound : ∀ key a, s.serviceAccounts.get? key = some a → a.references Names.secret = true →
    ∃ version, t.serviceAccounts.get? key =
      some ((a.withPullSecrets (a.pullSecretList.erase Names.secret)).stamp version)
  free : ∀ key, (∀ a, s.serviceAccounts.get? key = some a → a.references Names.secret = false) →
    t.serviceAccounts.get? key = s.serviceAccounts.get? key

/-- Failures that name the bound accounts that are as before, each of them once and in ascending
order. -/
def Cluster.Blames (s t : Cluster) (errors : Aggregate) : Prop :=
  ∃ keys : List ObjectKey, (keys.Pairwise fun a b => compare a b = .lt) ∧
    (∀ key, key ∈ keys ↔ ∃ a, s.serviceAccounts.get? key = some a ∧
      a.references Names.secret = true ∧ t.serviceAccounts.get? key = some a) ∧
    errors.entries = keys.map fun key =>
      Aggregate.about ("service account " ++ key.text) (s.refusal key).message

namespace Binding

variable {change : List String → Option (List String)} {s t : Cluster} {key : ObjectKey}
  {results : List (ObjectKey × Except StoreError Bool)}

/-- The accounts whose change has failed. -/
def blamed (results : List (ObjectKey × Except StoreError Bool)) : List ObjectKey :=
  (results.filter fun x => !x.2.toBool).map (·.1)

theorem mem_blamed : key ∈ blamed results ↔ ∃ e, (key, .error e) ∈ results := by
  simp only [blamed, List.mem_map, List.mem_filter, Bool.not_eq_true']
  constructor
  · rintro ⟨⟨k, e | b⟩, ⟨hmem, failed⟩, rfl⟩
    · exact ⟨e, hmem⟩
    · cases failed
  · rintro ⟨e, hmem⟩
    exact ⟨_, ⟨hmem, rfl⟩, rfl⟩

/-- The failures say of every account that has failed why it did. -/
theorem Swept.entries_eq (h : Swept change s results t) :
    (failures results).entries = (blamed results).map fun key =>
      Aggregate.about ("service account " ++ key.text) (s.refusal key).message := by
  have why : ∀ key e, (key, .error e) ∈ results → e = s.refusal key := by
    intro key e hmem
    have verdict := h.verdict key _ hmem
    generalize t.serviceAccounts.get? key = o at verdict
    cases verdict with
    | refused stored asked broken => rw [Cluster.refusal, if_pos broken]
    | contended stored asked spared busy => rw [Cluster.refusal, if_neg spared]
  -- From here on only the shape of the entries counts, and it passes on to the tail.
  clear h
  rw [failures, blamed]
  induction results with
  | nil => rfl
  | cons x rest ih =>
    have tail := ih fun key e hmem => why key e (List.mem_cons_of_mem x hmem)
    obtain ⟨key, e | b⟩ := x
    · obtain rfl := why key e List.mem_cons_self
      simpa [Except.toBool] using tail
    · simpa [Except.toBool] using tail

/-- Among the accounts that were to be unbound, those fail that are as before. -/
theorem Swept.blamed_iff (h : Swept (removed Names.secret) s results t)
    (complete : results.map (·.1) = s.boundTo Names.secret) :
    key ∈ blamed results ↔ ∃ a, s.serviceAccounts.get? key = some a ∧
      a.references Names.secret = true ∧ t.serviceAccounts.get? key = some a := by
  have worked : key ∈ results.map (·.1) ↔
      ∃ a, s.serviceAccounts.get? key = some a ∧ Names.secret ∈ a.pullSecretList := by
    rw [complete]
    exact Cluster.mem_boundTo
  rw [mem_blamed]
  constructor
  · rintro ⟨e, hmem⟩
    obtain ⟨a, stored, bound⟩ := worked.1 (List.mem_map.2 ⟨_, hmem, rfl⟩)
    exact ⟨a, stored, ServiceAccount.references_iff.2 bound, (h.get?_of_error hmem).trans stored⟩
  · rintro ⟨a, stored, references, same⟩
    have bound := ServiceAccount.references_iff.1 references
    obtain ⟨⟨_, e | b⟩, hmem, rfl⟩ := List.mem_map.1 (worked.2 ⟨a, stored, bound⟩)
    · exact ⟨e, hmem⟩
    · -- A success has taken the secret from the list, and then the account is another one.
      obtain ⟨version, freed⟩ := h.get?_of_ok stored (if_pos bound) hmem
      rw [same] at freed
      exact absurd (Option.some.inj freed).symm (ServiceAccount.erased_ne version references)

/-- Unbinding without a failure frees every account. -/
theorem Swept.freed (h : Swept (removed Names.secret) s results t)
    (complete : results.map (·.1) = s.boundTo Names.secret)
    (fine : ∀ key e, (key, .error e) ∉ results) : s.Freed t where
  bound := by
    intro key a stored references
    have bound := ServiceAccount.references_iff.1 references
    have worked : key ∈ results.map (·.1) := complete ▸ Cluster.mem_boundTo.2 ⟨a, stored, bound⟩
    obtain ⟨⟨_, e | b⟩, hmem, rfl⟩ := List.mem_map.1 worked
    · exact absurd hmem (fine _ e)
    · exact h.get?_of_ok stored (if_pos bound) hmem
  free := by
    intro key free
    refine h.others key fun worked => ?_
    rw [complete] at worked
    obtain ⟨a, stored, bound⟩ := Cluster.mem_boundTo.1 worked
    have unbound := free a stored
    rw [ServiceAccount.references_iff.2 bound] at unbound
    cases unbound

/-- Unbinding that fails names the accounts that are as before. -/
theorem Swept.blames (h : Swept (removed Names.secret) s results t)
    (complete : results.map (·.1) = s.boundTo Names.secret) : s.Blames t (failures results) := by
  refine ⟨blamed results, ?_, fun key => h.blamed_iff complete, h.entries_eq⟩
  have ascending : (results.map (·.1)).Pairwise fun a b => compare a b = .lt := by
    rw [complete]
    exact s.ascending_placesOf _ _
  exact ascending.sublist (List.filter_sublist.map _)

/-- Unbinding without a failure has met no broken namespace. -/
theorem Swept.spared (h : Swept (removed Names.secret) s results t)
    (complete : results.map (·.1) = s.boundTo Names.secret)
    (fine : ∀ key e, (key, .error e) ∉ results) :
    ∀ key ∈ s.boundTo Names.secret, key.inNamespace ∉ s.failingNamespaces := by
  intro key bound broken
  obtain ⟨a, stored, listed⟩ := Cluster.mem_boundTo.1 bound
  have references := ServiceAccount.references_iff.2 listed
  obtain ⟨version, freed⟩ := (h.freed complete fine).bound key a stored references
  rw [h.get?_of_broken broken, stored] at freed
  exact ServiceAccount.erased_ne version references (Option.some.inj freed).symm

end Binding

/-! ## The puller -/

/-- The finalizers of a puller that are not of this controller. -/
def Puller.otherFinalizers (p : Puller) : List String :=
  p.metadata.finalizerList.filter (· != Names.finalizer)

/-- The puller is gone, or others keep it: then it has their finalizers, and is else as before. -/
structure Puller.LetGo (p : Puller) (t : Cluster) : Prop where
  gone : p.otherFinalizers = [] → t.pullers.get? p.name = none
  kept : p.otherFinalizers ≠ [] → ∃ q, t.pullers.get? p.name = some q ∧
    q.metadata.finalizerList = p.otherFinalizers ∧ q.status = p.status ∧ p.Akin q

namespace Finalizer

variable {policy : RetryPolicy} {p : Puller} {s t : Cluster}

theorem finalizerList_released_eq (p : Puller) :
    (released p).metadata.finalizerList = p.otherFinalizers := rfl

/-- What becomes of a puller that is to be deleted when it is let go. -/
theorem letGo_puller (terminating : p.metadata.isTerminating = true) : p.LetGo (letGo p s).2 := by
  unfold letGo
  rw [terminating, Bool.true_and, finalizerList_released_eq]
  by_cases none : p.otherFinalizers = []
  · rw [if_pos (List.isEmpty_iff.2 none)]
    exact ⟨fun _ => by simp [Cluster.dropPuller], fun some => absurd none some⟩
  · rw [if_neg (mt List.isEmpty_iff.1 none)]
    refine ⟨fun gone => absurd gone none, fun _ => ?_⟩
    exact ⟨_, Cluster.get?_putPuller _ _ _, finalizerList_released_eq p, rfl,
      ⟨rfl, _, _, rfl⟩⟩

/-- Releasing a stored puller that is to be deleted: it is let go, or it is as before. -/
theorem release_puller (stored : s.pullers.get? p.name = some p)
    (terminating : p.metadata.isTerminating = true) (awaited : p.metadata.finalizerList ≠ []) :
    (release policy p.name).Ends (fun r t => (r = .ok () → p.LetGo t) ∧
      (∀ e, r = .error e → t.pullers = s.pullers) ∧ (s.pendingConflicts = 0 → r = .ok ())) s := by
  apply (release_cases stored).mono
  rintro r t (⟨lacks, rfl, rfl⟩ | ⟨-, ended⟩)
  · have all : p.otherFinalizers = p.metadata.finalizerList := by
      refine List.filter_eq_self.2 fun x hx => ?_
      have free : Names.finalizer ∉ p.metadata.finalizerList := by
        rw [← Puller.hasFinalizer_iff, lacks]
        exact Bool.false_ne_true
      exact bne_iff_ne.2 fun same => free (same ▸ hx)
    refine ⟨fun _ => ⟨fun none => absurd (all.symm.trans none) awaited, fun _ => ?_⟩, ?_, ?_⟩
    · exact ⟨p, stored, all.symm, rfl, .refl p⟩
    · intro e he
      cases he
    · exact fun _ => rfl
  · refine ⟨?_, ?_, fun calm => (ended.accepted calm policy.budget_pos).1⟩
    · rintro rfl
      cases ended with
      | through spared few => exact letGo_puller terminating
    · rintro e rfl
      cases ended with
      | refused | contended => rfl

end Finalizer

/-! ## Cleaning up -/

namespace Reconcile

variable {policy : RetryPolicy} {config : Config} {p : Puller} {name : String} {s t : Cluster}

/-- Listing accounts works, and no bound account is in a broken namespace. -/
def Unhindered (s : Cluster) : Prop :=
  s.listsFail = false ∧ ∀ key ∈ s.boundTo Names.secret, key.inNamespace ∉ s.failingNamespaces

/-- How cleaning up after a puller ends. -/
inductive Departed {α : Type} (p : Puller) (s : Cluster) : Except ReconcileError α → Cluster → Prop
  | done {a : α} {t : Cluster} (freed : s.Freed t) (gone : p.LetGo t) (spared : Unhindered s) :
    Departed p s (.ok a) t
  | failed {e : ReconcileError} {t : Cluster} (stays : t.pullers = s.pullers)
    (blames : ∀ errors, e = .several errors → s.Blames t errors)
    (hindered : s.pendingConflicts = 0 → ¬ Unhindered s) : Departed p s (.error e) t

theorem Departed.map {α β : Type} {r : Except ReconcileError α} (f : α → β)
    (h : Departed p s r t) : Departed p s (r.map f) t := by
  cases h with
  | done freed gone spared => exact .done freed gone spared
  | failed stays blames hindered => exact .failed stays blames hindered

/-- Cleaning up after a stored puller that is to be deleted. -/
theorem cleanup_departed (filed : s.Filed) (stored : s.pullers.get? p.name = some p)
    (terminating : p.metadata.isTerminating = true) (awaited : p.metadata.finalizerList ≠ []) :
    (cleanup policy p).Ends (Departed p s) s := by
  unfold cleanup
  refine Program.leads_bind.2 ((Binding.unbindAll_ends filed).mono ?_)
  rintro r u (⟨fails, rfl, e, rfl⟩ | ⟨lists, results, complete, swept, rfl⟩)
  · refine .failed rfl (fun _ he => by cases he) fun _ unhindered => ?_
    exact Bool.false_ne_true (unhindered.1.symm.trans fails)
  · cases result : Binding.outcome results with
    | error e =>
      obtain ⟨rfl, -⟩ := Binding.outcome_eq_error result
      refine .failed swept.rest.pullers ?_ fun calm unhindered => ?_
      · rintro errors ⟨⟩
        exact swept.blames complete
      · -- Where nothing is in the way, every account is unbound, and this is no failure.
        have fine : ∀ key e, (key, .error e) ∉ results := fun key e hmem =>
          swept.no_error calm (unhindered.2 key (complete ▸ List.mem_map.2 ⟨_, hmem, rfl⟩)) e hmem
        rw [Binding.outcome_eq_ok_iff.2 ⟨fine, rfl⟩] at result
        cases result
    | ok n =>
      have fine := (Binding.outcome_eq_ok_iff.1 result).1
      have stored : u.pullers.get? p.name = some p := by
        rw [swept.rest.pullers]
        exact stored
      refine Program.leads_bind.2 (Program.leads_bind.2 (Program.leads_liftM.2
        (((Finalizer.release_ends stored).and
          (Finalizer.release_puller stored terminating awaited)).mono ?_)))
      rintro (e | _) t ⟨⟨tended, -⟩, gone, kept, calm⟩
      · refine .failed ((kept e rfl).trans swept.rest.pullers) (fun _ he => by cases he) ?_
        intro none
        cases calm (Nat.le_zero.1 (none ▸ swept.rest.pendingConflicts))
      · refine .done ?_ (gone rfl) ⟨lists, swept.spared complete fine⟩
        have accounts : t.serviceAccounts = u.serviceAccounts := tended.serviceAccounts
        have freed := swept.freed complete fine
        exact ⟨accounts ▸ freed.bound, accounts ▸ freed.free⟩

/-- The reconcile of a stored puller that is to be deleted. -/
theorem reconcile_departed (filed : s.Filed) (awaited : s.Awaited)
    (stored : s.pullers.get? name = some p) (terminating : p.metadata.isTerminating = true) :
    (reconcile config name).Ends (Departed p s) s := by
  have guarded := awaited name p stored terminating
  obtain rfl : p.name = name := filed.pullers name p stored
  exact leads_reconcile_of_terminating stored terminating trivial
    ((cleanup_departed filed stored terminating guarded).mono fun r t h => h.map _)

/-- How the reconcile of a puller that is to be deleted ends, whatever faults there are. It never
touches a secret, a namespace or another puller. When it succeeds, every bound account has lost one
occurrence of the secret, and the puller has been let go. When it fails, the puller is as before,
and an account has lost one occurrence at most; if accounts were in the way, the failure names
those that are as before. Without pending conflicts it fails only where lists fail or a bound
account is in a broken namespace. -/
theorem departed_of_reconcile {σ : Type} (w : Surroundings σ) (config : Config) {x : σ}
    {l : List Step} (history : w.cluster x = Cluster.empty.steps l)
    (unmarked : ∀ p, .change (.createPuller p) ∈ l → p.metadata.deletionTimestamp = none)
    (stored : (w.cluster x).pullers.get? name = some p)
    (terminating : p.metadata.isTerminating = true) :
    let s := w.cluster x
    let r := (reconcile config name).run w.toHandler x
    let t := w.cluster r.2
    (t.secrets = s.secrets ∧ t.namespaces = s.namespaces ∧
      ∀ other, other ≠ name → t.pullers.get? other = s.pullers.get? other) ∧
      (∀ action, r.1 = .ok action → s.Freed t ∧ p.LetGo t) ∧
      (∀ e, r.1 = .error e → t.pullers.get? name = some p ∧
        (∀ key, Option.Rel ServiceAccount.Loosened (s.serviceAccounts.get? key)
          (t.serviceAccounts.get? key)) ∧
        ∀ errors, e = .several errors → s.Blames t errors) ∧
      (s.pendingConflicts = 0 → ((∃ action, r.1 = .ok action) ↔ Unhindered s)) := by
  intro s r t
  have sound : s.Sound := by
    show (w.cluster x).Sound
    rw [history]
    refine Cluster.sound_empty.steps ?_
    rintro d hd q rfl
    rw [Metadata.isTerminating, unmarked q hd]
    rfl
  have named : p.name = name := sound.filed.pullers name p stored
  have bypassed : Bypassed p s t := (reconcile_bypassed sound.filed stored terminating).run
  have departed : Departed p s r.1 t :=
    (reconcile_departed sound.filed sound.awaited stored terminating).run
  refine ⟨⟨bypassed.secrets, bypassed.namespaces, named ▸ bypassed.pullers⟩, ?_⟩
  -- The result is an index of the ways in which cleaning up ends, so it has to be a variable.
  generalize r.1 = result at departed
  cases departed with
  | done freed gone spared =>
    refine ⟨fun _ _ => ⟨freed, gone⟩, ?_, fun _ => ⟨fun _ => spared, fun _ => ⟨_, rfl⟩⟩⟩
    intro e he
    cases he
  | failed stays blames hindered =>
    refine ⟨?_, ?_, fun calm => ⟨?_, fun spared => absurd spared (hindered calm)⟩⟩
    · intro action fine
      cases fine
    · rintro e ⟨⟩
      exact ⟨stays ▸ stored, bypassed.accounts, blames⟩
    · rintro ⟨action, fine⟩
      cases fine

/-- What leads to a puller that is to be deleted, kept by another finalizer as well, with an
account in each of two namespaces that clients have bound. -/
def departing : List Step :=
  let account (inNamespace : String) (names : List String) : ServiceAccount := {
    metadata := { name := some "default", inNamespace := some inNamespace }
    imagePullSecrets := some names }
  [.change (.addNamespace "default" .empty), .change (.addNamespace "kube-system" .empty),
    .change (.addServiceAccount "default" "default"),
    .change (.addServiceAccount "kube-system" "default"),
    .call (.replaceServiceAccount (account "default" ["mine", Names.secret])),
    .call (.replaceServiceAccount (account "kube-system" [Names.secret, "yours", Names.secret])),
    .change (.createPuller (Puller.sample.withFinalizers ["other", Names.finalizer])),
    .change (.deletePuller "creds1" ⟨0, false⟩)]

/-- While a namespace is broken, the puller stays, and the failure names the account there; the
other account has lost the first one of two occurrences. When the namespace is healed, the puller
is left to the other finalizer. -/
theorem departed_of_reconcile_departing :
    let broken := Cluster.empty.steps (departing ++ [.change (.breakNamespace "default")])
    let r := (reconcile {} "creds1").run (Cluster.alone "").toHandler broken
    let healed := Cluster.empty.steps departing
    let t := ((reconcile {} "creds1").run (Cluster.alone "").toHandler healed).2
    (∃ errors, r.1 = .error (.several errors) ∧ broken.Blames r.2 errors ∧ errors.entries = [
        "service account default/default: API error 500: injected write failure for " ++
          "ServiceAccount default/default"]) ∧
      r.2.pullers.get? "creds1" = broken.pullers.get? "creds1" ∧
      (r.2.serviceAccounts.get? ⟨"kube-system", "default"⟩).map (·.pullSecretList) =
        some ["yours", Names.secret] ∧
      healed.Freed t ∧
      (t.pullers.get? "creds1").map (·.metadata.finalizerList) = some ["other"] := by
  intro broken r healed t
  have unmarked : ∀ p, Step.change (.createPuller p) ∈
      departing ++ [.change (.breakNamespace "default")] →
      p.metadata.deletionTimestamp = none := by
    intro p hp
    obtain rfl : p = Puller.sample.withFinalizers ["other", Names.finalizer] := by
      simpa [departing] using hp
    rfl
  have there : (broken.pullers.get? "creds1").any (·.metadata.isTerminating) = true ∧
      (healed.pullers.get? "creds1").map (fun p =>
        (p.metadata.isTerminating, p.name, p.otherFinalizers)) =
          some (true, "creds1", ["other"]) := by decide +kernel
  have seen : (match r.1 with | .error (.several errors) => some errors.entries | _ => none) =
        some ["service account default/default: API error 500: injected write failure for " ++
          "ServiceAccount default/default"] ∧
      (r.2.serviceAccounts.get? ⟨"kube-system", "default"⟩).map (·.pullSecretList) =
        some ["yours", Names.secret] ∧
      ((reconcile {} "creds1").run (Cluster.alone "").toHandler healed).1.toOption =
        some .awaitChange := by decide +kernel
  obtain ⟨there, there'⟩ := there
  obtain ⟨failed, lists, fine⟩ := seen
  obtain ⟨p, stored, terminating⟩ := (Option.any_eq_true _ _).1 there
  obtain ⟨q, stored', marked⟩ := Option.map_eq_some_iff.1 there'
  have ended := departed_of_reconcile (Cluster.alone "") {} (x := broken)
    (l := departing ++ [.change (.breakNamespace "default")]) rfl unmarked stored terminating
  have ended' := departed_of_reconcile (Cluster.alone "") {} (x := healed) (l := departing) rfl
    (fun p hp => unmarked p (List.mem_append_left _ hp)) stored'
    (congrArg Prod.fst marked)
  -- No more is evaluated from here on.
  clear_value broken healed
  obtain ⟨-, -, kept, -⟩ := ended
  obtain ⟨-, done, -, -⟩ := ended'
  obtain ⟨freed, gone⟩ := done _ (eq_ok_of_toOption fine)
  rw [Prod.mk.injEq, Prod.mk.injEq] at marked
  obtain ⟨-, named, others⟩ := marked
  obtain ⟨errors, result, entries⟩ : ∃ errors, r.1 = .error (.several errors) ∧
      errors.entries = ["service account default/default: API error 500: injected write failure " ++
        "for ServiceAccount default/default"] := by
    revert failed
    rcases r.1 with (e | errors) | action
    · exact fun failed => by cases failed
    · exact fun failed => ⟨errors, rfl, Option.some.inj failed⟩
    · exact fun failed => by cases failed
  obtain ⟨same, -, blames⟩ := kept _ result
  refine ⟨⟨errors, result, blames errors rfl, entries⟩, same.trans stored.symm, lists, freed, ?_⟩
  obtain ⟨q', stored_t, finalizers, -⟩ := gone.kept (others ▸ List.cons_ne_nil _ _)
  change t.pullers.get? q.name = some q' at stored_t
  rw [← named, stored_t, Option.map_some, finalizers, others]

end Reconcile

end PullSecrets
