import PullSecrets.Proofs.Bystanders
import PullSecrets.Proofs.Counting

/-!
# The owners of a secret

Every puller that gives a namespace its secret becomes an owner of it, and a managing one. Owners
are told apart by their identities, and they are never taken away, so a secret has as many managing
owners as different pullers have given it to its namespace: pullers whose selectors choose the same
namespace, or pullers of one name that were created one after the other.

## Main facts

* `PullSecret.Ensured.ownersIn_eq`: what giving a namespace its secret does to the owners.
* `Reconcile.reconcile_claimed`: what a reconcile does to them, where there are no faults.
* `ownersIn_turns`: the owners after any ordinary turns.
* `controlled_once_iff`: when a secret has one managing owner at most.
* `controlled_twice`: a secret that has two of them.
-/

namespace PullSecrets

open Cluster (Alike)
open Program (Ends Leads)

/-! ## Owners that are added one after the other -/

namespace PullSecret

variable {owners claims : List OwnerReference} {o : OwnerReference}

/-- Owners that are there, with all that claim the object. -/
def addOwners (owners claims : List OwnerReference) : List OwnerReference :=
  claims.foldl addOwner owners

theorem addOwners_append (owners claims more : List OwnerReference) :
    addOwners owners (claims ++ more) = addOwners (addOwners owners claims) more :=
  List.foldl_append

/-- An owner that is there is not added again. -/
theorem addOwner_of_isOwner (h : isOwner owners o = true) : addOwner owners o = owners := by
  rw [addOwner, if_pos h]

/-- The owners are those that were there and those that claim. -/
theorem mem_or_mem_of_mem_addOwners (h : o ∈ addOwners owners claims) :
    o ∈ owners ∨ o ∈ claims := by
  induction claims generalizing owners with
  | nil => exact .inl h
  | cons claim claims ih =>
    rcases ih h with before | later
    · rw [addOwner] at before
      split at before
      · exact .inl before
      · rcases List.mem_append.1 before with before | claimed
        · exact .inl before
        · exact .inr (List.mem_singleton.1 claimed ▸ List.mem_cons_self)
    · exact .inr (List.mem_cons_of_mem claim later)

theorem isOwner_addOwners_of_isOwner (h : isOwner owners o = true) :
    isOwner (addOwners owners claims) o = true := by
  induction claims generalizing owners with
  | nil => exact h
  | cons claim claims ih =>
    obtain ⟨other, there, same⟩ := isOwner_iff.1 h
    exact ih (isOwner_iff.2 ⟨other, mem_addOwner there, same⟩)

/-- Whoever claims the object is among its owners. -/
theorem isOwner_addOwners_of_mem (h : o ∈ claims) : isOwner (addOwners owners claims) o = true := by
  induction claims generalizing owners with
  | nil => cases h
  | cons claim claims ih =>
    rcases List.mem_cons.1 h with rfl | later
    · show isOwner (addOwners (addOwner owners o) claims) o = true
      exact isOwner_addOwners_of_isOwner (isOwner_addOwner owners o)
    · exact ih later

/-- No two owners have the same identity. -/
theorem nodup_addOwners (h : (owners.map (·.uid)).Nodup) :
    ((addOwners owners claims).map (·.uid)).Nodup := by
  induction claims generalizing owners with
  | nil => exact h
  | cons claim claims ih =>
    refine ih ?_
    rw [addOwner]
    split
    · exact h
    next absent =>
      rw [List.map_append, List.map_singleton, List.nodup_append]
      refine ⟨h, List.pairwise_singleton _ _, fun uid there uid' claimed same => ?_⟩
      obtain ⟨other, listed, rfl⟩ := List.mem_map.1 there
      rw [List.mem_singleton.1 claimed] at same
      exact absent (isOwner_iff.2 ⟨other, listed, same⟩)

/-- There is one owner at most if and only if all that claim the object have one identity. -/
theorem length_addOwners_le_one_iff :
    (addOwners [] claims).length ≤ 1 ↔ ∀ o ∈ claims, ∀ o' ∈ claims, o.uid = o'.uid := by
  have claimed (o : OwnerReference) (h : o ∈ addOwners [] claims) : o ∈ claims :=
    (mem_or_mem_of_mem_addOwners h).resolve_left List.not_mem_nil
  have owned (o : OwnerReference) (h : o ∈ claims) : ∃ r ∈ addOwners [] claims, r.uid = o.uid :=
    isOwner_iff.1 (isOwner_addOwners_of_mem h)
  have distinct : ((addOwners [] claims).map (·.uid)).Nodup := nodup_addOwners List.nodup_nil
  generalize addOwners [] claims = result at claimed owned distinct ⊢
  match result with
  | [] =>
    refine iff_of_true (Nat.zero_le 1) fun o ho => ?_
    obtain ⟨r, there, -⟩ := owned o ho
    cases there
  | [r] =>
    refine iff_of_true (Nat.le_refl 1) fun o ho o' ho' => ?_
    obtain ⟨_, there, same⟩ := owned o ho
    obtain ⟨_, there', same'⟩ := owned o' ho'
    rw [← same, ← same', List.mem_singleton.1 there, List.mem_singleton.1 there']
  | r :: r' :: rest =>
    refine iff_of_false (by simp) fun alike => ?_
    have same : r.uid = r'.uid := alike r (claimed r (by simp)) r' (claimed r' (by simp))
    simp [same] at distinct

end PullSecret

/-! ## Clusters without faults -/

namespace Cluster

variable {s t : Cluster} {n : String}

/-- The owners of the secret of a namespace. -/
def ownersIn (s : Cluster) (n : String) : List OwnerReference :=
  ((s.secrets.get? ⟨n, Names.secret⟩).map (·.metadata.ownerList)).getD []

theorem ownersIn_congr (same : t.secrets = s.secrets) (n : String) :
    t.ownersIn n = s.ownersIn n := by
  rw [ownersIn, ownersIn, same]

/-- No faults have been set up, or all of them are used up. -/
structure Faultless (s : Cluster) : Prop where
  lists : s.listsFail = false
  calm : s.pendingConflicts = 0
  spared : s.failingNamespaces = []

theorem Faultless.of_alike {u : Cluster} (h : s.Faultless) (same : u.Alike t)
    (lists : u.listsFail = s.listsFail) (spared : u.failingNamespaces = s.failingNamespaces)
    (calm : u.pendingConflicts = s.pendingConflicts) : t.Faultless where
  lists := same.listsFail.trans (lists.trans h.lists)
  calm := Nat.le_zero.1 (h.calm ▸ calm ▸ same.pendingConflicts)
  spared := same.failingNamespaces.trans (spared.trans h.spared)

/-- Calls set up no faults. -/
theorem Faultless.answer (h : s.Faultless) (c : Call) : (s.answer c).2.Faultless := by
  cases c with
  | getPuller | listNamespaces | getSecret | listServiceAccounts | getServiceAccount => exact h
  | replacePuller p =>
    rcases replacePuller_cases p s with ⟨-, same⟩ | ⟨_, _, -, -, ⟨-, -, same⟩ | ⟨-, same⟩⟩
    · exact h.of_alike same rfl rfl rfl
    · exact h.of_alike same rfl rfl rfl
    · exact h.of_alike same rfl rfl rfl
  | replacePullerStatus p =>
    rcases replacePullerStatus_cases p s with ⟨-, same⟩ | ⟨_, _, -, -, same⟩
    · exact h.of_alike same rfl rfl rfl
    · exact h.of_alike same rfl rfl rfl
  | createSecret x =>
    rcases createSecret_cases x s with ⟨-, same⟩ | ⟨_, _, _, -, -, -, same⟩
    · exact h.of_alike same rfl rfl rfl
    · exact h.of_alike same rfl rfl rfl
  | replaceSecret x =>
    rcases replaceSecret_cases x s with ⟨-, same⟩ | ⟨_, _, _, -, -, -, same⟩
    · exact h.of_alike same rfl rfl rfl
    · exact h.of_alike same rfl rfl rfl
  | replaceServiceAccount a =>
    rcases replaceServiceAccount_cases a s with ⟨-, same⟩ | ⟨_, _, _, -, -, -, same⟩
    · exact h.of_alike same rfl rfl rfl
    · exact h.of_alike same rfl rfl rfl

/-- A selector without meaning chooses no namespace. -/
theorem targets_of_not_valid {selector : Option LabelSelector}
    (invalid : ¬ LabelSelector.Valid selector) : s.targets selector = [] := by
  rw [List.eq_nil_iff_forall_not_mem]
  intro n target
  obtain ⟨ns, -, chosen⟩ := mem_targets.1 target
  refine invalid fun l hl => ?_
  obtain rfl := hl
  rw [Namespace.isChosen_some_iff] at chosen
  cases checked : l.validate with
  | ok _ => rfl
  | error e =>
    rw [(l.selects_error_iff _ e).2 checked] at chosen
    cases chosen

end Cluster

/-! ## Giving namespaces their secrets -/

/-- The secret that is wanted has the puller for its only owner. -/
theorem PullSecret.ownerList_wanted (p : Puller) (document : ByteArray) (n : String) :
    (wanted p document n).metadata.ownerList = p.owner?.toList := by
  rw [wanted, Metadata.ownerList]
  cases p.owner? <;> rfl

/-- A secret that is merged has the owners that it had and those that are wanted. -/
theorem PullSecret.ownerList_merge (current wanted : Secret) :
    (merge current wanted).metadata.ownerList =
      addOwners current.metadata.ownerList wanted.metadata.ownerList := by
  rw [merge, Metadata.ownerList]
  dsimp only
  split
  next none =>
    rw [List.isEmpty_iff.1 none]
    rfl
  next => rfl

/-- What a namespace that is given its secret by a puller gets as owners. -/
theorem PullSecret.Ensured.ownersIn_eq {policy : RetryPolicy} {p : Puller} {n : String}
    {s t : Cluster} {r : Except StoreError Bool}
    (h : Ensured policy (wanted p p.document n) ⟨n, Names.secret⟩ s r t) (clear : s.Faultless) :
    t.ownersIn n = addOwners (s.ownersIn n) p.owner?.toList ∧
      ∀ m, m ≠ n → t.ownersIn m = s.ownersIn m := by
  have elsewhere : ∀ m, m ≠ n → t.ownersIn m = s.ownersIn m := fun m hm => by
    have other : (⟨m, Names.secret⟩ : ObjectKey) ≠ ⟨n, Names.secret⟩ := by simp [hm]
    rw [Cluster.ownersIn, Cluster.ownersIn, h.frame.2 _ other]
  refine ⟨?_, elsewhere⟩
  have spared : s.Open (some n) := fun ns _ broken => by simp [clear.spared] at broken
  cases h with
  | @current old stored same =>
    rw [Cluster.ownersIn, stored]
    cases owner : p.owner? with
    | none => rfl
    | some o =>
      have present : isOwner old.metadata.ownerList o = true := by
        obtain ⟨name, named, identified⟩ := uid_of_owner? owner
        obtain ⟨o', there, same'⟩ :=
          ((isCurrent_wanted_iff n).1 same).owner name o.uid named identified
        exact isOwner_iff.2 ⟨o', there, same'⟩
      exact (addOwner_of_isOwner present).symm
  | @merged old _ _ stored differs ended =>
    obtain ⟨-, rfl⟩ := ended.of_calm clear.calm spared policy.budget_pos
    have merged : (merge old (wanted p p.document n)).metadata.ownerList =
        addOwners old.metadata.ownerList p.owner?.toList := by
      rw [ownerList_merge, ownerList_wanted]
    rw [Cluster.ownersIn, Cluster.ownersIn, stored]
    simpa [Cluster.putSecret, Secret.stamp, Metadata.stamp, Metadata.ownerList] using merged
  | created free ended =>
    obtain ⟨-, rfl⟩ := ended.of_calm clear.calm spared policy.budget_pos
    have alone : addOwners [] p.owner?.toList = p.owner?.toList := by
      cases p.owner? <;> rfl
    have created : (wanted p p.document n).metadata.ownerList =
        addOwners [] p.owner?.toList := (ownerList_wanted p p.document n).trans alone.symm
    rw [Cluster.ownersIn, Cluster.ownersIn, free]
    simpa [Cluster.addSecret, Secret.identified, Metadata.ownerList] using created

namespace Reconcile

variable {policy : RetryPolicy} {config : Config} {p q : Puller} {n name : String}
  {s t u : Cluster}

/-- Where there are no faults, the puller has become an owner in each of some namespaces, and
nothing has changed in the others. -/
structure Claimed (p : Puller) (given : List String) (s t : Cluster) : Prop where
  clear : t.Faultless
  within : ∀ n ∈ given, t.ownersIn n = PullSecret.addOwners (s.ownersIn n) p.owner?.toList
  elsewhere : ∀ n, n ∉ given → t.ownersIn n = s.ownersIn n

theorem Claimed.nil (p : Puller) (clear : s.Faultless) : Claimed p [] s s :=
  ⟨clear, nofun, fun _ _ => rfl⟩

/-- Steps that change neither secrets nor faults. -/
theorem Claimed.congr {given : List String} {s' t' : Cluster} (h : Claimed p given s t)
    (before : s.secrets = s'.secrets) (after : t'.secrets = t.secrets) (clear : t'.Faultless) :
    Claimed p given s' t' where
  clear := clear
  within := fun n hn => by
    rw [Cluster.ownersIn_congr after, h.within n hn, Cluster.ownersIn_congr before]
  elsewhere := fun n hn => by
    rw [Cluster.ownersIn_congr after, h.elsewhere n hn, Cluster.ownersIn_congr before]

/-- A program ends without faults where it starts without them. -/
theorem ends_faultless {ε α : Type} (program : Program ε α) (clear : s.Faultless) :
    program.Ends (fun _ t => t.Faultless) s :=
  (Program.Keeps.of_calls (fun _ c before => before.answer c) program s clear).ends

/-- Working on a namespace that is there. -/
theorem ensureNamespace_claimed (filed : s.Filed) (clear : s.Faultless)
    (there : s.namespaces.contains n = true) :
    (ensureNamespace policy p p.document n).Ends (fun _ t => Claimed p [n] s t) s := by
  suffices given : (ensureNamespace policy p p.document n).Ends (fun _ t =>
      t.ownersIn n = PullSecret.addOwners (s.ownersIn n) p.owner?.toList ∧
        ∀ m, m ≠ n → t.ownersIn m = s.ownersIn m) s by
    refine (given.and (ends_faultless _ clear)).mono ?_
    rintro r t ⟨⟨own, others⟩, clear_t⟩
    exact ⟨clear_t, fun m hm => List.mem_singleton.1 hm ▸ own,
      fun m hm => others m fun here => hm (List.mem_singleton.2 here)⟩
  unfold ensureNamespace
  have secret := PullSecret.ensure_ends policy (PullSecret.key_wanted p p.document n) filed there
  refine Program.leads_bind.2 (Program.leads_liftM.2
    ((secret.and (Program.ends_filed _ filed)).mono ?_))
  rintro (e | b) u ⟨ensured, filed_u⟩
  · exact ensured.ownersIn_eq clear
  · obtain ⟨own, others⟩ := ensured.ownersIn_eq clear
    refine Program.leads_bind.2 ((Binding.bindAll_ends filed_u n).mono ?_)
    rintro r t (⟨-, rfl, e, rfl⟩ | ⟨-, results, -, swept, rfl⟩)
    · exact ⟨own, others⟩
    · have same := Cluster.ownersIn_congr swept.rest.secrets
      have bound : t.ownersIn n = PullSecret.addOwners (s.ownersIn n) p.owner?.toList ∧
          ∀ m, m ≠ n → t.ownersIn m = s.ownersIn m :=
        ⟨(same n).trans own, fun m hm => (same m).trans (others m hm)⟩
      cases Binding.outcome results with
      | error e => exact bound
      | ok count => exact bound

/-- Working on one more namespace. -/
theorem Claimed.snoc {given : List String} (h : Claimed p given s t) (next : Claimed p [n] t u)
    (new : n ∉ given) : Claimed p (given ++ [n]) s u where
  clear := next.clear
  within := by
    intro m hm
    rcases List.mem_append.1 hm with before | here
    · have other : m ∉ [n] := fun here => new (List.mem_singleton.1 here ▸ before)
      rw [next.elsewhere m other, h.within m before]
    · obtain rfl := List.mem_singleton.1 here
      rw [next.within m here, h.elsewhere m new]
  elsewhere := by
    intro m hm
    rw [List.mem_append, not_or] at hm
    rw [next.elsewhere m hm.2, h.elsewhere m hm.1]

/-- Working on all targets. -/
theorem converge_claimed (filed : s.Filed) (clear : s.Faultless) :
    (converge policy p).Ends
      (fun _ t => Claimed p (s.targets p.spec.namespaceSelector) s t) s := by
  unfold converge
  refine Program.leads_bind.2 (Program.leads_liftM.2 ((Target.resolve_ends filed _).mono ?_))
  rintro r t ⟨same, found⟩
  obtain rfl := same.symm
  rcases found with rfl | ⟨⟨e, rfl⟩, reason⟩
  · refine Program.leads_bind.2 ((Leads.forEach
      (fun results u => (Claimed p (results.map (·.1)) s u ∧ s.Worked u) ∧ u.Filed) ?_
      ⟨⟨.nil p clear, .refl s⟩, filed⟩).mono ?_)
    · rintro results n rest u targets ⟨⟨claimed, worked⟩, filed_u⟩
      have target : n ∈ s.targets p.spec.namespaceSelector := by
        rw [targets]
        exact List.mem_append_right _ List.mem_cons_self
      have there : u.namespaces.contains n = true := by
        rw [worked.namespaces]
        exact Cluster.contains_of_mem_targets target
      have new := Program.not_mem_of_reached (s.nodup_targets _) targets
      refine (((ensureNamespace_claimed filed_u claimed.clear there).and
        (ensureNamespace_ends filed_u there)).and (Program.ends_filed _ filed_u)).mono ?_
      rintro r v ⟨⟨next, worked', -⟩, filed_v⟩
      rw [List.map_append]
      exact ⟨⟨claimed.snoc next new, worked.trans worked'⟩, filed_v⟩
    · rintro _ u ⟨results, rfl, complete, ⟨claimed, -⟩, -⟩
      exact Program.leads_settle.2 (complete ▸ claimed)
  · -- Listing fails only because of the selector, and then there are no targets.
    have invalid : ¬ LabelSelector.Valid p.spec.namespaceSelector :=
      reason.resolve_left fun fails => Bool.false_ne_true (clear.lists.symm.trans fails)
    rw [Cluster.targets_of_not_valid invalid]
    exact .nil p clear

/-! ## Whole reconciles -/

/-- The reconcile of a stored puller that is not to be deleted. -/
theorem reconcile_claimed (filed : s.Filed) (clear : s.Faultless)
    (stored : s.pullers.get? name = some p) (live : p.metadata.isTerminating = false) :
    (reconcile config name).Ends
      (fun _ t => Claimed p (s.targets p.spec.namespaceSelector) s t) s := by
  obtain rfl : p.name = name := filed.pullers name p stored
  refine leads_reconcile_of_live stored live trivial ((((Finalizer.ensure_ends stored).and
    (Program.ends_filed _ filed)).and (ends_faultless _ clear)).mono ?_)
  rintro (e | q) u ⟨⟨⟨guarded, ok, always⟩, filed_u⟩, clear_u⟩
  · obtain ⟨q, hq⟩ := always clear.calm
    cases hq
  · obtain ⟨stored_u, -, akin⟩ := ok q rfl
    rw [← akin.name_eq] at stored_u
    have targets : u.targets q.spec.namespaceSelector = s.targets p.spec.namespaceSelector := by
      rw [akin.spec]
      exact Cluster.targets_congr _ guarded.namespaces
    have owner : q.owner? = p.owner? := by
      obtain ⟨-, _, _, metadata⟩ := akin
      rw [Puller.owner?, metadata]
      rfl
    refine leads_sync (((converge_claimed filed_u clear_u).and (converge_ends filed_u)).mono ?_)
    rintro r v ⟨claimed, converging⟩ readyTime errorTime
    have stored_v : v.pullers.get? q.name = some q := by
      rw [converging.worked.pullers]
      exact stored_u
    refine ((Report.update_ends stored_v _).and (ends_faultless _ claimed.clear)).mono ?_
    rintro b t ⟨⟨tended, -⟩, clear_t⟩
    have reported := claimed.congr guarded.secrets tended.secrets clear_t
    rw [targets] at reported
    have reported : Claimed p (s.targets p.spec.namespaceSelector) s t :=
      ⟨reported.clear, owner ▸ reported.within, reported.elsewhere⟩
    cases b with
    | error e => exact reported
    | ok b => exact reported

/-- The reconcile of a puller that is not stored. -/
theorem reads_reconcile_of_missing (config : Config) (missing : s.pullers.get? name = none) :
    (reconcile config name).Reads .awaitChange s := by
  have steps : (steps config name).Reads .awaitChange s := by
    refine Program.Reads.bind (Program.Reads.liftM
      (Program.Reads.ask (v := s.pullers.get? name) rfl rfl)) ?_
    simp only [missing]
    exact Program.Reads.pure
  refine Program.Reads.leave.bind (steps.attempt.bind (Program.Reads.leave.bind ?_))
  exact Program.Reads.pure

end Reconcile

/-! ## Ordinary turns -/

/-- Whether a turn is part of ordinary work: no faults are set up, and nobody but the reconciles
writes secrets. -/
def Turn.isOrdinary : Turn → Bool
  | .reconcile .. => true
  | .step (.change (.addNamespace ..)) | .step (.change (.addServiceAccount ..))
  | .step (.change (.createPuller _)) | .step (.change (.editPuller ..))
  | .step (.change (.deletePuller ..)) => true
  | .step _ => false

/-- The puller of a reconcile as an owner of the secret of a namespace: it is stored, it is not to
be deleted, and it chooses the namespace. -/
def Episode.claims (e : Episode) (n : String) : List OwnerReference :=
  match e.before.cluster.pullers.get? e.name with
  | some p =>
    if p.metadata.isTerminating = false ∧ n ∈ e.before.cluster.targets p.spec.namespaceSelector then
      p.owner?.toList
    else []
  | none => []

/-- The changes of ordinary work leave secrets and faults alone. -/
theorem Cluster.step_of_isOrdinary {s : Cluster} {d : Step}
    (ordinary : (Turn.step d).isOrdinary = true) (clear : s.Faultless) :
    (s.step d).secrets = s.secrets ∧ (s.step d).Faultless := by
  obtain ⟨lists, calm, spared⟩ := clear
  cases d with
  | call c => cases ordinary
  | change c =>
    cases c with
    | addNamespace | addServiceAccount | createPuller => exact ⟨rfl, lists, calm, spared⟩
    | editPuller name spec =>
      show (s.editPuller name spec).secrets = _ ∧ (s.editPuller name spec).Faultless
      rw [editPuller]
      dsimp only
      split
      · exact ⟨rfl, lists, calm, spared⟩
      · exact ⟨rfl, lists, calm, spared⟩
    | deletePuller name time =>
      show (s.deletePuller name time).2.secrets = _ ∧ (s.deletePuller name time).2.Faultless
      rw [deletePuller]
      dsimp only
      split
      · exact ⟨rfl, lists, calm, spared⟩
      · split
        · exact ⟨rfl, lists, calm, spared⟩
        · exact ⟨rfl, lists, calm, spared⟩
    | deleteSecret | breakNamespace | healNamespace | breakLists | healLists | injectConflicts =>
      cases ordinary

/-- A puller is a managing owner. -/
theorem Episode.controller_of_mem_claims {e : Episode} {n : String} {o : OwnerReference}
    (h : o ∈ e.claims n) : o.controller = some true := by
  rw [claims] at h
  split at h
  next p stored =>
    split at h
    · rw [Option.mem_toList, Puller.owner?] at h
      simp only [Option.bind_eq_bind, Option.bind_eq_some_iff, Option.some.injEq] at h
      obtain ⟨name, -, uid, -, rfl⟩ := h
      rfl
    · cases h
  next => cases h

section Turns

variable (times : Nat → String) {x : Scene}

/-- A reconcile without faults adds its puller to the owners of the secrets that it gives, and
changes no other owners. -/
theorem Episode.ownersIn_after {e : Episode} (reachable : Reachable e.before.cluster)
    (clear : e.before.cluster.Faultless) :
    (e.after times).cluster.Faultless ∧ ∀ n, (e.after times).cluster.ownersIn n =
      PullSecret.addOwners (e.before.cluster.ownersIn n) (e.claims n) := by
  have filed := reachable.filed
  have clear_after : (e.after times).cluster.Faultless :=
    (Reconcile.ends_faultless (Reconcile.reconcile e.config e.name) clear).run
      (w := Scene.surroundings times)
  refine ⟨clear_after, fun n => ?_⟩
  cases stored : e.before.cluster.pullers.get? e.name with
  | none =>
    have same : (e.after times).cluster = e.before.cluster :=
      (Leads.run (w := Scene.surroundings times)
        (Reconcile.reads_reconcile_of_missing e.config stored)).2
    rw [Episode.claims, stored, same]
    rfl
  | some p =>
    rw [Episode.claims, stored]
    dsimp only
    cases terminating : p.metadata.isTerminating with
    | true =>
      have bypassed : Reconcile.Bypassed p e.before.cluster (e.after times).cluster :=
        (Reconcile.reconcile_bypassed filed stored terminating).run (w := Scene.surroundings times)
      rw [if_neg (by simp), Cluster.ownersIn_congr bypassed.secrets]
      rfl
    | false =>
      have claimed : Reconcile.Claimed p (e.before.cluster.targets p.spec.namespaceSelector)
          e.before.cluster (e.after times).cluster :=
        (Reconcile.reconcile_claimed filed clear stored terminating).run
          (w := Scene.surroundings times)
      by_cases target : n ∈ e.before.cluster.targets p.spec.namespaceSelector
      · rw [if_pos ⟨rfl, target⟩]
        exact claimed.within n target
      · rw [if_neg fun h => target h.2]
        exact claimed.elsewhere n target

/-- The owners of a secret after ordinary turns: those before, and all pullers that have given the
secret to its namespace meanwhile. -/
theorem ownersIn_turns (l : List Turn) (ordinary : ∀ d ∈ l, d.isOrdinary = true)
    (reachable : Reachable x.cluster) (clear : x.cluster.Faultless) (n : String) :
    (x.turns times l).cluster.ownersIn n = PullSecret.addOwners (x.cluster.ownersIn n)
      ((x.episodes times l).flatMap (·.claims n)) := by
  induction l generalizing x with
  | nil => rfl
  | cons d l ih =>
    have later := ih (fun d' hd' => ordinary d' (List.mem_cons_of_mem d hd'))
      (Scene.reachable_turn times reachable d)
    have now := ordinary d List.mem_cons_self
    cases d with
    | reconcile config name =>
      obtain ⟨clear', added⟩ :=
        Episode.ownersIn_after times (e := ⟨x, config, name⟩) reachable clear
      rw [Scene.episodes, List.flatMap_cons, PullSecret.addOwners_append, ← added n]
      exact later clear'
    | step d =>
      obtain ⟨same, clear'⟩ := Cluster.step_of_isOrdinary now clear
      rw [← Cluster.ownersIn_congr same]
      exact later clear'

/-- After ordinary turns from the empty cluster, the owners of a secret are all pullers that have
given it to its namespace, each identity once, and all of them are managing owners. So there is one
managing owner at most if and only if all of these pullers have one identity. -/
theorem controlled_once_iff (l : List Turn) (ordinary : ∀ d ∈ l, d.isOrdinary = true) {n : String}
    {secret : Secret}
    (stored : (Scene.turns times { cluster := .empty } l).cluster.secrets.get?
      ⟨n, Names.secret⟩ = some secret) :
    let claims := (Scene.episodes times { cluster := .empty } l).flatMap (·.claims n)
    let controllers := secret.metadata.ownerList.filter (·.controller == some true)
    secret.metadata.ownerList = PullSecret.addOwners [] claims ∧
      controllers = secret.metadata.ownerList ∧ (controllers.map (·.uid)).Nodup ∧
      (controllers.length ≤ 1 ↔ ∀ o ∈ claims, ∀ o' ∈ claims, o.uid = o'.uid) := by
  intro claims controllers
  have owners := ownersIn_turns times (x := { cluster := .empty }) l ordinary Reachable.empty
    ⟨rfl, rfl, rfl⟩ n
  rw [Cluster.ownersIn, stored] at owners
  have owners : secret.metadata.ownerList = PullSecret.addOwners [] claims := owners
  have managing : ∀ o ∈ claims, o.controller = some true := by
    intro o ho
    obtain ⟨e, -, claimed⟩ := List.mem_flatMap.1 ho
    exact e.controller_of_mem_claims claimed
  have all : controllers = secret.metadata.ownerList := by
    refine List.filter_eq_self.2 fun o ho => ?_
    rw [owners] at ho
    rcases PullSecret.mem_or_mem_of_mem_addOwners ho with before | claimed
    · cases before
    · rw [managing o claimed]
      rfl
  refine ⟨owners, all, ?_, ?_⟩
  · rw [all, owners]
    exact PullSecret.nodup_addOwners List.nodup_nil
  · rw [all, owners]
    exact PullSecret.length_addOwners_le_one_iff

/-- A namespace, a puller of some name that chooses it, and its reconcile. -/
def firstTurns (name : String) : List Turn := [
  .step (.change (.addNamespace "default" .empty)),
  .step (.change (.createPuller { Puller.sample with metadata := { name := some name } })),
  .reconcile {} name]

/-- A puller is reconciled, edited, and reconciled again. -/
theorem controlled_once_iff_sample :
    let l := firstTurns "creds1" ++
      [.step (.change (.editPuller "creds1" {})), .reconcile {} "creds1"]
    ∃ secret, (Scene.turns (fun _ => "") { cluster := .empty } l).cluster.secrets.get?
        ⟨"default", Names.secret⟩ = some secret ∧
      (secret.metadata.ownerList.filter (·.controller == some true)).length ≤ 1 := by
  intro l
  have given : ((Scene.turns (fun _ => "") { cluster := .empty } l).cluster.secrets.get?
      ⟨"default", Names.secret⟩).isSome = true := by decide +kernel
  obtain ⟨secret, stored⟩ := Option.isSome_iff_exists.1 given
  have once := controlled_once_iff (fun _ => "") l (by decide +kernel) stored
  refine ⟨secret, stored, once.2.2.2.2 ?_⟩
  have claims : ((Scene.episodes (fun _ => "") { cluster := .empty } l).flatMap
      (·.claims "default")).map (·.uid) = [Cluster.identityText 2, Cluster.identityText 2] := by
    decide +kernel
  have one : ∀ o ∈ (Scene.episodes (fun _ => "") { cluster := .empty } l).flatMap
      (·.claims "default"), o.uid = Cluster.identityText 2 := fun o ho => by
    simpa [claims] using List.mem_map_of_mem (f := (·.uid)) ho
  exact fun o ho o' ho' => (one o ho).trans (one o' ho').symm

/-- Two pullers of different names choose the same namespace, and each of them is reconciled once.
Then the secret has two managing owners, and the label names one of them. -/
theorem controlled_twice :
    let l := firstTurns "creds1" ++ [
      .step (.change (.createPuller { Puller.sample with metadata := { name := some "creds2" } })),
      .reconcile {} "creds2"]
    (∀ d ∈ l, d.isOrdinary = true) ∧
    ∃ secret, (Scene.turns (fun _ => "") { cluster := .empty } l).cluster.secrets.get?
        ⟨"default", Names.secret⟩ = some secret ∧
      (secret.metadata.ownerList.filter (·.controller == some true)).map (·.name) =
        ["creds1", "creds2"] ∧
      secret.metadata.label? Names.ownerLabel = some "creds2" := by
  intro l
  have seen : ((Scene.turns (fun _ => "") { cluster := .empty } l).cluster.secrets.get?
      ⟨"default", Names.secret⟩).map (fun secret =>
        ((secret.metadata.ownerList.filter (·.controller == some true)).map (·.name),
          secret.metadata.label? Names.ownerLabel)) =
            some (["creds1", "creds2"], some "creds2") := by decide +kernel
  obtain ⟨secret, stored, found⟩ := Option.map_eq_some_iff.1 seen
  exact ⟨by decide +kernel, secret, stored, Prod.mk.inj found⟩

end Turns

end PullSecrets
