import PullSecrets.Proofs.Ledger
import PullSecrets.Proofs.Sync

/-!
# What a reconcile tells of its writes

A secret is told of as soon as it was written, since after that write nothing fails any more in its
namespace. Accounts are told of for a namespace, or for a whole cleanup, once all of them have been
worked on without a failure. So what is told is exact where in each namespace, or in the cluster,
either no account was written or none was left out; otherwise accounts have been written that
nothing tells of.

## Main facts

* `Binding.Swept.honest`: what a sweep tells of the accounts that it has written.
* `Reconcile.posts_ensureNamespace`, `Reconcile.posts_converge`: what a namespace tells of, and all
  targets of a puller.
* `Reconcile.posts_reconcile`: how the writes of a reconcile are counted.
-/

namespace PullSecrets

open Program (ask leave Ends Leads Hushed)

/-! ## Numbers that are told -/

/-- A number that is told of the writes that were made: it is never too large, and it is all of
them if and only if some condition holds. -/
structure Honest (all : Prop) (made count : Nat) : Prop where
  le : count ≤ made
  eq_iff : count = made ↔ all

namespace Honest

variable {all all' : Prop} {made made' count count' : Nat}

theorem of_all (h : all) (made : Nat) : Honest all made made := ⟨Nat.le_refl _, iff_of_true rfl h⟩

theorem congr (h : Honest all made count) (same : all ↔ all') : Honest all' made count :=
  ⟨h.le, h.eq_iff.trans same⟩

theorem add (h : Honest all made count) (h' : Honest all' made' count') :
    Honest (all ∧ all') (made + made') (count + count') := by
  refine ⟨Nat.add_le_add h.le h'.le, ?_⟩
  rw [← h.eq_iff, ← h'.eq_iff]
  have := h.le
  have := h'.le
  omega

end Honest

/-! ## Sweeps -/

/-- Of the accounts at some places, either none has changed or every one has. -/
def Cluster.AllOrNone (keys : List ObjectKey) (s t : Cluster) : Prop :=
  (∀ key ∈ keys, t.serviceAccounts.get? key = s.serviceAccounts.get? key) ∨
    ∀ key ∈ keys, t.serviceAccounts.get? key ≠ s.serviceAccounts.get? key

namespace Binding

variable {policy : RetryPolicy} {change : List String → Option (List String)} {secret n : String}
  {s t : Cluster} {x : Ledger} {results : List (ObjectKey × Except StoreError Bool)}

/-- A change of a list that asks for the same list has nothing to ask for. -/
def Moves (change : List String → Option (List String)) : Prop :=
  ∀ names, change names ≠ some names

theorem moves_appended (secret : String) : Moves (appended secret) := by
  intro names
  unfold appended
  split
  · nofun
  · simp

theorem moves_removed (secret : String) : Moves (removed secret) := by
  intro names
  unfold removed
  split
  next there =>
    intro same
    have shorter := congrArg List.length (Option.some.inj same)
    rw [List.length_erase_of_mem there] at shorter
    have := List.length_pos_of_mem there
    omega
  · nofun

section Asked

variable (swept : Swept change s results t) (moves : Moves change)
  (asked : ∀ key ∈ results.map (·.1), ∃ a, s.serviceAccounts.get? key = some a ∧
    change a.pullSecretList ≠ none)

include swept moves asked

/-- An account that asked for a change was written and is another one now, or it has failed and is
as it was. -/
theorem Swept.cases {key : ObjectKey} {r : Except StoreError Bool} (worked : (key, r) ∈ results) :
    (r = .ok true ∧ t.serviceAccounts.get? key ≠ s.serviceAccounts.get? key) ∨
      (∃ e, r = .error e) ∧ t.serviceAccounts.get? key = s.serviceAccounts.get? key := by
  obtain ⟨a, stored, asks⟩ := asked key (List.mem_map.2 ⟨_, worked, rfl⟩)
  have verdict := swept.verdict key r worked
  generalize t.serviceAccounts.get? key = o at verdict ⊢
  cases verdict with
  | idle unasked => exact absurd (unasked a stored) asks
  | @changed b names version stored' asked' =>
    -- The names that were written are not those that the account had.
    refine .inl ⟨rfl, fun same => moves b.pullSecretList ?_⟩
    rw [stored', Option.some.injEq] at same
    rw [asked', ← congrArg ServiceAccount.pullSecretList same]
    rfl
  | refused | contended => exact .inr ⟨⟨_, rfl⟩, rfl⟩

/-- No account was written if and only if none has changed. -/
theorem Swept.written_eq_zero_iff :
    written results = 0 ↔ ∀ key ∈ results.map (·.1),
      t.serviceAccounts.get? key = s.serviceAccounts.get? key := by
  rw [written, List.countP_eq_zero]
  constructor
  · intro unwritten key hkey
    obtain ⟨⟨_, r⟩, worked, rfl⟩ := List.mem_map.1 hkey
    obtain ⟨rfl, -⟩ | ⟨-, kept⟩ := swept.cases moves asked worked
    · exact absurd rfl (unwritten _ worked)
    · exact kept
  · rintro none ⟨key, r⟩ worked
    obtain ⟨-, differs⟩ | ⟨⟨e, rfl⟩, -⟩ := swept.cases moves asked worked
    · exact absurd (none key (List.mem_map.2 ⟨_, worked, rfl⟩)) differs
    · exact Bool.false_ne_true

/-- What a sweep tells of the accounts that asked for a change: all that it has written, if it has
written all of them or none. -/
theorem Swept.honest :
    Honest (s.AllOrNone (results.map (·.1)) t) (written results)
      ((outcome results).toOption.getD 0) := by
  cases ended : outcome results with
  | ok count =>
    -- No account has failed, so every one was written.
    obtain ⟨fine, rfl⟩ := outcome_eq_ok_iff.1 ended
    refine .of_all (.inr fun key hkey => ?_) _
    obtain ⟨⟨_, r⟩, worked, rfl⟩ := List.mem_map.1 hkey
    obtain ⟨-, differs⟩ | ⟨⟨e, rfl⟩, -⟩ := swept.cases moves asked worked
    · exact differs
    · exact absurd worked (fine _ e)
  | error e =>
    -- Nothing is told, and an account that has failed is as it was.
    have failed : ∃ key e', (key, .error e') ∈ results := by
      by_contra fine
      push Not at fine
      rw [outcome_eq_ok_iff.2 ⟨fine, rfl⟩] at ended
      cases ended
    obtain ⟨key, e', failed⟩ := failed
    have kept : t.serviceAccounts.get? key = s.serviceAccounts.get? key := by
      obtain ⟨h, -⟩ | ⟨-, kept⟩ := swept.cases moves asked failed
      · cases h
      · exact kept
    have notEvery : ¬ ∀ key ∈ results.map (·.1),
        t.serviceAccounts.get? key ≠ s.serviceAccounts.get? key := fun every =>
      every key (List.mem_map.2 ⟨_, failed, rfl⟩) kept
    refine ⟨Nat.zero_le _, eq_comm.trans ?_⟩
    rw [Cluster.AllOrNone, or_iff_left notEvery]
    exact swept.written_eq_zero_iff moves asked

end Asked

/-- Several accounts, each one once: those are written that the results tell of. -/
theorem posts_changeAll {keys : List ObjectKey} (nodup : keys.Nodup) (filed : x.cluster.Filed) :
    (changeAll policy (amend change) keys).Posts
      (fun r y => ∃ results, results.map (·.1) = keys ∧ Swept change x.cluster results y.cluster ∧
        r = outcome results ∧ x.Grown 0 (written results) y) x := by
  rw [changeAll, Program.Posts, Program.leads_bind]
  refine (Leads.forEach (fun results y => Swept change x.cluster results y.cluster ∧
    x.Grown 0 (written results) y) ?_ ⟨Swept.nil change x.cluster, rfl, rfl, rfl⟩).mono ?_
  · rintro results key rest y hkeys ⟨swept, grown⟩
    have new : key ∉ results.map (·.1) := Program.not_mem_of_reached nodup hkeys
    have ended : (Program.retry policy fun _ => amend change key).Ends
        (Amended policy change key y.cluster) y.cluster := amend_ends fun a stored => by
      rw [swept.others key new] at stored
      exact filed.accounts key a stored
    refine (ended.posts.and (posts_amend change key)).mono ?_
    rintro r z ⟨ended, entered⟩
    refine ⟨swept.step new ended, ?_⟩
    have one : written (results ++ [(key, r)]) = written results + told r := by
      rw [written, List.countP_append, List.countP_singleton]
      rfl
    rw [one]
    exact grown.trans entered
  · rintro _ y ⟨results, rfl, hkeys, swept, grown⟩
    exact Program.leads_settle.2 ⟨results, hkeys, swept, rfl, grown⟩

/-- Several accounts that ask for a change: what is told of those that were written. -/
theorem posts_changeAll_of_asked {keys : List ObjectKey} (nodup : keys.Nodup)
    (filed : x.cluster.Filed) (moves : Moves change)
    (asked : ∀ key ∈ keys, ∃ a, x.cluster.serviceAccounts.get? key = some a ∧
      change a.pullSecretList ≠ none) :
    (changeAll policy (amend change) keys).Posts (fun r y => ∃ made, x.Grown 0 made y ∧
      Honest (x.cluster.AllOrNone keys y.cluster) made (r.toOption.getD 0)) x := by
  refine (posts_changeAll nodup filed).mono ?_
  rintro _ y ⟨results, rfl, swept, rfl, grown⟩
  exact ⟨_, grown, swept.honest moves asked⟩

/-- Binding the accounts of a namespace: what is told of those that were written. -/
theorem posts_bindAll (filed : x.cluster.Filed) :
    (bindAll policy n secret).Posts (fun r y => ∃ made, x.Grown 0 made y ∧
      Honest (x.cluster.AllOrNone (x.cluster.unboundIn n secret) y.cluster) made
        (r.toOption.getD 0)) x := by
  cases lists : x.cluster.listsFail with
  | true =>
    rw [bindAll, Program.Posts, Program.leads_bind, Program.leads_liftM, Program.leads_ask,
      Ledger.call_of_reads rfl (answer_listServiceAccounts_of_fails (some n) lists)]
    exact ⟨trivial, 0, ⟨rfl, rfl, rfl⟩, .of_all (.inl fun _ _ => rfl) 0⟩
  | false =>
    refine (Program.leads_liftM_ask_ok
      (Ledger.call_of_reads rfl (answer_listServiceAccounts n lists))).2 ⟨trivial, ?_⟩
    dsimp only
    rw [map_unboundIn filed, bind_eq_amend]
    refine posts_changeAll_of_asked (Cluster.nodup_placesOf _ _ _) filed (moves_appended secret) ?_
    intro key hkey
    obtain ⟨-, a, stored, free⟩ := Cluster.mem_unboundIn.1 hkey
    exact ⟨a, stored, fun bound => free (appended_eq_none_iff.1 bound)⟩

/-- Unbinding the accounts of the cluster: what is told of those that were written. -/
theorem posts_unbindAll (filed : x.cluster.Filed) :
    (unbindAll policy secret).Posts (fun r y => ∃ made, x.Grown 0 made y ∧
      Honest (x.cluster.AllOrNone (x.cluster.boundTo secret) y.cluster) made
        (r.toOption.getD 0)) x := by
  cases lists : x.cluster.listsFail with
  | true =>
    rw [unbindAll, Program.Posts, Program.leads_bind, Program.leads_liftM, Program.leads_ask,
      Ledger.call_of_reads rfl (answer_listServiceAccounts_of_fails none lists)]
    exact ⟨trivial, 0, ⟨rfl, rfl, rfl⟩, .of_all (.inl fun _ _ => rfl) 0⟩
  | false =>
    refine (Program.leads_liftM_ask_ok
      (Ledger.call_of_reads rfl (answer_listAllServiceAccounts lists))).2 ⟨trivial, ?_⟩
    dsimp only
    rw [map_boundTo filed, unbind_eq_amend]
    refine posts_changeAll_of_asked (Cluster.nodup_placesOf _ _ _) filed (moves_removed secret) ?_
    intro key hkey
    obtain ⟨a, stored, bound⟩ := Cluster.mem_boundTo.1 hkey
    exact ⟨a, stored, fun free => removed_eq_none_iff.1 free bound⟩

/-- Without faults, binding the accounts of a namespace succeeds. -/
theorem bindAll_ends_of_calm (filed : s.Filed) :
    (bindAll policy n secret).Ends (fun r _ => s.listsFail = false → s.pendingConflicts = 0 →
      n ∉ s.failingNamespaces → ∃ count, r = .ok count) s := by
  refine (bindAll_ends filed n).mono ?_
  rintro _ t (⟨fails, -⟩ | ⟨-, results, covered, swept, rfl⟩) lists calm spared
  · rw [lists] at fails
    cases fails
  · refine ⟨_, outcome_eq_ok_iff.2 ⟨fun key e failed => ?_, rfl⟩⟩
    have hkey : key ∈ s.unboundIn n secret := covered ▸ List.mem_map.2 ⟨_, failed, rfl⟩
    refine swept.no_error calm ?_ e failed
    rw [(Cluster.mem_unboundIn.1 hkey).1]
    exact spared

end Binding

/-- After the secret of a namespace was written there are no faults that concern the namespace. -/
theorem PullSecret.Ensured.of_written {policy : RetryPolicy} {x : Secret} {key : ObjectKey}
    {s t : Cluster} (h : Ensured policy x key s (.ok true) t) :
    t.pendingConflicts = 0 ∧ key.inNamespace ∉ t.failingNamespaces := by
  cases h with
  | merged stored differs ended =>
    cases ended with
    | through spared few => exact ⟨rfl, spared _ rfl⟩
  | created free ended =>
    cases ended with
    | through spared few => exact ⟨rfl, spared _ rfl⟩

/-! ## Namespaces -/

theorem Cluster.AllOrNone.of_eq {s t : Cluster} (same : t.serviceAccounts = s.serviceAccounts)
    (keys : List ObjectKey) : s.AllOrNone keys t := .inl fun _ _ => by rw [same]

/-- Whether all or none have changed in a namespace can be told from its accounts alone. -/
theorem Cluster.allOrNone_congr {n : String} {s s' t t' : Cluster} (secret : String)
    (before : ∀ key, key.inNamespace = n →
      s'.serviceAccounts.get? key = s.serviceAccounts.get? key)
    (after : ∀ key, key.inNamespace = n →
      t'.serviceAccounts.get? key = t.serviceAccounts.get? key) :
    s'.AllOrNone (s'.unboundIn n secret) t' ↔ s.AllOrNone (s.unboundIn n secret) t := by
  have keys : s'.unboundIn n secret = s.unboundIn n secret :=
    placesOf_congr _ fun key hkey => before key (beq_iff_eq.1 hkey).symm
  rw [AllOrNone, AllOrNone, keys]
  refine or_congr (forall₂_congr fun key hkey => ?_) (forall₂_congr fun key hkey => ?_)
  · rw [before key (mem_unboundIn.1 hkey).1, after key (mem_unboundIn.1 hkey).1]
  · rw [before key (mem_unboundIn.1 hkey).1, after key (mem_unboundIn.1 hkey).1]

namespace Reconcile

variable {policy : RetryPolicy} {p : Puller} {n : String} {x y z : Ledger} {results : Results}

/-- The secrets that the result of a namespace tells of. -/
def secretsTold (r : Except ReconcileError NamespaceOutcome) : Nat := told (r.map (·.secretWritten))

/-- The accounts that the result of a namespace tells of. -/
def accountsTold (r : Except ReconcileError NamespaceOutcome) : Nat :=
  r.toOption.elim 0 (·.accountsBound)

/-- Working on a namespace that is there: the secret is told of if it was written, and so are the
accounts, if all of them were written or none. -/
theorem posts_ensureNamespace (filed : x.cluster.Filed)
    (there : x.cluster.namespaces.contains n = true) (lists : x.cluster.listsFail = false) :
    (ensureNamespace policy p p.document n).Posts (fun r y => ∃ made,
      x.Grown (secretsTold r) made y ∧
      Honest (x.cluster.AllOrNone (x.cluster.unboundIn n Names.secret) y.cluster) made
        (accountsTold r)) x := by
  unfold ensureNamespace
  refine Program.leads_bind.2 (Program.leads_liftM.2 ?_)
  have ended := (PullSecret.ensure_ends policy
    (PullSecret.key_wanted p p.document n) filed there).and (Program.ends_filed _ filed)
  refine (ended.posts.and (PullSecret.posts_ensure _)).mono ?_
  rintro (e | written) u ⟨⟨ensured, filed_u⟩, grown⟩
  · exact ⟨0, grown, .of_all (.of_eq ensured.frame.1.serviceAccounts _) 0⟩
  · obtain ⟨frame, -⟩ := ensured.frame
    refine Program.leads_bind.2 (((Binding.posts_bindAll filed_u).and
      (Binding.bindAll_ends_of_calm filed_u).posts).mono ?_)
    rintro r y ⟨⟨made, grown', honest⟩, fine⟩
    have whole := grown.trans grown'
    rw [Nat.add_zero, Nat.zero_add] at whole
    have honest := honest.congr (Cluster.allOrNone_congr (s := x.cluster) (t := y.cluster)
      Names.secret (fun _ _ => by rw [frame.serviceAccounts]) fun _ _ => rfl)
    cases r with
    | ok count => exact ⟨made, whole, honest⟩
    | error e =>
      -- A namespace whose secret was written does not fail any more.
      cases written with
      | false => exact ⟨made, whole, honest⟩
      | true =>
        obtain ⟨calm, spared⟩ := ensured.of_written
        obtain ⟨count, hcount⟩ := fine (frame.listsFail.trans lists) calm spared
        cases hcount

/-- One more namespace adds what its result tells of. -/
theorem summarize_append (results : Results) (n : String)
    (r : Except ReconcileError NamespaceOutcome) :
    (summarize (results ++ [(n, r)])).secretsWritten =
        (summarize results).secretsWritten + secretsTold r ∧
      (summarize (results ++ [(n, r)])).accountsBound =
        (summarize results).accountsBound + accountsTold r := by
  have sum (counts : List NamespaceOutcome) (k : Nat) :
      counts.foldr (·.accountsBound + ·) k = counts.foldr (·.accountsBound + ·) 0 + k := by
    induction counts with
    | nil => exact (Nat.zero_add k).symm
    | cons o rest ih => rw [List.foldr_cons, List.foldr_cons, ih, Nat.add_assoc]
  simp only [summarize, List.filterMap_append, List.countP_append, List.foldr_append]
  rw [sum]
  cases r with
  | error e => exact ⟨rfl, rfl⟩
  | ok o =>
    refine ⟨congrArg _ ?_, rfl⟩
    obtain ⟨written, bound⟩ := o
    cases written <;> rfl

/-- How the accounts of the namespaces so far have been counted. -/
structure Tallied (p : Puller) (x : Ledger) (results : Results) (y : Ledger) : Prop where
  covered : Covered p x.cluster results y.cluster
  filed : y.cluster.Filed
  counted : ∃ made, x.Grown (summarize results).secretsWritten made y ∧
    Honest (∀ n ∈ results.map (·.1),
      x.cluster.AllOrNone (x.cluster.unboundIn n Names.secret) y.cluster) made
      (summarize results).accountsBound

/-- One more namespace is counted, and the others are left as they are. -/
theorem Tallied.step {r : Except ReconcileError NamespaceOutcome} (h : Tallied p x results y)
    (new : n ∉ results.map (·.1)) (filed : z.cluster.Filed) (worked : y.cluster.Worked z.cluster)
    (apart : ∀ m, m ≠ n → y.cluster.SameIn m z.cluster)
    (settled : Settled p n y.cluster r z.cluster)
    (counted : ∃ made, y.Grown (secretsTold r) made z ∧
      Honest (y.cluster.AllOrNone (y.cluster.unboundIn n Names.secret) z.cluster) made
        (accountsTold r)) : Tallied p x (results ++ [(n, r)]) z where
  covered := h.covered.step new worked apart settled
  filed := filed
  counted := by
    obtain ⟨made, grown, honest⟩ := h.counted
    obtain ⟨made', grown', honest'⟩ := counted
    obtain ⟨secrets, accounts⟩ := summarize_append results n r
    refine ⟨made + made', ?_, ?_⟩
    · rw [secrets]
      exact grown.trans grown'
    · rw [accounts]
      refine (honest.add honest').congr ?_
      rw [List.map_append, List.forall_mem_append]
      refine and_congr (forall₂_congr fun m hm => ?_) ?_
      · have differs : m ≠ n := fun same => new (same ▸ hm)
        exact Cluster.allOrNone_congr Names.secret (fun _ _ => rfl)
          fun key hkey => ((apart m differs).accounts key hkey).symm
      · rw [List.map_cons, List.map_nil, List.forall_mem_singleton]
        exact Cluster.allOrNone_congr Names.secret (h.covered.others n new).accounts fun _ _ => rfl

/-- Resolving a selector is not entered; where it finds the targets, lists work. -/
theorem posts_resolve (filed : x.cluster.Filed) (selector : Option LabelSelector) :
    (Target.resolve selector).Posts (fun r y => y = x ∧ ((∃ e, r = .error e) ∨
      r = .ok (x.cluster.targets selector) ∧ x.cluster.listsFail = false)) x := by
  unfold Target.resolve
  have answered : Ledger.handler.call (.listNamespaces selector) x =
      (x.cluster.listNamespaces selector, x) := Ledger.call_of_reads rfl rfl
  rw [Program.Posts, Program.leads_bind, Program.leads_ask, answered]
  refine ⟨trivial, ?_⟩
  rcases x.cluster.listNamespaces_cases selector with ⟨⟨e, failed⟩, -⟩ | found
  · rw [failed]
    exact ⟨rfl, .inl ⟨e, rfl⟩⟩
  · have lists := Cluster.listsFail_of_listNamespaces found
    rw [found]
    exact ⟨rfl, .inr ⟨congrArg Except.ok (Target.names_filter filed selector), lists⟩⟩

/-- How the writes between two ledgers have been counted. All secrets have been. The accounts have
been counted as unbound while the puller was terminating, and as bound otherwise. -/
def Counted (terminating : Bool) (x y : Ledger) : Prop :=
  ∃ secrets bound unbound made, x.Booked secrets bound unbound made y ∧
    if terminating then
      bound = 0 ∧ Honest (x.cluster.AllOrNone (x.cluster.boundTo Names.secret) y.cluster) made
        unbound
    else
      unbound = 0 ∧ Honest (∀ n, x.cluster.AllOrNone (x.cluster.unboundIn n Names.secret) y.cluster)
        made bound

/-- Where nothing is written there is nothing to count. -/
theorem counted_refl (x : Ledger) : Counted false x x :=
  ⟨0, 0, 0, 0, ⟨rfl, rfl, rfl, rfl, rfl⟩, rfl, .of_all (fun _ => .of_eq rfl _) 0⟩

/-- What neither writes nor counts anything may come before. -/
theorem Counted.precede {terminating : Bool} (h : Counted terminating y z)
    (idle : x.Booked 0 0 0 0 y) (same : y.cluster.serviceAccounts = x.cluster.serviceAccounts) :
    Counted terminating x z := by
  obtain ⟨secrets, bound, unbound, made, booked, counted⟩ := h
  refine ⟨secrets, bound, unbound, made, ?_, ?_⟩
  · simpa only [Nat.zero_add] using idle.trans booked
  · simpa only [Cluster.AllOrNone, Cluster.boundTo, Cluster.unboundIn, Cluster.placesOf, same]
      using counted

/-- What neither writes nor counts anything may come after. -/
theorem Counted.follow {terminating : Bool} (h : Counted terminating x y)
    (idle : y.Booked 0 0 0 0 z) (same : z.cluster.serviceAccounts = y.cluster.serviceAccounts) :
    Counted terminating x z := by
  obtain ⟨secrets, bound, unbound, made, booked, counted⟩ := h
  refine ⟨secrets, bound, unbound, made, booked.trans idle, ?_⟩
  simpa only [Cluster.AllOrNone, same] using counted

/-- Working on all target namespaces: the secrets that were written are counted, and so are the
accounts, if in each namespace all of them were written or none. -/
theorem posts_converge (filed : x.cluster.Filed) :
    (converge policy p).Posts (fun _ y => Counted false x y) x := by
  unfold converge
  refine Program.leads_bind.2 (Program.leads_liftM.2 ((posts_resolve filed _).mono ?_))
  rintro _ x' ⟨rfl, ⟨e, rfl⟩ | ⟨rfl, lists⟩⟩
  · exact counted_refl x'
  refine Program.leads_bind.2 ((Leads.forEach (Tallied p x') ?_ ?_).mono ?_)
  · rintro results n rest y htargets h
    obtain ⟨new, there⟩ := h.covered.next htargets
    have ended : (ensureNamespace policy p p.document n).Ends _ y.cluster :=
      (ensureNamespace_ends h.filed there).and (Program.ends_filed _ h.filed)
    refine (ended.posts.and (posts_ensureNamespace h.filed there
      (h.covered.worked.listsFail.trans lists))).mono ?_
    rintro r z ⟨⟨⟨worked, apart, settled⟩, filed_z⟩, counted⟩
    exact h.step new filed_z worked apart settled counted
  · refine ⟨.nil p x'.cluster, filed, 0, ⟨rfl, rfl, rfl⟩, .of_all ?_ 0⟩
    exact nofun
  · rintro _ y ⟨results, rfl, complete, covered, -, made, grown, honest⟩
    refine Program.leads_settle.2 ⟨_, _, 0, made, grown.note_bound _, rfl, honest.congr ?_⟩
    refine ⟨fun all n => ?_, fun all n _ => all n⟩
    -- In a namespace that is no target no account has changed.
    by_cases worked : n ∈ results.map (·.1)
    · exact all n worked
    · refine .inl fun key hkey => (covered.others n worked).accounts key ?_
      exact (Cluster.mem_unboundIn.1 hkey).1

/-- Working on the targets of a stored puller, and reporting how that ended. -/
theorem posts_sync (filed : x.cluster.Filed) (stored : x.cluster.pullers.get? p.name = some p) :
    (sync policy p).Posts (fun _ y => Counted false x y) x := by
  refine leads_sync (((converge_ends filed).posts.and (posts_converge filed)).mono ?_)
  rintro r u ⟨converging, counted⟩ readyTime errorTime
  have stored : u.cluster.pullers.get? p.name = some p := by
    rw [converging.worked.pullers]
    exact stored
  refine ((Report.update_ends stored _).posts.and (Program.posts_of_aside
    (Report.makes_update policy p _) (Report.hushed_update p _) u)).mono ?_
  rintro b y ⟨⟨tended, -⟩, grown⟩
  have done : Counted false x y := counted.follow grown.booked tended.serviceAccounts
  cases b with
  | ok _ => exact done
  | error _ => exact done

/-- Cleaning up after a stored puller: the accounts that were written are counted, if all of them
were written or none. -/
theorem posts_cleanup (filed : x.cluster.Filed)
    (stored : x.cluster.pullers.get? p.name = some p) :
    (cleanup policy p).Posts (fun _ y => Counted true x y) x := by
  unfold cleanup
  refine Program.leads_bind.2 (((Binding.unbindAll_ends filed).posts.and
    (Binding.posts_unbindAll filed)).mono ?_)
  rintro (e | unbound) u ⟨ended, made, grown, honest⟩
  · exact ⟨0, 0, 0, made, grown.booked, rfl, honest⟩
  · -- Unbinding has left the puller alone, so releasing it finds the one that was stored.
    have stored : u.cluster.pullers.get? p.name = some p := by
      obtain ⟨-, same, -⟩ | ⟨-, results, -, swept, -⟩ := ended
      · rw [same]
        exact stored
      · rw [swept.rest.pullers]
        exact stored
    let noted := Ledger.handler.note (.accountsUnbound unbound) u
    have counted : Counted true x noted :=
      ⟨0, 0, unbound, made, grown.note_unbound unbound, rfl, honest⟩
    have released : (Finalizer.release policy p.name).Posts _ noted :=
      (Leads.posts (x := noted) (Finalizer.release_ends stored)).and (Program.posts_of_aside
        (Finalizer.makes_release policy p.name) (Finalizer.hushed_release p.name) noted)
    refine Program.leads_bind.2 (Program.leads_bind.2 (Program.leads_liftM.2 (released.mono ?_)))
    rintro r y ⟨⟨tended, -⟩, grown'⟩
    have done : Counted true x y := counted.follow grown'.booked tended.serviceAccounts
    cases r with
    | ok _ => exact done
    | error _ => exact done

/-- The steps of a reconcile: guarding the puller and working on its targets, or cleaning up. -/
theorem posts_steps (config : Config) (name : String) (filed : x.cluster.Filed) :
    (steps config name).Posts (fun _ y => Counted
      ((x.cluster.pullers.get? name).any (·.metadata.isTerminating)) x y) x := by
  unfold steps
  refine (Program.leads_liftM_ask_ok (v := x.cluster.pullers.get? name)
    (Ledger.call_of_reads rfl rfl)).2 ⟨trivial, ?_⟩
  cases stored : x.cluster.pullers.get? name with
  | none => exact counted_refl x
  | some p =>
    obtain rfl : p.name = name := filed.pullers name p stored
    rw [Option.any_some]
    cases terminating : p.metadata.isTerminating with
    | true =>
      simp only [terminating, if_true]
      refine Program.leads_bind.2 ((posts_cleanup filed stored).mono ?_)
      rintro (e | _) y counted
      · exact counted
      · exact counted
    | false =>
      simp only [terminating, Bool.false_eq_true, if_false]
      have guarding : (Finalizer.ensure config.retryPolicy p).Posts _ x :=
        ((Finalizer.ensure_ends stored).and (Program.ends_filed _ filed)).posts.and
          (Program.posts_of_aside (Finalizer.makes_ensure _ p) (Finalizer.hushed_ensure p) x)
      refine Program.leads_bind.2 (Program.leads_liftM.2 (guarding.mono ?_))
      rintro (e | q) u ⟨⟨⟨tended, guarded, -⟩, filed_u⟩, grown⟩
      · exact (counted_refl x).follow grown.booked tended.serviceAccounts
      · obtain ⟨stored_u, -, akin⟩ := guarded q rfl
        rw [← akin.name_eq] at stored_u
        refine Program.leads_bind.2 ((posts_sync filed_u stored_u).mono ?_)
        rintro r y counted
        have done : Counted false x y := counted.precede grown.booked tended.serviceAccounts
        cases r with
        | error _ => exact done
        | ok _ =>
          refine Program.leads_bind.2 ?_
          exact done.follow (Ledger.booked_note (by simp) y) rfl

/-- What a reconcile has written is counted, but for accounts that were worked on along with others
that have failed. -/
theorem posts_reconcile (config : Config) (name : String) (filed : x.cluster.Filed) :
    (reconcile config name).Posts (fun _ y => Counted
      ((x.cluster.pullers.get? name).any (·.metadata.isTerminating)) x y) x := by
  let begun := Ledger.handler.note .reconcileBegun x
  have filed : begun.cluster.Filed := filed
  unfold reconcile
  refine Program.leads_bind.2 (Program.leads_bind.2 (Program.leads_attempt.2
    ((posts_steps config name filed).mono ?_)))
  -- The notes before and after the steps tell of no writes.
  rintro r y counted
  have counted : Counted _ x y := counted.precede (Ledger.booked_note (by simp) x) rfl
  refine Program.leads_bind.2 (Program.leads_ofExcept.2 ?_)
  exact counted.follow (Ledger.booked_note (by simp) y) rfl

end Reconcile

end PullSecrets
