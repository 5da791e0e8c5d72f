import PullSecrets.Proofs.Orphans

/-!
# Accounts get back the lists they had

Reconciles write the list of an account and nothing else of it. They lend the secret to the account,
once and at the end of its list, and they take it back from there. So whatever pullers come and go,
an account differs from what its operators have made it by the lent secret alone, and when a
terminating puller has been cleaned up after, every account is as it was.

## Main facts

* `ServiceAccount.Lent`: an account that is as it was, or that has the secret at the end.
* `Cluster.Lending.change`, `Reconcile.keeps_lending`: no account is ever changed otherwise.
* `Course.restored`: accounts are as they were, or have the secret at the end, and cleaning up takes
  it from all of them.
-/

namespace PullSecrets

open Program (Keeps)

/-! ## Accounts and what they were -/

namespace ServiceAccount

/-- The second account is the first one with these names in its list, up to its version. -/
structure Relisted (o : ServiceAccount) (names : List String) (a : ServiceAccount) : Prop where
  list : a.pullSecretList = names
  rest : ∃ secrets version, a = { o with
    imagePullSecrets := secrets
    metadata := { o.metadata with resourceVersion := version } }

/-- The second account is the first one as it was, or with the secret at the end of its list. -/
def Lent (o a : ServiceAccount) : Prop :=
  o.Relisted o.pullSecretList a ∨ o.Relisted (o.pullSecretList ++ [Names.secret]) a

variable {o a : ServiceAccount} {names : List String}

theorem Relisted.refl (a : ServiceAccount) : a.Relisted a.pullSecretList a :=
  ⟨rfl, a.imagePullSecrets, a.metadata.resourceVersion, rfl⟩

/-- Writing a list once more leaves the rest as it was. -/
theorem Relisted.again (h : o.Relisted names a) (others : List String) (version : String) :
    o.Relisted others ((a.withPullSecrets others).inPlaceOf a version) := by
  obtain ⟨-, secrets, before, rfl⟩ := h
  exact ⟨rfl, some others, some version, rfl⟩

theorem Lent.rest (h : o.Lent a) : ∃ names, o.Relisted names a := by
  rcases h with own | lent
  · exact ⟨_, own⟩
  · exact ⟨_, lent⟩

/-- An account that lacks the secret has its own list. -/
theorem Lent.own_of_not_mem (h : o.Lent a) (lacks : Names.secret ∉ a.pullSecretList) :
    a.pullSecretList = o.pullSecretList := by
  rcases h with own | lent
  · exact own.list
  · rw [lent.list] at lacks
    exact absurd (List.mem_append_right _ (List.mem_singleton_self _)) lacks

/-- Taking the secret from the list of an account gives its own list. -/
theorem Lent.erase (h : o.Lent a) (free : Names.secret ∉ o.pullSecretList) :
    a.pullSecretList.erase Names.secret = o.pullSecretList := by
  rcases h with own | lent
  · rw [own.list, List.erase_of_not_mem free]
  · rw [lent.list, List.erase_append_right _ free, List.erase_cons_head, List.append_nil]

end ServiceAccount

/-! ## Clusters and the accounts they had -/

namespace Cluster

variable {s t : Cluster} {originals : Dict ObjectKey ServiceAccount} {key : ObjectKey}
  {a : ServiceAccount} {names : List String}

/-- Every account is as it was, or has the secret at the end of its list; it did not have the secret
before, and it has not moved. -/
structure Lending (originals : Dict ObjectKey ServiceAccount) (s : Cluster) : Prop where
  filed : s.Filed
  free : ∀ key o, originals.get? key = some o → Names.secret ∉ o.pullSecretList
  accounts : ∀ key,
    Option.Rel ServiceAccount.Lent (originals.get? key) (s.serviceAccounts.get? key)

theorem Lending.of_accounts (h : s.Lending originals) (filed : t.Filed)
    (same : t.serviceAccounts = s.serviceAccounts) : t.Lending originals :=
  ⟨filed, h.free, same ▸ h.accounts⟩

theorem Lending.original (h : s.Lending originals)
    (stored : s.serviceAccounts.get? key = some a) :
    ∃ o, originals.get? key = some o ∧ o.Lent a := by
  have related := h.accounts key
  rw [stored] at related
  generalize originals.get? key = before at related ⊢
  cases related with
  | some lent => exact ⟨_, rfl, lent⟩

/-- Writing the own list of an account, with the secret at the end or not. -/
theorem Lending.replaceServiceAccount (h : s.Lending originals)
    (stored : s.serviceAccounts.get? key = some a)
    (list : ∀ o, originals.get? key = some o → o.Lent a →
      names = o.pullSecretList ∨ names = o.pullSecretList ++ [Names.secret]) :
    (s.replaceServiceAccount (a.withPullSecrets names)).2.Lending originals := by
  have filed := h.filed.answer (.replaceServiceAccount (a.withPullSecrets names))
  rcases replaceServiceAccount_cases (a.withPullSecrets names) s with
    ⟨-, same⟩ | ⟨place, old, version, placed, found, -, same⟩
  · exact h.of_accounts filed same.serviceAccounts
  · -- The account is under its own place, so it is written back to where it was found.
    obtain rfl : key = place := Except.ok.inj ((h.filed.accounts key a stored).symm.trans placed)
    rw [stored] at found
    cases found
    refine ⟨filed, h.free, fun other => ?_⟩
    rw [same.serviceAccounts, Dict.get?_insert]
    split
    next this =>
      obtain ⟨o, original, lent⟩ := h.original stored
      obtain ⟨before, rest⟩ := lent.rest
      rw [this, original]
      refine .some ?_
      rcases list o original lent with rfl | rfl
      · exact .inl (rest.again _ version)
      · exact .inr (rest.again _ version)
    next => exact h.accounts other

/-- A call of another client leaves accounts as they are, unless it writes one. -/
theorem answer_accounts (s : Cluster) {c : Call} (spares : ∀ a, c ≠ .replaceServiceAccount a) :
    (s.answer c).2.serviceAccounts = s.serviceAccounts := by
  cases c with
  | getPuller | listNamespaces | getSecret | listServiceAccounts | getServiceAccount => rfl
  | replacePuller p => exact replacePuller_accounts p s
  | replacePullerStatus p => exact replacePullerStatus_accounts p s
  | createSecret x => exact (createSecret_same x s).2
  | replaceSecret x => exact (replaceSecret_same x s).2
  | replaceServiceAccount a => exact absurd rfl (spares a)

theorem Lending.answer (h : s.Lending originals) {c : Call}
    (spares : ∀ a, c ≠ .replaceServiceAccount a) : (s.answer c).2.Lending originals :=
  h.of_accounts (h.filed.answer c) (s.answer_accounts spares)

/-- A change from outside leaves accounts as they are, unless it adds one. -/
theorem Lending.change (h : s.Lending originals) {c : Change}
    (spares : ∀ inNamespace name, c ≠ .addServiceAccount inNamespace name) :
    (s.change c).2.Lending originals := by
  refine h.of_accounts (h.filed.change c) ?_
  rcases s.change_accounts c with same | ⟨inNamespace, name, rfl⟩
  · exact same
  · exact absurd rfl (spares inNamespace name)

/-- An account that is added is its own original. -/
theorem Lending.addServiceAccount (h : s.Lending originals) {inNamespace name : String}
    (added : (s.addServiceAccount inNamespace name).serviceAccounts.get? ⟨inNamespace, name⟩ =
      some a) :
    (s.addServiceAccount inNamespace name).Lending (originals.insert ⟨inNamespace, name⟩ a) := by
  have empty : a.pullSecretList = [] := by
    simp only [Cluster.addServiceAccount, Dict.get?_insert, if_true, Option.some.injEq] at added
    rw [← added]
    rfl
  refine ⟨h.filed.change (.addServiceAccount inNamespace name), ?_, fun key => ?_⟩
  · refine Dict.forall_insert h.free ?_
    rw [empty]
    exact List.not_mem_nil
  · rw [Dict.get?_insert]
    split
    next this =>
      rw [this, added]
      exact .some (.inl (.refl a))
    next other =>
      have same : (s.addServiceAccount inNamespace name).serviceAccounts.get? key =
          s.serviceAccounts.get? key := by
        simp only [Cluster.addServiceAccount, Dict.get?_insert, if_neg other]
        rfl
      rw [same]
      exact h.accounts key

end Cluster

/-! ## Reconciling -/

namespace Reconcile

variable {originals : Dict ObjectKey ServiceAccount}

/-- Reconciling a puller lends the secret, or takes it back, and does nothing else to accounts. -/
theorem keeps_lending (config : Config) (name : String) :
    Keeps (Cluster.Lending originals) (reconcile config name) := by
  have call {c : Call} (spares : ∀ a, c ≠ .replaceServiceAccount a) (s : Cluster)
      (h : s.Lending originals) : (s.answer c).2.Lending originals := h.answer spares
  have create (s : Cluster) (x : Secret) := call (c := .createSecret x) (fun _ => nofun) s
  have replace (s : Cluster) (x : Secret) := call (c := .replaceSecret x) (fun _ => nofun) s
  have puller (s : Cluster) (q : Puller) := call (c := .replacePuller q) (fun _ => nofun) s
  have status (s : Cluster) (q : Puller) := call (c := .replacePullerStatus q) (fun _ => nofun) s
  -- An account is only bound if it lacks the secret, so it has its own list until then.
  have append (s : Cluster) (key : ObjectKey) (a : ServiceAccount) (names : List String)
      (h : s.Lending originals) (stored : s.serviceAccounts.get? key = some a)
      (asked : Binding.appended Names.secret a.pullSecretList = some names) :
      (s.replaceServiceAccount (a.withPullSecrets names)).2.Lending originals := by
    refine h.replaceServiceAccount stored fun o _ lent => .inr ?_
    unfold Binding.appended at asked
    split at asked
    · cases asked
    next lacks =>
      cases asked
      rw [lent.own_of_not_mem lacks]
  have remove (s : Cluster) (key : ObjectKey) (a : ServiceAccount) (names : List String)
      (h : s.Lending originals) (stored : s.serviceAccounts.get? key = some a)
      (asked : Binding.removed Names.secret a.pullSecretList = some names) :
      (s.replaceServiceAccount (a.withPullSecrets names)).2.Lending originals := by
    refine h.replaceServiceAccount stored fun o original lent => .inl ?_
    unfold Binding.removed at asked
    split at asked
    · cases asked
      exact lent.erase (h.free key o original)
    · cases asked
  unfold reconcile steps
  refine Keeps.bind Keeps.leave fun _ => Keeps.bind (Keeps.attempt ?_) fun _ =>
    Keeps.bind Keeps.leave fun _ => Keeps.ofExcept
  refine Keeps.bind (Keeps.liftM (Keeps.ask fun _ hs => hs)) fun found => ?_
  cases found with
  | none => exact Keeps.pure
  | some p =>
    refine Keeps.ite (Keeps.bind ?_ fun _ => Keeps.pure) ?_
    · unfold cleanup
      refine Keeps.bind (Binding.keeps_unbindAll remove) fun _ => Keeps.bind Keeps.leave fun _ => ?_
      exact Keeps.bind (Keeps.liftM (Finalizer.keeps_release puller)) fun _ => Keeps.pure
    · refine Keeps.bind (Keeps.liftM (Finalizer.keeps_ensure fun s q hs _ => puller s q hs)) ?_
      refine fun q => Keeps.bind (keeps_sync create replace append status) fun _ => ?_
      exact Keeps.bind Keeps.leave fun _ => Keeps.pure

end Reconcile

/-! ## Histories -/

/-- The clusters that come about from one in which nothing is bound, with the accounts as operators
have made them. Operators change the cluster, pullers are reconciled in any order, where each
reconcile may be cut off after any number of its calls, and other clients may write anything but
accounts. -/
inductive Course : Dict ObjectKey ServiceAccount → Cluster → Prop
  | start {s : Cluster} (reachable : Reachable s) (free : s.Free) : Course s.serviceAccounts s
  | add {originals : Dict ObjectKey ServiceAccount} {s : Cluster} (before : Course originals s)
    {inNamespace name : String} {a : ServiceAccount}
    (added : (s.addServiceAccount inNamespace name).serviceAccounts.get? ⟨inNamespace, name⟩ =
      some a) :
    Course (originals.insert ⟨inNamespace, name⟩ a) (s.addServiceAccount inNamespace name)
  | change {originals : Dict ObjectKey ServiceAccount} {s : Cluster} (before : Course originals s)
    (c : Change) (spares : ∀ inNamespace name, c ≠ .addServiceAccount inNamespace name) :
    Course originals (s.change c).2
  | call {originals : Dict ObjectKey ServiceAccount} {s : Cluster} (before : Course originals s)
    (c : Call) (spares : ∀ a, c ≠ .replaceServiceAccount a) : Course originals (s.answer c).2
  | reconcile {originals : Dict ObjectKey ServiceAccount} {σ : Type} (w : Surroundings σ) {x : σ}
    (before : Course originals (w.cluster x)) (config : Config) (name : String) (n : Nat) :
    Course originals (w.cluster ((Reconcile.reconcile config name).cut w.toHandler n x))

namespace Course

variable {originals : Dict ObjectKey ServiceAccount} {s : Cluster}

/-- In every history, accounts are as operators have made them, up to the lent secret. -/
theorem lending (h : Course originals s) : s.Lending originals := by
  induction h with
  | @start s reachable free =>
    refine ⟨reachable.filed, free, fun key => ?_⟩
    cases s.serviceAccounts.get? key with
    | none => exact .none
    | some a => exact .some (.inl (.refl a))
  | add _ added ih => exact ih.addServiceAccount added
  | change _ c spares ih => exact ih.change spares
  | call _ c spares ih => exact ih.answer spares
  | reconcile w _ config name n ih => exact (Reconcile.keeps_lending config name _ ih).cut ih n

/-- Every account is as operators have made it, or it has the secret at the end of its list. Right
after the successful reconcile of a puller that is to be deleted, every account is as operators
have made it. -/
theorem restored (h : Course originals s) :
    (∀ key, Option.Rel ServiceAccount.Lent (originals.get? key) (s.serviceAccounts.get? key)) ∧
      ∀ {σ : Type} (w : Surroundings σ) (config : Config) {x : σ} {name : String} {p : Puller}
        {action : Action}, w.cluster x = s → s.pullers.get? name = some p →
        p.metadata.isTerminating = true →
        ((Reconcile.reconcile config name).run w.toHandler x).1 = .ok action →
        ∀ key, Option.Rel (fun o a => o.Relisted o.pullSecretList a) (originals.get? key)
          ((w.cluster ((Reconcile.reconcile config name).run w.toHandler x).2).serviceAccounts.get?
            key) := by
  have before := h.lending
  refine ⟨before.accounts, ?_⟩
  rintro σ w config x name p action rfl stored terminating fine key
  have ended := (Reconcile.reconcile_ends_of_terminating config before.filed stored
    terminating).run (w := w)
  have unbound := (ended action fine).1 key
  have after := (Reconcile.keeps_lending config name _ before).run.accounts key
  -- The list is the one before without the secret, and all else is as in the original.
  generalize (w.cluster _).serviceAccounts.get? key = now at unbound after ⊢
  cases original : originals.get? key with
  | none =>
    rw [original] at after
    cases after
    exact .none
  | some o =>
    rw [original] at after
    cases after with
    | @some _ b lent =>
      rw [Option.map_some, eq_comm, Option.map_eq_some_iff] at unbound
      obtain ⟨a, found, list⟩ := unbound
      obtain ⟨o', original', lent'⟩ := before.original found
      rw [original] at original'
      cases original'
      obtain ⟨names, -, rest⟩ := lent.rest
      exact .some ⟨list.symm.trans (lent'.erase (before.free key o original)), rest⟩

/-- The puller of the small cluster is reconciled, then its deletion is asked for, then it is
reconciled again: the accounts were bound, and they are as they were at the start. -/
theorem restored_sample :
    let s := ((Reconcile.reconcile {} "creds1").cut (Cluster.alone "").toHandler 100 .sample)
    let t := (s.change (.deletePuller "creds1" ⟨0, false⟩)).2
    let u := ((Reconcile.reconcile {} "creds1").run (Cluster.alone "").toHandler t).2
    (t.serviceAccounts.get? ⟨"default", "default"⟩).any (·.references Names.secret) = true ∧
      ∀ key, Option.Rel (fun o a => o.Relisted o.pullSecretList a)
        (Cluster.sample.serviceAccounts.get? key) (u.serviceAccounts.get? key) := by
  intro s t u
  have free : ∀ e ∈ Cluster.sample.serviceAccounts.entries, Names.secret ∉ e.2.pullSecretList := by
    decide +kernel
  have bound : (t.serviceAccounts.get? ⟨"default", "default"⟩).any
      (·.references Names.secret) = true := by decide +kernel
  have there : (t.pullers.get? "creds1").any (·.metadata.isTerminating) = true := by
    decide +kernel
  have fine : ((Reconcile.reconcile {} "creds1").run (Cluster.alone "").toHandler t).1.toOption =
      some .awaitChange := by decide +kernel
  have start : Course Cluster.sample.serviceAccounts .sample :=
    .start Cluster.reachable_sample fun key a stored => free _ (Dict.get?_eq_some_iff.1 stored)
  have course : Course Cluster.sample.serviceAccounts t :=
    (Course.reconcile (Cluster.alone "") (x := .sample) start {} "creds1" 100).change
      (.deletePuller "creds1" ⟨0, false⟩) fun _ _ => nofun
  obtain ⟨p, stored, terminating⟩ := (Option.any_eq_true _ _).1 there
  exact ⟨bound, (restored course).2 (Cluster.alone "") {} rfl stored terminating
    (eq_ok_of_toOption fine)⟩

end Course

end PullSecrets
