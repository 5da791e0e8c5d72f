import PullSecrets.Proofs.History
import PullSecrets.Proofs.Persist
import PullSecrets.Reconcile.Binding

/-!
# Binding and unbinding accounts

Binding and unbinding change the list of names of one account after the other. They differ in the
change alone, so both are instances of `amend`. What has become of an account is settled by its
own list and by the faults: the work on one account never depends on the others.

## Main facts

* `bindAll_ends`, `unbindAll_ends`: what has become of every account in the end.
* `Swept.pullSecretList_eq`: without failures, every list is the changed one.
* `Swept.no_error`, `Swept.failures_of_broken`: who fails, and what the failures say.
-/

namespace PullSecrets

open Cluster (Persisted Alike)
open Program (ask Ends Leads)

/-! ## Accounts by their places -/

/-- The places of the accounts in some scope that have some property, in ascending order. -/
def Cluster.placesOf (s : Cluster) (scope : ObjectKey → Bool) (wants : ServiceAccount → Bool) :
    List ObjectKey :=
  (s.serviceAccounts.entries.filter fun e => wants e.2 && scope e.1).map (·.1)

/-- The places of the accounts of a namespace that are not bound to a secret. -/
def Cluster.unboundIn (s : Cluster) (inNamespace secret : String) : List ObjectKey :=
  s.placesOf (fun key => inNamespace == key.inNamespace) (!·.references secret)

/-- The places of all accounts that are bound to a secret. -/
def Cluster.boundTo (s : Cluster) (secret : String) : List ObjectKey :=
  s.placesOf (fun _ => true) (·.references secret)

theorem Cluster.mem_placesOf {s : Cluster} {scope : ObjectKey → Bool}
    {wants : ServiceAccount → Bool} {key : ObjectKey} :
    key ∈ s.placesOf scope wants ↔
      ∃ a, s.serviceAccounts.get? key = some a ∧ wants a = true ∧ scope key = true := by
  simp only [placesOf, List.mem_map, List.mem_filter, Bool.and_eq_true]
  constructor
  · rintro ⟨⟨k, a⟩, ⟨hmem, hwants, hscope⟩, rfl⟩
    exact ⟨a, Dict.get?_eq_some_iff.2 hmem, hwants, hscope⟩
  · rintro ⟨a, hget, hwants, hscope⟩
    exact ⟨(key, a), ⟨Dict.get?_eq_some_iff.1 hget, hwants, hscope⟩, rfl⟩

theorem Cluster.mem_unboundIn {s : Cluster} {n secret : String} {key : ObjectKey} :
    key ∈ s.unboundIn n secret ↔
      key.inNamespace = n ∧
        ∃ a, s.serviceAccounts.get? key = some a ∧ secret ∉ a.pullSecretList := by
  simp only [unboundIn, mem_placesOf, beq_iff_eq, Bool.not_eq_true', ServiceAccount.references,
    List.any_eq_false]
  constructor
  · rintro ⟨a, stored, free, rfl⟩
    exact ⟨rfl, a, stored, fun hmem => free secret hmem rfl⟩
  · rintro ⟨rfl, a, stored, free⟩
    refine ⟨a, stored, fun name hmem same => free ?_, rfl⟩
    rw [← same]
    exact hmem

theorem Cluster.mem_boundTo {s : Cluster} {secret : String} {key : ObjectKey} :
    key ∈ s.boundTo secret ↔
      ∃ a, s.serviceAccounts.get? key = some a ∧ secret ∈ a.pullSecretList := by
  simp only [boundTo, mem_placesOf, ServiceAccount.references_iff, and_true]

theorem Cluster.ascending_placesOf (s : Cluster) (scope : ObjectKey → Bool)
    (wants : ServiceAccount → Bool) :
    (s.placesOf scope wants).Pairwise fun a b => compare a b = .lt :=
  List.pairwise_map.2 (s.serviceAccounts.ascending.filter _)

theorem Cluster.nodup_placesOf (s : Cluster) (scope : ObjectKey → Bool)
    (wants : ServiceAccount → Bool) : (s.placesOf scope wants).Nodup :=
  Dict.nodup_of_ascending (s.ascending_placesOf scope wants)

/-- The places depend on the accounts in scope alone. -/
theorem Cluster.placesOf_congr {s t : Cluster} {scope : ObjectKey → Bool}
    (wants : ServiceAccount → Bool)
    (same : ∀ key, scope key = true → t.serviceAccounts.get? key = s.serviceAccounts.get? key) :
    t.placesOf scope wants = s.placesOf scope wants := by
  have entries : (t.serviceAccounts.entries.filter fun e => wants e.2 && scope e.1) =
      s.serviceAccounts.entries.filter fun e => wants e.2 && scope e.1 := by
    -- Both listings are ascending, so it is enough that they have the same members.
    refine Dict.eq_of_mem_iff (t.serviceAccounts.ascending.filter _)
      (s.serviceAccounts.ascending.filter _) ?_
    rintro ⟨key, a⟩
    simp only [List.mem_filter, Bool.and_eq_true, ← Dict.get?_eq_some_iff]
    constructor
    · rintro ⟨stored, hwants, hscope⟩
      exact ⟨same key hscope ▸ stored, hwants, hscope⟩
    · rintro ⟨stored, hwants, hscope⟩
      exact ⟨(same key hscope).symm ▸ stored, hwants, hscope⟩
  rw [placesOf, placesOf, entries]

/-! ## Writes of objects that may be missing -/

namespace Program

variable {α : Type}

theorem leads_unlessMissing {σ : Type} {h : Handler σ} {each : σ → Call → Prop}
    {p : Program StoreError α} {ends : Except StoreError Bool → σ → Prop} {s : σ} :
    p.unlessMissing.Leads h each ends s ↔
      p.Leads h each (fun r t => match r with
        | .ok _ => ends (.ok true) t
        | .error e => ends (if e.isNotFound then .ok false else .error e) t) s := by
  rw [unlessMissing, leads_bind, leads_attempt]
  constructor
  · intro hp
    apply hp.mono
    rintro (e | a) t ht
    · cases missing : e.isNotFound <;> simpa [missing] using ht
    · exact ht
  · intro hp
    apply hp.mono
    rintro (e | a) t ht
    · cases missing : e.isNotFound <;> simpa [missing] using ht
    · exact ht

/-- A write of an object that is stored never finds it missing. -/
theorem Ends.unlessMissing {p : Program StoreError α} {budget : Nat} {kind : ResourceKind}
    {place : Option String} {name : String} {commit : Cluster → α × Cluster} {s : Cluster}
    (hp : p.Ends (Persisted budget kind place name commit s) s) :
    p.unlessMissing.Ends
      (Persisted budget kind place name (fun u => (true, (commit u).2)) s) s := by
  refine leads_unlessMissing.2 (hp.mono ?_)
  rintro (e | a) t ended
  · simp only [ended.not_isNotFound, Bool.false_eq_true, if_false]
    exact ended.map fun _ => true
  · exact ended.map fun _ => true

theorem Keeps.unlessMissing {kept : Cluster → Prop} {p : Program StoreError α}
    (hp : Keeps kept p) : Keeps kept p.unlessMissing := by
  intro s hs
  refine leads_unlessMissing.2 ((hp s hs).mono ?_)
  rintro (e | a) t ht
  · exact ht
  · exact ht

end Program

namespace Binding

/-! ## One account -/

/-- The names with the secret after the others, unless it is among them. -/
def appended (secret : String) (names : List String) : Option (List String) :=
  if secret ∈ names then none else some (names ++ [secret])

/-- The names without the first occurrence of the secret, if there is one. -/
def removed (secret : String) (names : List String) : Option (List String) :=
  if secret ∈ names then some (names.erase secret) else none

/-- Change the list of names of an account, if the change asks for it: whether it was written. -/
def amend (change : List String → Option (List String)) (key : ObjectKey) :
    Program StoreError Bool := do
  match ← ask (.getServiceAccount key.inNamespace key.name) with
  | none => pure false
  | some a =>
    match change a.pullSecretList with
    | none => pure false
    | some names => (ask (.replaceServiceAccount (a.withPullSecrets names))).unlessMissing

@[simp] theorem appended_eq_none_iff {secret : String} {names : List String} :
    appended secret names = none ↔ secret ∈ names := by
  simp [appended]

@[simp] theorem removed_eq_none_iff {secret : String} {names : List String} :
    removed secret names = none ↔ secret ∉ names := by
  simp [removed]

theorem bind_eq_amend (secret : String) : bind secret = amend (appended secret) := by
  funext key
  rw [bind, amend]
  congr 1
  funext found
  cases found with
  | none => rfl
  | some a =>
    simp only [appended, ServiceAccount.references_iff]
    split <;> rfl

theorem unbind_eq_amend (secret : String) : unbind secret = amend (removed secret) := by
  funext key
  rw [unbind, amend]
  congr 1
  funext found
  cases found with
  | none => rfl
  | some a =>
    simp only [removed, ServiceAccount.references_iff]
    split <;> rfl

/-- How the change of one account ends. -/
inductive Amended (policy : RetryPolicy) (change : List String → Option (List String))
    (key : ObjectKey) (s : Cluster) : Except StoreError Bool → Cluster → Prop
  | idle (unasked : ∀ a, s.serviceAccounts.get? key = some a → change a.pullSecretList = none) :
    Amended policy change key s (.ok false) s
  | written {a : ServiceAccount} {names : List String} {r : Except StoreError Bool} {t : Cluster}
    (stored : s.serviceAccounts.get? key = some a) (asked : change a.pullSecretList = some names)
    (ended : Persisted policy.budget .serviceAccount (some key.inNamespace) key.name
      (fun u => (true, (u.putAccount key (a.withPullSecrets names)).2)) s r t) :
    Amended policy change key s r t

/-- The write of a changed list, as one attempt. -/
theorem replace_ends {a : ServiceAccount} {names : List String} {key : ObjectKey} {s : Cluster}
    (stored : s.serviceAccounts.get? key = some a)
    (placed : a.metadata.key .serviceAccount = .ok key) :
    (ask (.replaceServiceAccount (a.withPullSecrets names))).unlessMissing.Ends
      (Persisted 1 .serviceAccount (some key.inNamespace) key.name
        (fun u => (true, (u.putAccount key (a.withPullSecrets names)).2)) s) s := by
  apply Program.Ends.unlessMissing
  refine (Program.leads_ask (c := .replaceServiceAccount (a.withPullSecrets names))).2 ⟨trivial, ?_⟩
  exact Cluster.persisted_replaceServiceAccount (a := a.withPullSecrets names) placed stored rfl rfl

/-- The change of one account, with attempts after conflicts. -/
theorem amend_ends {policy : RetryPolicy} {change : List String → Option (List String)}
    {key : ObjectKey} {s : Cluster}
    (placed : ∀ a, s.serviceAccounts.get? key = some a → a.metadata.key .serviceAccount = .ok key) :
    (Program.retry policy fun _ => amend change key).Ends (Amended policy change key s) s := by
  by_cases unasked : ∀ a, s.serviceAccounts.get? key = some a → change a.pullSecretList = none
  · refine Leads.retry_once (fun _ _ => rfl) ?_
    refine (Program.leads_ask_ok (v := s.serviceAccounts.get? key) rfl).2 ⟨trivial, ?_⟩
    cases stored : s.serviceAccounts.get? key with
    | none => exact ⟨.idle unasked, fun e he => by cases he⟩
    | some a =>
      simp only [unasked a stored]
      exact ⟨.idle unasked, fun e he => by cases he⟩
  · -- A failed attempt has written nothing, so each one finds the account as it was.
    push Not at unasked
    obtain ⟨a, stored, asked⟩ := unasked
    obtain ⟨names, asked⟩ := Option.ne_none_iff_exists'.1 asked
    refine (Ends.retry fun i k => ?_).mono fun r t ended => .written stored asked ended
    refine (Program.leads_ask_ok (v := s.serviceAccounts.get? key) rfl).2 ⟨trivial, ?_⟩
    simp only [stored, asked]
    exact replace_ends (s := s.spend k) stored (placed a stored)

/-! ## Many accounts -/

section Sweep

variable {policy : RetryPolicy} {change : List String → Option (List String)} {s t u : Cluster}
  {key : ObjectKey}

/-- What has become of an account in a sweep over many: the result of its change, and the account
afterwards. The cluster is the one before the sweep. -/
inductive Verdict (change : List String → Option (List String)) (s : Cluster) (key : ObjectKey) :
    Except StoreError Bool → Option ServiceAccount → Prop
  | idle (unasked : ∀ a, s.serviceAccounts.get? key = some a → change a.pullSecretList = none) :
    Verdict change s key (.ok false) (s.serviceAccounts.get? key)
  | changed {a : ServiceAccount} {names : List String} (version : String)
    (stored : s.serviceAccounts.get? key = some a) (asked : change a.pullSecretList = some names)
    (spared : key.inNamespace ∉ s.failingNamespaces) :
    Verdict change s key (.ok true) (some ((a.withPullSecrets names).stamp version))
  | refused {a : ServiceAccount} {names : List String}
    (stored : s.serviceAccounts.get? key = some a) (asked : change a.pullSecretList = some names)
    (broken : key.inNamespace ∈ s.failingNamespaces) :
    Verdict change s key (.error (.injected .serviceAccount key.inNamespace key.name))
      (s.serviceAccounts.get? key)
  | contended {a : ServiceAccount} {names : List String}
    (stored : s.serviceAccounts.get? key = some a) (asked : change a.pullSecretList = some names)
    (spared : key.inNamespace ∉ s.failingNamespaces) (busy : 0 < s.pendingConflicts) :
    Verdict change s key (.error (.conflict .serviceAccount key.name))
      (s.serviceAccounts.get? key)

/-- How far a sweep has come: every account that was worked on has its verdict, and the others are
as before. -/
structure Swept (change : List String → Option (List String)) (s : Cluster)
    (results : List (ObjectKey × Except StoreError Bool)) (t : Cluster) : Prop where
  rest : Alike { s with serviceAccounts := t.serviceAccounts } t
  verdict : ∀ key r, (key, r) ∈ results → Verdict change s key r (t.serviceAccounts.get? key)
  others : ∀ key, key ∉ results.map (·.1) →
    t.serviceAccounts.get? key = s.serviceAccounts.get? key

theorem Swept.nil (change : List String → Option (List String)) (s : Cluster) :
    Swept change s [] s where
  rest := Alike.refl s
  verdict := fun _ _ h => by cases h
  others := fun _ _ => rfl

/-- The change of one more account gives it its verdict, and leaves the others as they are. -/
theorem Amended.verdict {r : Except StoreError Bool}
    (rest : Alike { s with serviceAccounts := t.serviceAccounts } t)
    (untouched : t.serviceAccounts.get? key = s.serviceAccounts.get? key)
    (ended : Amended policy change key t r u) :
    Alike { s with serviceAccounts := u.serviceAccounts } u ∧
      Verdict change s key r (u.serviceAccounts.get? key) ∧
      ∀ other, other ≠ key → u.serviceAccounts.get? other = t.serviceAccounts.get? other := by
  -- The verdict speaks of `s`, the attempts were made in `t`: the account and the faults agree.
  have faults : t.failingNamespaces = s.failingNamespaces := rest.failingNamespaces
  cases ended with
  | idle unasked =>
    rw [untouched] at unasked ⊢
    exact ⟨rest, .idle unasked, fun _ _ => rfl⟩
  | @written a names _ _ stored asked ended =>
    rw [untouched] at stored
    cases ended with
    | through spared few =>
      have spared : key.inNamespace ∉ s.failingNamespaces := faults ▸ spared _ rfl
      refine ⟨⟨rest.pullers, rest.namespaces, rest.secrets, rfl, rest.listsFail,
        rest.failingNamespaces, Nat.zero_le _⟩, ?_, ?_⟩
      · have now : (t.calm.putAccount key (a.withPullSecrets names)).2.serviceAccounts.get? key =
            some ((a.withPullSecrets names).stamp t.calm.advance.versionText) := by
          simp [Cluster.putAccount]
        rw [now]
        exact .changed _ stored asked spared
      · intro other hother
        simp [Cluster.putAccount, Cluster.calm, hother]
    | @refused ns at_place broken =>
      cases at_place
      rw [untouched]
      exact ⟨rest, .refused stored asked (faults ▸ broken), fun _ _ => rfl⟩
    | contended spared many =>
      have spared : key.inNamespace ∉ s.failingNamespaces := faults ▸ spared _ rfl
      -- Conflicts are only used up, so those that beat every attempt were there from the start.
      have busy : 0 < s.pendingConflicts := by
        have fewer : t.pendingConflicts ≤ s.pendingConflicts := rest.pendingConflicts
        have positive := policy.budget_pos
        omega
      refine ⟨rest.trans (Cluster.alike_spend _ t), ?_, fun _ _ => rfl⟩
      show Verdict change s key _ (t.serviceAccounts.get? key)
      rw [untouched]
      exact .contended stored asked spared busy

theorem Swept.step {results : List (ObjectKey × Except StoreError Bool)}
    {r : Except StoreError Bool} (h : Swept change s results t)
    (new : key ∉ results.map (·.1)) (ended : Amended policy change key t r u) :
    Swept change s (results ++ [(key, r)]) u := by
  obtain ⟨rest, verdict, others⟩ := ended.verdict h.rest (h.others key new)
  refine ⟨rest, ?_, ?_⟩
  · intro k q hmem
    rcases List.mem_append.1 hmem with earlier | last
    · have differs : k ≠ key := by
        rintro rfl
        exact new (List.mem_map.2 ⟨_, earlier, rfl⟩)
      rw [others k differs]
      exact h.verdict k q earlier
    · cases List.mem_singleton.1 last
      exact verdict
  · intro k hk
    simp only [List.map_append, List.map_cons, List.map_nil, List.mem_append,
      List.mem_singleton, not_or] at hk
    rw [others k hk.2, h.others k hk.1]

/-- The result of a sweep. -/
def outcome (results : List (ObjectKey × Except StoreError Bool)) : Except ReconcileError Nat :=
  if (failures results).isEmpty then .ok (written results) else .error (.several (failures results))

/-- Several accounts, each one once. -/
theorem changeAll_ends {keys : List ObjectKey} (nodup : keys.Nodup) (filed : s.Filed) :
    (changeAll policy (amend change) keys).Ends
      (fun r t => ∃ results, results.map (·.1) = keys ∧ Swept change s results t ∧
        r = outcome results) s := by
  rw [changeAll, Ends, Program.leads_bind]
  refine (Leads.forEach (Swept change s) ?_ (Swept.nil change s)).mono ?_
  · intro results key rest t hkeys h
    have new : key ∉ results.map (·.1) := Program.not_mem_of_reached nodup hkeys
    refine (amend_ends fun a stored => ?_).mono fun r u ended => h.step new ended
    rw [h.others key new] at stored
    exact filed.accounts key a stored
  · rintro _ t ⟨results, rfl, hkeys, h⟩
    exact Program.leads_settle.2 ⟨results, hkeys, h, rfl⟩

/-! ## What a sweep comes to -/

variable {results : List (ObjectKey × Except StoreError Bool)}

/-- A sweep succeeds if no account fails. -/
theorem outcome_eq_ok_iff {n : Nat} :
    outcome results = .ok n ↔ (∀ key e, (key, .error e) ∉ results) ∧ written results = n := by
  have nothing : (failures results).isEmpty = true ↔ ∀ key e, (key, .error e) ∉ results := by
    rw [Aggregate.isEmpty, List.isEmpty_iff, failures, List.filterMap_eq_nil_iff]
    constructor
    · intro h key e hmem
      simpa using h _ hmem
    · rintro h ⟨key, e | b⟩ hmem
      · exact absurd hmem (h key e)
      · rfl
  rw [outcome]
  split
  next none => simp [nothing.1 none]
  next some =>
    constructor
    · intro h
      cases h
    · rintro ⟨h, -⟩
      exact absurd (nothing.2 h) some

/-- A sweep that does not succeed tells the failures, and there are some. -/
theorem outcome_eq_error {e : ReconcileError} (h : outcome results = .error e) :
    e = .several (failures results) ∧ (failures results).entries ≠ [] := by
  rw [outcome] at h
  split at h
  next none => cases h
  next some =>
    cases h
    refine ⟨rfl, fun none => some ?_⟩
    rw [Aggregate.isEmpty, none]
    rfl

/-- Without failures every account in scope has the changed list. -/
theorem Swept.pullSecretList_eq (h : Swept change s results t) (key : ObjectKey)
    (fine : ∀ key e, (key, .error e) ∉ results)
    (covered : ∀ a, s.serviceAccounts.get? key = some a → change a.pullSecretList ≠ none →
      key ∈ results.map (·.1)) :
    (t.serviceAccounts.get? key).map (·.pullSecretList) =
      (s.serviceAccounts.get? key).map fun a =>
        (change a.pullSecretList).getD a.pullSecretList := by
  have idle : ∀ o : Option ServiceAccount, (∀ a, o = some a → change a.pullSecretList = none) →
      o.map (·.pullSecretList) =
        o.map fun a => (change a.pullSecretList).getD a.pullSecretList := by
    rintro (_ | a) ha
    · rfl
    · simp [ha a rfl]
  by_cases hkey : key ∈ results.map (·.1)
  · obtain ⟨⟨_, r⟩, hmem, rfl⟩ := List.mem_map.1 hkey
    have verdict := h.verdict _ r hmem
    cases hr : r with
    | error e => exact absurd (hr ▸ hmem) (fine _ e)
    | ok b =>
      subst hr
      -- The account after the sweep is an index of the verdict, so it has to be a variable.
      generalize after : t.serviceAccounts.get? _ = o at verdict ⊢
      cases verdict with
      | idle unasked => exact idle _ unasked
      | changed version stored asked spared => simp [stored, asked]
  · rw [h.others key hkey]
    refine idle _ fun a stored => ?_
    by_contra asked
    exact hkey (covered a stored asked)

/-- After a sweep every account is related to itself before, if the relation allows for accounts
that are as before and for changed lists. -/
theorem Swept.rel {R : ServiceAccount → ServiceAccount → Prop} (h : Swept change s results t)
    (same : ∀ a, R a a)
    (changed : ∀ a names version, change a.pullSecretList = some names →
      R a ((a.withPullSecrets names).stamp version)) (key : ObjectKey) :
    Option.Rel R (s.serviceAccounts.get? key) (t.serviceAccounts.get? key) := by
  have unchanged : ∀ o : Option ServiceAccount, Option.Rel R o o := by
    rintro (_ | a)
    · exact .none
    · exact .some (same a)
  by_cases hkey : key ∈ results.map (·.1)
  · obtain ⟨⟨_, r⟩, hmem, rfl⟩ := List.mem_map.1 hkey
    have verdict := h.verdict _ r hmem
    generalize t.serviceAccounts.get? _ = o at verdict ⊢
    cases verdict with
    | idle | refused | contended => exact unchanged _
    | @changed a names version stored asked spared =>
      rw [stored]
      exact .some (changed a names version asked)
  · rw [h.others key hkey]
    exact unchanged _

/-- An account that asks for a change, and does not fail, has the changed list. -/
theorem Swept.get?_of_ok (h : Swept change s results t) {a : ServiceAccount} {names : List String}
    {b : Bool} (stored : s.serviceAccounts.get? key = some a)
    (asked : change a.pullSecretList = some names) (hmem : (key, .ok b) ∈ results) :
    ∃ version, t.serviceAccounts.get? key = some ((a.withPullSecrets names).stamp version) := by
  have verdict := h.verdict key _ hmem
  generalize t.serviceAccounts.get? key = o at verdict ⊢
  cases verdict with
  | idle unasked => cases asked.symm.trans (unasked a stored)
  | changed version stored' asked' spared =>
    obtain rfl := Option.some.inj (stored.symm.trans stored')
    obtain rfl := Option.some.inj (asked.symm.trans asked')
    exact ⟨version, rfl⟩

/-- An account that fails is as before. -/
theorem Swept.get?_of_error (h : Swept change s results t) {e : StoreError}
    (hmem : (key, .error e) ∈ results) :
    t.serviceAccounts.get? key = s.serviceAccounts.get? key := by
  have verdict := h.verdict key _ hmem
  generalize t.serviceAccounts.get? key = o at verdict ⊢
  cases verdict with
  | refused | contended => rfl

/-- In a broken namespace every account is as before. -/
theorem Swept.get?_of_broken (h : Swept change s results t)
    (broken : key.inNamespace ∈ s.failingNamespaces) :
    t.serviceAccounts.get? key = s.serviceAccounts.get? key := by
  by_cases hkey : key ∈ results.map (·.1)
  · obtain ⟨⟨_, r⟩, hmem, rfl⟩ := List.mem_map.1 hkey
    have verdict := h.verdict _ r hmem
    generalize t.serviceAccounts.get? _ = o at verdict ⊢
    cases verdict with
    | idle | refused | contended => rfl
    | changed version stored asked spared => exact absurd broken spared
  · exact h.others key hkey

/-- Without pending conflicts no account fails outside the broken namespaces. -/
theorem Swept.no_error (h : Swept change s results t) (calm : s.pendingConflicts = 0)
    (spared : key.inNamespace ∉ s.failingNamespaces) (e : StoreError) :
    (key, .error e) ∉ results := by
  intro hmem
  have verdict := h.verdict _ _ hmem
  generalize t.serviceAccounts.get? _ = o at verdict
  cases verdict with
  | refused stored asked broken => exact spared broken
  | contended stored asked _ busy => omega

/-- In a broken namespace every account fails that asks for a change. -/
theorem Swept.failures_of_broken (h : Swept change s results t)
    (broken : ∀ key ∈ results.map (·.1), key.inNamespace ∈ s.failingNamespaces)
    (asked : ∀ key ∈ results.map (·.1), ∃ a, s.serviceAccounts.get? key = some a ∧
      change a.pullSecretList ≠ none) :
    (failures results).entries = (results.map (·.1)).map fun key =>
      Aggregate.about ("service account " ++ key.text)
        (StoreError.injected .serviceAccount key.inNamespace key.name).message := by
  have each : ∀ x ∈ results,
      x = (x.1, .error (.injected .serviceAccount x.1.inNamespace x.1.name)) := by
    rintro ⟨key, r⟩ hmem
    have hkey : key ∈ results.map (·.1) := List.mem_map.2 ⟨_, hmem, rfl⟩
    obtain ⟨a, stored, asked⟩ := asked key hkey
    have verdict := h.verdict key r hmem
    generalize t.serviceAccounts.get? key = o at verdict
    cases verdict with
    | idle unasked => exact absurd (unasked a stored) asked
    | changed version _ _ spared => exact absurd (broken key hkey) spared
    | refused => rfl
    | contended _ _ spared _ => exact absurd (broken key hkey) spared
  -- From here on only the shape of the entries counts, and it passes on to the tail.
  clear h broken asked
  rw [failures]
  induction results with
  | nil => rfl
  | cons x rest ih =>
    have head := each x List.mem_cons_self
    have tail := ih fun y hy => each y (List.mem_cons_of_mem x hy)
    rw [head]
    simpa using tail

end Sweep

/-! ## All accounts of a namespace, and of the cluster -/

section All

variable {policy : RetryPolicy} {secret : String} {s : Cluster}

/-- The keys by which the accounts of a listing are worked on are their places. -/
theorem map_placesOf (filed : s.Filed) (scope : ObjectKey → Bool) (wants : ServiceAccount → Bool)
    (place : ServiceAccount → ObjectKey)
    (own : ∀ key a, scope key = true → a.metadata.key .serviceAccount = .ok key → place a = key) :
    ((((s.serviceAccounts.entries.filter fun e => scope e.1).map (·.2)).filter wants).map place) =
      s.placesOf scope wants := by
  rw [Cluster.placesOf, List.filter_map, List.filter_filter, List.map_map]
  apply List.map_congr_left
  rintro ⟨key, a⟩ hmem
  rw [List.mem_filter] at hmem
  obtain ⟨hmem, hscope⟩ := hmem
  have stored : s.serviceAccounts.get? key = some a := Dict.get?_eq_some_iff.2 hmem
  simp only [Function.comp_apply, Bool.and_eq_true] at hscope
  exact own key a hscope.2 (filed.accounts key a stored)

/-- The accounts of a namespace that are not bound are worked on by their places. -/
theorem map_unboundIn (filed : s.Filed) (inNamespace secret : String) :
    (((s.serviceAccounts.entries.filter fun e => inNamespace == e.1.inNamespace).map (·.2)).filter
      (!·.references secret)).map
        (fun a => (⟨inNamespace, a.metadata.effectiveName⟩ : ObjectKey)) =
      s.unboundIn inNamespace secret := by
  refine map_placesOf filed (fun key => inNamespace == key.inNamespace) (!·.references secret)
    (fun a => ⟨inNamespace, a.metadata.effectiveName⟩) ?_
  rintro ⟨ns, name⟩ a hscope placed
  rw [beq_iff_eq] at hscope
  rw [hscope, (Metadata.key_eq_ok_iff.1 placed).2]

/-- Listing the accounts of a namespace where lists work. -/
theorem answer_listServiceAccounts (inNamespace : String) (lists : s.listsFail = false) :
    s.answer (.listServiceAccounts (some inNamespace)) =
      (.ok ((s.serviceAccounts.entries.filter fun e => inNamespace == e.1.inNamespace).map (·.2)),
        s) := by
  show (s.listServiceAccounts (some inNamespace), s) = _
  simp [Cluster.listServiceAccounts, Cluster.list, lists]

/-- All accounts that are bound are worked on by their places. -/
theorem map_boundTo (filed : s.Filed) (secret : String) :
    (((s.serviceAccounts.entries.map (·.2)).filter (·.references secret)).map (·.key)) =
      s.boundTo secret := by
  have all : s.serviceAccounts.entries =
      s.serviceAccounts.entries.filter fun e => (fun _ => true) e.1 := by simp
  rw [all]
  refine map_placesOf filed (fun _ => true) (·.references secret) (·.key) ?_
  rintro ⟨ns, name⟩ a - placed
  obtain ⟨hns, hname⟩ := Metadata.key_eq_ok_iff.1 placed
  rw [ServiceAccount.key, hns, hname]
  rfl

/-- Listing all accounts where lists work. -/
theorem answer_listAllServiceAccounts (lists : s.listsFail = false) :
    s.answer (.listServiceAccounts none) = (.ok (s.serviceAccounts.entries.map (·.2)), s) := by
  show (s.listServiceAccounts none, s) = _
  simp [Cluster.listServiceAccounts, Cluster.list, lists]

/-- Listing accounts where lists fail. -/
theorem answer_listServiceAccounts_of_fails (scope : Option String) (fails : s.listsFail = true) :
    s.answer (.listServiceAccounts scope) =
      (.error (.api 503 ("injected list failure for " ++ ResourceKind.serviceAccount.text)),
        s) := by
  show (s.listServiceAccounts scope, s) = _
  simp [Cluster.listServiceAccounts, Cluster.list, fails]

/-- Binding all accounts of a namespace: the listing fails, or every account that is not bound has
its verdict. -/
theorem bindAll_ends (filed : s.Filed) (inNamespace : String) :
    (bindAll policy inNamespace secret).Ends
      (fun r t => (s.listsFail = true ∧ t = s ∧ ∃ e, r = .error (.store e)) ∨
        (s.listsFail = false ∧ ∃ results, results.map (·.1) = s.unboundIn inNamespace secret ∧
          Swept (appended secret) s results t ∧ r = outcome results)) s := by
  cases lists : s.listsFail with
  | true =>
    rw [bindAll, Ends, Program.leads_bind, Program.leads_liftM, Program.leads_ask]
    have answered : Cluster.handler.call (.listServiceAccounts (some inNamespace)) s = _ :=
      answer_listServiceAccounts_of_fails (some inNamespace) lists
    rw [answered]
    exact ⟨trivial, .inl ⟨rfl, rfl, _, rfl⟩⟩
  | false =>
    refine (Program.leads_liftM_ask_ok (answer_listServiceAccounts inNamespace lists)).2
      ⟨trivial, ?_⟩
    dsimp only
    rw [map_unboundIn filed, bind_eq_amend]
    exact (changeAll_ends (s.nodup_placesOf _ _) filed).mono fun r t ended => .inr ⟨rfl, ended⟩

/-- Unbinding all accounts of the cluster: the listing fails, or every account that is bound has
its verdict. -/
theorem unbindAll_ends (filed : s.Filed) :
    (unbindAll policy secret).Ends
      (fun r t => (s.listsFail = true ∧ t = s ∧ ∃ e, r = .error (.store e)) ∨
        (s.listsFail = false ∧ ∃ results, results.map (·.1) = s.boundTo secret ∧
          Swept (removed secret) s results t ∧ r = outcome results)) s := by
  cases lists : s.listsFail with
  | true =>
    rw [unbindAll, Ends, Program.leads_bind, Program.leads_liftM, Program.leads_ask]
    have answered : Cluster.handler.call (.listServiceAccounts none) s = _ :=
      answer_listServiceAccounts_of_fails none lists
    rw [answered]
    exact ⟨trivial, .inl ⟨rfl, rfl, _, rfl⟩⟩
  | false =>
    refine (Program.leads_liftM_ask_ok (answer_listAllServiceAccounts lists)).2 ⟨trivial, ?_⟩
    dsimp only
    rw [map_boundTo filed, unbind_eq_amend]
    exact (changeAll_ends (s.nodup_placesOf _ _) filed).mono fun r t ended => .inr ⟨rfl, ended⟩

end All

end Binding

end PullSecrets
