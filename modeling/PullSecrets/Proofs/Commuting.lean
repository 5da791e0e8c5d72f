import PullSecrets.Proofs.Abreast

/-!
# Reconciles in either order

Two live pullers without a common target do not get in each other's way: it makes no difference in
which order they are reconciled. Each of them finds the same in its targets whether the other one
was there before or not, so it comes to the same result and leaves the same behind. The order shows
in what is given out one after the other, in versions and in the identities of new secrets, and in
what the clocks say.

## Main facts

* `Cluster.blurred`: a cluster without what depends on the order.
* `Cluster.Identified.of_answer`: no call gives a stored secret another identity.
* `Cluster.Crossed.blurred_eq`: both ways around come to the same.
* `Reconcile.commuted_of_reconcile`: the reconciles of two pullers in either order.
-/

namespace PullSecrets

namespace Cluster

variable {s t u a c : Cluster} {p : Puller}

/-! ## Clusters without what depends on the order -/

/-- The cluster without what depends on the order of writes and on the clock: versions, times of
conditions, and the identities of secrets that were not there in an earlier cluster. -/
def blurred (s earlier : Cluster) : Cluster :=
  { s with
    pullers := s.pullers.map fun _ p => p.blurred
    secrets := s.secrets.map fun key x => x.blurred (earlier.secrets.contains key)
    serviceAccounts := s.serviceAccounts.map fun _ a => a.blurred }

/-- Clusters are told apart by their counters, their faults and their objects. -/
theorem blurred_congr {earlier : Cluster} (version : t.version = s.version)
    (identities : t.identities = s.identities) (writes : t.writes = s.writes)
    (pendingConflicts : t.pendingConflicts = s.pendingConflicts)
    (listsFail : t.listsFail = s.listsFail)
    (failingNamespaces : t.failingNamespaces = s.failingNamespaces)
    (namespaces : t.namespaces = s.namespaces)
    (pullers : ∀ name,
      (t.pullers.get? name).map Puller.blurred = (s.pullers.get? name).map Puller.blurred)
    (secrets : ∀ key,
      (t.secrets.get? key).map (Secret.blurred (earlier.secrets.contains key)) =
        (s.secrets.get? key).map (Secret.blurred (earlier.secrets.contains key)))
    (accounts : ∀ key, (t.serviceAccounts.get? key).map ServiceAccount.blurred =
      (s.serviceAccounts.get? key).map ServiceAccount.blurred) :
    t.blurred earlier = s.blurred earlier := by
  have pullers : (t.pullers.map fun _ p => p.blurred) = s.pullers.map fun _ p => p.blurred :=
    Dict.ext_get? fun name => by simpa using pullers name
  have secrets : (t.secrets.map fun key x => x.blurred (earlier.secrets.contains key)) =
      s.secrets.map fun key x => x.blurred (earlier.secrets.contains key) :=
    Dict.ext_get? fun key => by simpa using secrets key
  have accounts : (t.serviceAccounts.map fun _ a => a.blurred) =
      s.serviceAccounts.map fun _ a => a.blurred :=
    Dict.ext_get? fun key => by simpa using accounts key
  rw [blurred, blurred, pullers, secrets, accounts, version, identities, writes, pendingConflicts,
    listsFail, failingNamespaces, namespaces]

/-! ## Identities of stored secrets -/

/-- Every secret of the first cluster is stored in the second one, under the same identity. -/
def Identified (s t : Cluster) : Prop :=
  ∀ key x, s.secrets.get? key = some x →
    ∃ y, t.secrets.get? key = some y ∧ y.metadata.uid = x.metadata.uid

namespace Identified

theorem refl (s : Cluster) : s.Identified s := fun _ x stored => ⟨x, stored, rfl⟩

theorem trans (hst : s.Identified t) (htu : t.Identified u) : s.Identified u := by
  intro key x stored
  obtain ⟨y, stored, same⟩ := hst key x stored
  obtain ⟨z, stored, same'⟩ := htu key y stored
  exact ⟨z, stored, same'.trans same⟩

theorem of_secrets_eq (same : t.secrets = s.secrets) : s.Identified t :=
  fun _ x stored => ⟨x, same ▸ stored, rfl⟩

/-- A call removes no secret, and it gives no stored secret another identity. -/
theorem of_answer (s : Cluster) (c : Call) : s.Identified (s.answer c).2 := by
  cases c with
  | getPuller | listNamespaces | getSecret | listServiceAccounts | getServiceAccount => exact refl s
  | replacePuller p =>
    rcases replacePuller_cases p s with ⟨-, same⟩ | ⟨old, version, -, -, ⟨-, -, same⟩ | ⟨-, same⟩⟩
    · exact of_secrets_eq same.secrets
    · exact of_secrets_eq same.secrets
    · exact of_secrets_eq same.secrets
  | replacePullerStatus p =>
    rcases replacePullerStatus_cases p s with ⟨-, same⟩ | ⟨old, version, -, -, same⟩
    · exact of_secrets_eq same.secrets
    · exact of_secrets_eq same.secrets
  | replaceServiceAccount a =>
    rcases replaceServiceAccount_cases a s with ⟨-, same⟩ | ⟨key, old, version, -, -, -, same⟩
    · exact of_secrets_eq same.secrets
    · exact of_secrets_eq same.secrets
  | createSecret x =>
    rcases createSecret_cases x s with ⟨-, same⟩ | ⟨key, version, uid, -, free, -, same⟩
    · exact of_secrets_eq same.secrets
    · refine trans (t := { s with secrets := s.secrets.insert key (x.identified version uid) }) ?_
        (of_secrets_eq same.secrets)
      intro other y stored
      have differs : other ≠ key := by
        rintro rfl
        cases free.symm.trans stored
      exact ⟨y, by rw [Dict.get?_insert, if_neg differs, stored], rfl⟩
  | replaceSecret x =>
    rcases replaceSecret_cases x s with ⟨-, same⟩ | ⟨key, old, version, -, found, -, same⟩
    · exact of_secrets_eq same.secrets
    · refine trans (t := { s with secrets := s.secrets.insert key (x.inPlaceOf old version) }) ?_
        (of_secrets_eq same.secrets)
      intro other y stored
      by_cases this : other = key
      · subst this
        obtain rfl := Option.some.inj (found.symm.trans stored)
        exact ⟨x.inPlaceOf old version, by rw [Dict.get?_insert, if_pos rfl], rfl⟩
      · exact ⟨y, by rw [Dict.get?_insert, if_neg this, stored], rfl⟩

end Identified

/-! ## One reconcile -/

/-- What the reconcile of a live puller leaves as it was, in a cluster without pending conflicts. -/
structure Separate (p : Puller) (s t : Cluster) : Prop where
  apart : s.Apart p t
  filed : t.Filed
  calm : t.pendingConflicts = 0
  failingNamespaces : t.failingNamespaces = s.failingNamespaces
  identified : s.Identified t

end Cluster

namespace Reconcile

open Cluster (Separate Abreast)

variable {config : Config} {p : Puller} {name : String} {s t c : Cluster}

/-- The reconcile of a live puller. -/
theorem separate_of_live (filed : s.Filed) (calm : s.pendingConflicts = 0)
    (stored : s.pullers.get? name = some p) (live : p.metadata.isTerminating = false) :
    (reconcile config name).Ends (fun _ t => s.Separate p t) s := by
  have identified : (reconcile config name).Ends (fun _ t => s.Identified t) s :=
    (Program.Keeps.of_calls (fun t c before => before.trans (.of_answer t c)) _ s (.refl s)).ends
  refine ((((attended_of_live filed stored live).and
    (reconcile_ends_of_live filed stored live)).and (Program.ends_filed _ filed)).and
      identified).mono ?_
  rintro r t ⟨⟨⟨attended, reconciled⟩, filed⟩, identified⟩
  exact ⟨attended.apart, filed, Nat.le_zero.1 (calm ▸ reconciled.rest.pendingConflicts),
    reconciled.rest.failingNamespaces, identified⟩

end Reconcile

namespace Cluster

variable {s t a b c d : Cluster} {p q : Puller} {key : ObjectKey} {n : String}

/-- A puller without a target in common with another one finds the same after its reconcile. -/
theorem Separate.abreast (h : s.Separate q t) (filed : s.Filed) (calm : s.pendingConflicts = 0)
    (disjoint : ∀ n ∈ s.targets p.spec.namespaceSelector,
      n ∉ s.targets q.spec.namespaceSelector) :
    Abreast (s.targets p.spec.namespaceSelector) s t s t where
  filed := filed
  filed' := h.filed
  calm := calm
  calm' := h.calm
  listsFail := h.apart.listsFail
  failingNamespaces := h.failingNamespaces
  namespaces := h.apart.namespaces
  there := fun _ hn => contains_of_mem_targets hn
  secrets := by
    intro key inside
    rw [(h.apart.elsewhere _ (disjoint _ inside)).secrets key rfl]
  accounts := by
    intro key inside
    rw [(h.apart.elsewhere _ (disjoint _ inside)).accounts key rfl]
  version := Nat.add_comm _ _
  identities := Nat.add_comm _ _
  writes := Nat.add_comm _ _

/-! ## Both ways around -/

/-- From a first cluster the puller `p` has led to `a` and then the puller `q` to `b`, and the other
way around `q` has led to `c` and then `p` to `d`. -/
structure Crossed (p q : Puller) (s a b c d : Cluster) : Prop where
  distinct : p.name ≠ q.name
  disjoint : ∀ n ∈ s.targets p.spec.namespaceSelector, n ∉ s.targets q.spec.namespaceSelector
  first : s.Separate p a
  second : a.Separate q b
  first' : s.Separate q c
  second' : c.Separate p d
  abreast : Abreast (s.targets p.spec.namespaceSelector) s c a d
  abreast' : Abreast (s.targets q.spec.namespaceSelector) s a c b
  own : (d.pullers.get? p.name).map Puller.blurred = (a.pullers.get? p.name).map Puller.blurred
  own' : (b.pullers.get? q.name).map Puller.blurred = (c.pullers.get? q.name).map Puller.blurred

namespace Crossed

theorem symm (h : Crossed p q s a b c d) : Crossed q p s c d a b where
  distinct := h.distinct.symm
  disjoint := fun n hn other => h.disjoint n other hn
  first := h.first'
  second := h.second'
  first' := h.first
  second' := h.second
  abreast := h.abreast'
  abreast' := h.abreast
  own := h.own'
  own' := h.own

theorem pullers (h : Crossed p q s a b c d) (name : String) :
    (d.pullers.get? name).map Puller.blurred = (b.pullers.get? name).map Puller.blurred := by
  by_cases hp : name = p.name
  · subst hp
    rw [h.own, h.second.apart.pullers _ h.distinct]
  · by_cases hq : name = q.name
    · subst hq
      rw [h.own', h.second'.apart.pullers _ hp]
    · rw [h.second'.apart.pullers _ hp, h.first'.apart.pullers _ hq, h.second.apart.pullers _ hq,
        h.first.apart.pullers _ hp]

/-- The second reconcile leaves alone what is no target of its puller. -/
theorem sameIn (h : Crossed p q s a b c d) (outside : n ∉ s.targets q.spec.namespaceSelector) :
    a.SameIn n b := by
  refine h.second.apart.elsewhere n ?_
  rw [targets_congr _ h.first.apart.namespaces]
  exact outside

/-- A namespace that is no target is left alone both ways. -/
theorem sameIn_of_neither (h : Crossed p q s a b c d)
    (hp : n ∉ s.targets p.spec.namespaceSelector) (hq : n ∉ s.targets q.spec.namespaceSelector) :
    b.SameIn n d :=
  (((h.first.apart.elsewhere n hp).trans (h.sameIn hq)).symm.trans
    (h.first'.apart.elsewhere n hq)).trans (h.symm.sameIn hp)

/-- Both ways leave the same secrets: every place is in a target of the one puller, or of the other,
or of neither. -/
theorem secrets (h : Crossed p q s a b c d) (key : ObjectKey) :
    (d.secrets.get? key).map (Secret.blurred false) =
      (b.secrets.get? key).map (Secret.blurred false) := by
  by_cases hp : key.inNamespace ∈ s.targets p.spec.namespaceSelector
  · rw [h.abreast.secrets key hp, (h.sameIn (h.disjoint _ hp)).secrets key rfl]
  · by_cases hq : key.inNamespace ∈ s.targets q.spec.namespaceSelector
    · rw [h.abreast'.secrets key hq, (h.symm.sameIn hp).secrets key rfl]
    · rw [(h.sameIn_of_neither hp hq).secrets key rfl]

theorem accounts (h : Crossed p q s a b c d) (key : ObjectKey) :
    (d.serviceAccounts.get? key).map ServiceAccount.blurred =
      (b.serviceAccounts.get? key).map ServiceAccount.blurred := by
  by_cases hp : key.inNamespace ∈ s.targets p.spec.namespaceSelector
  · rw [h.abreast.accounts key hp, (h.sameIn (h.disjoint _ hp)).accounts key rfl]
  · by_cases hq : key.inNamespace ∈ s.targets q.spec.namespaceSelector
    · rw [h.abreast'.accounts key hq, (h.symm.sameIn hp).accounts key rfl]
    · rw [(h.sameIn_of_neither hp hq).accounts key rfl]

/-- A secret that was there before has its identity both ways. -/
theorem secrets_known (h : Crossed p q s a b c d) (key : ObjectKey) :
    (d.secrets.get? key).map (Secret.blurred (s.secrets.contains key)) =
      (b.secrets.get? key).map (Secret.blurred (s.secrets.contains key)) := by
  cases before : s.secrets.get? key with
  | none =>
    have unknown : s.secrets.contains key = false := by simp [Dict.contains, before]
    rw [unknown]
    exact h.secrets key
  | some x =>
    obtain ⟨y, hy, same⟩ := (h.first.identified.trans h.second.identified) key x before
    obtain ⟨z, hz, same'⟩ := (h.first'.identified.trans h.second'.identified) key x before
    have blurred := h.secrets key
    rw [hy, hz, Option.map_some, Option.map_some, Option.some.injEq] at blurred
    rw [hy, hz, Option.map_some, Option.map_some,
      Secret.blurred_congr blurred (same'.trans same.symm)]

/-- Both ways come to the same, up to what depends on the order. -/
theorem blurred_eq (h : Crossed p q s a b c d) : d.blurred s = b.blurred s := by
  -- What `p` has counted is the same both ways, and so is what `q` has counted.
  have counted := h.abreast
  have counted' := h.abreast'
  refine blurred_congr ?_ ?_ ?_ (h.second'.calm.trans h.second.calm.symm) ?_ ?_ ?_ h.pullers
    h.secrets_known h.accounts
  · have := counted.version
    have := counted'.version
    omega
  · have := counted.identities
    have := counted'.identities
    omega
  · have := counted.writes
    have := counted'.writes
    omega
  · rw [h.second'.apart.listsFail, h.first'.apart.listsFail, h.second.apart.listsFail,
      h.first.apart.listsFail]
  · rw [h.second'.failingNamespaces, h.first'.failingNamespaces, h.second.failingNamespaces,
      h.first.failingNamespaces]
  · rw [h.second'.apart.namespaces, h.first'.apart.namespaces, h.second.apart.namespaces,
      h.first.apart.namespaces]

end Crossed

end Cluster

/-! ## Two reconciles in either order -/

namespace Reconcile

variable {σ τ : Type} {p q : Puller} {name other : String}

/-- Two live pullers without a common target may be reconciled in either order, whichever namespaces
fail, and whether listings fail or not. Each of them comes to the same result, and the clusters in
the end are the same, up to versions, identities of secrets that were not there before, and times
of conditions. -/
theorem commuted_of_reconcile (w : Surroundings σ) (w' : Surroundings τ) (config : Config) {x : σ}
    {y : τ} (same : w'.cluster y = w.cluster x) (reachable : Reachable (w.cluster x))
    (calm : (w.cluster x).pendingConflicts = 0)
    (stored : (w.cluster x).pullers.get? name = some p) (live : p.metadata.isTerminating = false)
    (stored' : (w.cluster x).pullers.get? other = some q)
    (live' : q.metadata.isTerminating = false) (distinct : name ≠ other)
    (disjoint : ∀ n ∈ (w.cluster x).targets p.spec.namespaceSelector,
      n ∉ (w.cluster x).targets q.spec.namespaceSelector) :
    let s := w.cluster x
    let a := (reconcile config name).run w.toHandler x
    let b := (reconcile config other).run w.toHandler a.2
    let c := (reconcile config other).run w'.toHandler y
    let d := (reconcile config name).run w'.toHandler c.2
    d.1 = a.1 ∧ b.1 = c.1 ∧ (w'.cluster d.2).blurred s = (w.cluster b.2).blurred s := by
  intro s a b c d
  have filed := reachable.filed
  obtain rfl : p.name = name := filed.pullers name p stored
  obtain rfl : q.name = other := filed.pullers other q stored'
  have disjoint' : ∀ n ∈ s.targets q.spec.namespaceSelector,
      n ∉ s.targets p.spec.namespaceSelector := fun n hn target => disjoint n target hn
  have first : s.Separate p (w.cluster a.2) :=
    (separate_of_live filed calm stored live).run
  have from_y : (reconcile config q.name).Ends (fun _ t => s.Separate q t) (w'.cluster y) := by
    rw [same]
    exact separate_of_live filed calm stored' live'
  have first' : s.Separate q (w'.cluster c.2) := from_y.run
  -- The puller that comes second is stored as it was.
  have stored_a : (w.cluster a.2).pullers.get? q.name = some q :=
    (first.apart.pullers _ distinct.symm).trans stored'
  have stored_c : (w'.cluster c.2).pullers.get? p.name = some p :=
    (first'.apart.pullers _ distinct).trans stored
  have second : (w.cluster a.2).Separate q (w.cluster b.2) :=
    (separate_of_live first.filed first.calm stored_a live').run
  have second' : (w'.cluster c.2).Separate p (w'.cluster d.2) :=
    (separate_of_live first'.filed first'.calm stored_c live).run
  obtain ⟨-, result, abreast, own⟩ := twin_reconcile_of_abreast w w' config
    (first'.abreast filed calm disjoint) stored stored_c live (fun _ hn => hn) x c.2 rfl rfl
  obtain ⟨-, result', abreast', own'⟩ := twin_reconcile_of_abreast w' w config
    (first.abreast filed calm disjoint') stored' stored_a live' (fun _ hn => hn) y a.2 same rfl
  exact ⟨result, result', Cluster.Crossed.blurred_eq
    ⟨distinct, disjoint, first, second, first', second', abreast, abreast', own, own'⟩⟩

/-- The pullers of two teams are reconciled for the first time, in either order and at different
times. -/
theorem commuted_of_reconcile_teams :
    let h := (Cluster.alone "morning").toHandler
    let h' := (Cluster.alone "evening").toHandler
    let a := (reconcile {} "creds1").run h teams
    let b := (reconcile {} "creds2").run h a.2
    let c := (reconcile {} "creds2").run h' teams
    let d := (reconcile {} "creds1").run h' c.2
    d.1 = a.1 ∧ b.1 = c.1 ∧ d.2.blurred teams = b.2.blurred teams ∧ d.2 ≠ b.2 := by
  have differ : ((reconcile {} "creds1").run (Cluster.alone "evening").toHandler
      ((reconcile {} "creds2").run (Cluster.alone "evening").toHandler teams).2).2 ≠
        ((reconcile {} "creds2").run (Cluster.alone "morning").toHandler
          ((reconcile {} "creds1").run (Cluster.alone "morning").toHandler teams).2).2 := by
    decide +kernel
  have calm : teams.pendingConflicts = 0 := by decide +kernel
  have reachable : Reachable teams := Reachable.empty.changes _
  have group := group_teams
  -- No more is evaluated from here on.
  generalize teams = s at *
  obtain ⟨p, stored, live⟩ := group.live "creds1" (by decide)
  obtain ⟨q, stored', live'⟩ := group.live "creds2" (by decide)
  obtain ⟨result, result', same⟩ := commuted_of_reconcile (Cluster.alone "morning")
    (Cluster.alone "evening") {} (x := s) (y := s) rfl reachable calm stored live stored' live'
    (by decide) (group.disjoint _ (by decide) _ (by decide) (by decide) p q stored stored')
  exact ⟨result, result', same, differ⟩

end Reconcile

end PullSecrets
