import PullSecrets.Proofs.Quiescence
import PullSecrets.Proofs.Sharing

/-!
# What the reconcile of a live puller may touch

Other clients write into the same objects: they give secrets labels and owners, and accounts names
of their own. Whether a reconcile of a live puller succeeds or not, and wherever it stops, it
leaves all of that in place. It adds the name of the secret to accounts, it gives the secret other
contents, and it writes the finalizers and the status of its puller.

## Main facts

* `Secret.Overlaid.trans`, `ServiceAccount.Fastened.trans`: what may happen to an object, may
  happen several times.
* `Reconcile.converge_confined`: what working on all targets does to foreign contents.
* `Reconcile.confined_of_reconcile`: everything that the reconcile of a live puller leaves alone.
-/

namespace PullSecrets

open Program (ask Ends Leads)

/-! ## Objects -/

/-- The second account is the first one, or the first one with the secret after the other names of
its list, up to its version. -/
inductive ServiceAccount.Fastened (a : ServiceAccount) : ServiceAccount → Prop
  | same : Fastened a a
  | appended (version : String) (free : a.references Names.secret = false) :
    Fastened a ((a.withPullSecrets (a.pullSecretList ++ [Names.secret])).stamp version)

/-- An account is fastened once at most. -/
theorem ServiceAccount.Fastened.trans {a b c : ServiceAccount} (hab : a.Fastened b)
    (hbc : b.Fastened c) : a.Fastened c := by
  cases hbc with
  | same => exact hab
  | appended version free =>
    cases hab with
    | same => exact .appended version free
    | appended version' _ =>
      have bound := Binding.references_append a Names.secret
      exact absurd (free.symm.trans bound) Bool.false_ne_true

theorem ServiceAccount.rel_fastened (o : Option ServiceAccount) : Option.Rel Fastened o o := by
  cases o with
  | none => exact .none
  | some a => exact .some .same

theorem Secret.Overlaid.trans {x y z : Secret} (hxy : x.Overlaid y) (hyz : y.Overlaid z) :
    x.Overlaid z where
  rest := by
    obtain ⟨_, _, _, _, _, rfl⟩ := hxy.rest
    obtain ⟨type, data, labels, owners, version, hz⟩ := hyz.rest
    exact ⟨type, data, labels, owners, version, hz⟩
  labels := fun k hk => (hyz.labels k hk).trans (hxy.labels k hk)
  owners := by
    obtain ⟨added, hy⟩ := hxy.owners
    obtain ⟨more, hz⟩ := hyz.owners
    exact ⟨added ++ more, by rw [hz, hy, List.append_assoc]⟩

/-! ## Clusters -/

/-- What clients have written into secrets and accounts is still there: an account has got the name
of the secret at most, and a secret of another name is as before. -/
structure Cluster.Confined (s t : Cluster) : Prop where
  foreign : ∀ key, key.name ≠ Names.secret → t.secrets.get? key = s.secrets.get? key
  overlaid : ∀ key x, s.secrets.get? key = some x →
    ∃ y, t.secrets.get? key = some y ∧ (y = x ∨ x.Overlaid y)
  accounts : ∀ key, Option.Rel ServiceAccount.Fastened (s.serviceAccounts.get? key)
    (t.serviceAccounts.get? key)

namespace Cluster.Confined

variable {s t u : Cluster}

theorem of_same (secrets : t.secrets = s.secrets)
    (accounts : t.serviceAccounts = s.serviceAccounts) :
    s.Confined t where
  foreign := fun _ _ => by rw [secrets]
  overlaid := fun key x stored => ⟨x, by rw [secrets, stored], .inl rfl⟩
  accounts := fun _ => by
    rw [accounts]
    exact ServiceAccount.rel_fastened _

theorem refl (s : Cluster) : s.Confined s := of_same rfl rfl

theorem trans (hst : s.Confined t) (htu : t.Confined u) : s.Confined u where
  foreign := fun key hkey => (htu.foreign key hkey).trans (hst.foreign key hkey)
  overlaid := by
    intro key x stored
    obtain ⟨y, stored_t, hxy⟩ := hst.overlaid key x stored
    obtain ⟨z, stored_u, hyz⟩ := htu.overlaid key y stored_t
    refine ⟨z, stored_u, ?_⟩
    rcases hyz with rfl | hyz
    · exact hxy
    · rcases hxy with rfl | hxy
      · exact .inr hyz
      · exact .inr (hxy.trans hyz)
  accounts := by
    intro key
    have first := hst.accounts key
    have second := htu.accounts key
    -- What is stored is an index of the relation, so it has to be a variable.
    generalize s.serviceAccounts.get? key = o, t.serviceAccounts.get? key = o',
      u.serviceAccounts.get? key = o'' at first second ⊢
    cases first with
    | none => exact second
    | some hab =>
      cases second with
      | some hbc => exact .some (hab.trans hbc)

/-- Writes of pullers leave secrets and accounts alone. -/
theorem of_tended (h : s.Tended t) : s.Confined t := of_same h.secrets h.serviceAccounts

end Cluster.Confined

/-! ## Programs -/

/-- Binding fastens accounts, whether all of them could be written or not. -/
theorem Binding.Swept.confined {s t : Cluster} {results : List (ObjectKey × Except StoreError Bool)}
    (h : Swept (appended Names.secret) s results t) : s.Confined t where
  foreign := fun _ _ => by rw [h.rest.secrets]
  overlaid := fun key x stored => ⟨x, by rw [h.rest.secrets, stored], .inl rfl⟩
  accounts := by
    refine h.rel (fun _ => .same) fun a names version asked => ?_
    unfold appended at asked
    split at asked
    next => cases asked
    next free =>
      cases asked
      refine .appended version ?_
      rw [← Bool.not_eq_true, ServiceAccount.references_iff]
      exact free

/-- Giving a namespace its secret overlays the one that is stored. -/
theorem PullSecret.Ensured.confined {policy : RetryPolicy} {p : Puller} {n : String} {s t : Cluster}
    {r : Except StoreError Bool}
    (h : Ensured policy (wanted p p.document n) ⟨n, Names.secret⟩ s r t) : s.Confined t where
  foreign := by
    intro key hkey
    refine h.frame.2 key ?_
    rintro rfl
    exact hkey rfl
  overlaid := by
    intro key x stored
    by_cases here : key = ⟨n, Names.secret⟩
    · subst here
      cases h with
      | current => exact ⟨x, stored, .inl rfl⟩
      | @merged old _ _ stored' differs ended =>
        obtain rfl := Option.some.inj (stored.symm.trans stored')
        cases ended with
        | through spared few =>
          refine ⟨(merge x (wanted p p.document n)).stamp s.calm.advance.versionText, ?_,
            .inr (overlaid_merge x p p.document n _)⟩
          simp [Cluster.putSecret]
        | refused | contended => exact ⟨x, stored, .inl rfl⟩
      | created free ended =>
        rw [free] at stored
        cases stored
    · exact ⟨x, (h.frame.2 key here).trans stored, .inl rfl⟩
  accounts := fun _ => by
    rw [h.frame.1.serviceAccounts]
    exact ServiceAccount.rel_fastened _

namespace Reconcile

variable {policy : RetryPolicy} {config : Config} {p : Puller} {n name : String} {s t : Cluster}

/-- Working on a namespace that is there. -/
theorem ensureNamespace_confined (filed : s.Filed) (there : s.namespaces.contains n = true) :
    (ensureNamespace policy p p.document n).Ends (fun _ t => s.Confined t) s := by
  unfold ensureNamespace
  refine Program.leads_bind.2 (Program.leads_liftM.2 ?_)
  have secret := PullSecret.ensure_ends policy (PullSecret.key_wanted p p.document n) filed there
  refine (secret.and (Program.ends_filed _ filed)).mono ?_
  rintro (e | b) u ⟨ensured, filed_u⟩
  · exact ensured.confined
  · refine Program.leads_bind.2 ((Binding.bindAll_ends filed_u n).mono ?_)
    rintro r t (⟨-, rfl, e, rfl⟩ | ⟨-, results, -, swept, rfl⟩)
    · exact ensured.confined
    · have bound : s.Confined t := ensured.confined.trans swept.confined
      cases Binding.outcome results with
      | error e => exact bound
      | ok count => exact bound

/-- Working on all target namespaces, whichever of them fail. -/
theorem converge_confined (filed : s.Filed) :
    (converge policy p).Ends (fun _ t => s.Confined t) s := by
  unfold converge
  refine Program.leads_bind.2 (Program.leads_liftM.2 ((Target.resolve_ends filed _).mono ?_))
  rintro r t ⟨same, found⟩
  obtain rfl := same.symm
  rcases found with rfl | ⟨⟨e, rfl⟩, -⟩
  · refine Program.leads_bind.2 ((Leads.forEach
      (fun _ u => (s.Confined u ∧ s.Worked u) ∧ u.Filed) ?_ ⟨⟨.refl s, .refl s⟩, filed⟩).mono ?_)
    · rintro results n rest u targets ⟨⟨confined, worked⟩, filed_u⟩
      have target : n ∈ s.targets p.spec.namespaceSelector := by
        rw [targets]
        exact List.mem_append_right _ List.mem_cons_self
      have there : u.namespaces.contains n = true := by
        rw [worked.namespaces]
        exact Cluster.contains_of_mem_targets target
      refine (((ensureNamespace_confined filed_u there).and
        (ensureNamespace_ends filed_u there)).and (Program.ends_filed _ filed_u)).mono ?_
      rintro q v ⟨⟨confined', worked', -⟩, filed_v⟩
      exact ⟨⟨confined.trans confined', worked.trans worked'⟩, filed_v⟩
    · rintro _ u ⟨results, rfl, -, ⟨confined, -⟩, -⟩
      exact Program.leads_settle.2 confined
  · exact .refl s

/-- The reconcile of a stored puller that is not to be deleted. -/
theorem reconcile_confined (filed : s.Filed) (stored : s.pullers.get? name = some p)
    (live : p.metadata.isTerminating = false) :
    (reconcile config name).Ends (fun _ t => s.Confined t) s := by
  obtain rfl : p.name = name := filed.pullers name p stored
  refine leads_reconcile_of_live stored live trivial
    (((Finalizer.ensure_ends stored).and (Program.ends_filed _ filed)).mono ?_)
  rintro (e | q) u ⟨⟨guarded, ok, -⟩, filed_u⟩
  · exact .of_tended guarded
  · obtain ⟨stored_u, -, akin⟩ := ok q rfl
    rw [← akin.name_eq] at stored_u
    have guarding : s.Confined u := .of_tended guarded
    refine leads_sync (((converge_confined filed_u).and (converge_ends filed_u)).mono ?_)
    rintro r v ⟨confined, converging⟩ readyTime errorTime
    have stored_v : v.pullers.get? q.name = some q := by
      rw [converging.worked.pullers]
      exact stored_u
    refine (Report.update_ends stored_v _).mono ?_
    rintro b t ⟨tended, -⟩
    have reported := (guarding.trans confined).trans (.of_tended tended)
    cases b with
    | error e => exact reported
    | ok b => exact reported

/-- Whatever comes out of the reconcile of a live puller, and whatever faults are in its way, it
leaves alone all namespaces, all other pullers, all accounts outside the targets, and all secrets
but those of the one name in the targets. Of the puller it writes the finalizers, the status and
the version. To the list of an account it adds the secret at most, after the other names. A secret
that is stored keeps its identity, its annotations, its labels but the one that names the puller,
and its owners, to which it adds at most. -/
theorem confined_of_reconcile {σ : Type} (w : Surroundings σ) (config : Config) {x : σ}
    (reachable : Reachable (w.cluster x)) (stored : (w.cluster x).pullers.get? name = some p)
    (live : p.metadata.isTerminating = false) :
    let s := w.cluster x
    let t := w.cluster ((reconcile config name).run w.toHandler x).2
    let targets := s.targets p.spec.namespaceSelector
    t.namespaces = s.namespaces ∧
      (∀ other, other ≠ name → t.pullers.get? other = s.pullers.get? other) ∧
      (∃ q, t.pullers.get? name = some q ∧ q.spec = p.spec ∧ ∃ finalizers version,
        q.metadata = { p.metadata with finalizers := finalizers, resourceVersion := version }) ∧
      (∀ key, ¬ (key.inNamespace ∈ targets ∧ key.name = Names.secret) →
        t.secrets.get? key = s.secrets.get? key) ∧
      (∀ key, key.inNamespace ∉ targets →
        t.serviceAccounts.get? key = s.serviceAccounts.get? key) ∧
      (∀ key, Option.Rel ServiceAccount.Fastened (s.serviceAccounts.get? key)
        (t.serviceAccounts.get? key)) ∧
      ∀ key x, s.secrets.get? key = some x → ∃ y, t.secrets.get? key = some y ∧
        y.metadata.uid = x.metadata.uid ∧ y.metadata.annotations = x.metadata.annotations ∧
        (∀ k, k ≠ Names.ownerLabel → y.metadata.label? k = x.metadata.label? k) ∧
        (∃ added, y.metadata.ownerList = x.metadata.ownerList ++ added) ∧
        (y = x ∨ x.Overlaid y) := by
  intro s t targets
  have filed := reachable.filed
  have named : p.name = name := filed.pullers name p stored
  have attended : Attended p s _ t := (attended_of_live filed stored live).run
  have confined : s.Confined t := (reconcile_confined filed stored live).run
  obtain ⟨q, stored_t, akin⟩ := attended.own
  refine ⟨attended.apart.namespaces, named ▸ attended.apart.pullers,
    ⟨q, named ▸ stored_t, akin.spec, akin.metadata⟩, ?_, ?_, confined.accounts, ?_⟩
  · intro key outside
    by_cases target : key.inNamespace ∈ targets
    · exact confined.foreign key fun here => outside ⟨target, here⟩
    · exact (attended.apart.elsewhere _ target).secrets key rfl
  · exact fun key outside => (attended.apart.elsewhere _ outside).accounts key rfl
  · intro key x stored_x
    obtain ⟨y, stored_y, kept⟩ := confined.overlaid key x stored_x
    refine ⟨y, stored_y, ?_⟩
    rcases kept with rfl | overlaid
    · exact ⟨rfl, rfl, fun _ _ => rfl, ⟨[], (List.append_nil _).symm⟩, .inl rfl⟩
    · obtain ⟨_, _, _, _, _, hy⟩ := overlaid.rest
      exact ⟨by rw [hy], by rw [hy], overlaid.labels, overlaid.owners, .inr overlaid⟩

/-- An owner that another client has given to a secret. -/
def foreignOwner : OwnerReference where
  apiVersion := "v1"
  blockOwnerDeletion := none
  controller := none
  kind := "ConfigMap"
  name := "settings"
  uid := "settings-uid"

/-- The cluster of two teams, where a client has created a secret with the name that the pullers
use, and has given an account a name of its own. -/
def shared : Cluster :=
  let x : Secret := {
    metadata := {
      name := some Names.secret
      inNamespace := some "default"
      annotations := some (Dict.ofList [("note", "keep")])
      labels := some (Dict.ofList [("app", "web"), (Names.ownerLabel, "someone")])
      ownerReferences := some [foreignOwner] } }
  let account : ServiceAccount := {
    metadata := { name := some "default", inNamespace := some "default" }
    imagePullSecrets := some ["mine"] }
  ((teams.answer (.createSecret x)).2.answer (.replaceServiceAccount account)).2

/-- The first team gets its contents into the secret and the account, and nothing that was there is
lost; the second team notices nothing. -/
theorem confined_of_reconcile_shared :
    let t := ((reconcile {} "creds1").run (Cluster.alone "").toHandler shared).2
    (∃ y, t.secrets.get? ⟨"default", Names.secret⟩ = some y ∧
      y.metadata.annotations = some (Dict.ofList [("note", "keep")]) ∧
      y.metadata.label? "app" = some "web" ∧
      y.metadata.label? Names.ownerLabel = some "creds1" ∧
      ∃ added, y.metadata.ownerList = [foreignOwner] ++ added) ∧
      (t.serviceAccounts.get? ⟨"default", "default"⟩).map (·.pullSecretList) =
        some ["mine", Names.secret] ∧
      t.serviceAccounts.get? ⟨"kube-system", "default"⟩ =
        shared.serviceAccounts.get? ⟨"kube-system", "default"⟩ ∧
      t.pullers.get? "creds2" = shared.pullers.get? "creds2" := by
  intro t
  have there : (shared.pullers.get? "creds1").map (fun p => (p.metadata.isTerminating,
        shared.targets p.spec.namespaceSelector)) = some (false, ["default"]) ∧
      (shared.secrets.get? ⟨"default", Names.secret⟩).map (fun x => (x.metadata.annotations,
        x.metadata.label? "app", x.metadata.ownerList)) =
          some (some (Dict.ofList [("note", "keep")]), some "web", [foreignOwner]) := by
    decide +kernel
  have seen : (t.secrets.get? ⟨"default", Names.secret⟩).map
        (·.metadata.label? Names.ownerLabel) = some (some "creds1") ∧
      (t.serviceAccounts.get? ⟨"default", "default"⟩).map (·.pullSecretList) =
        some ["mine", Names.secret] := by decide +kernel
  have reachable : Reachable shared := .call (.call (Reachable.empty.changes _) _) _
  obtain ⟨p, stored, found⟩ := Option.map_eq_some_iff.1 there.1
  obtain ⟨x, stored_x, contents⟩ := Option.map_eq_some_iff.1 there.2
  obtain ⟨labelled, bound⟩ := seen
  rw [Prod.mk.injEq] at found
  rw [Prod.mk.injEq, Prod.mk.injEq] at contents
  obtain ⟨live, targets⟩ := found
  obtain ⟨annotations, app, owners⟩ := contents
  obtain ⟨-, others, -, -, outside, -, kept⟩ :=
    confined_of_reconcile (Cluster.alone "") {} (x := shared) reachable stored live
  obtain ⟨y, stored_y, -, annotations', labels, ⟨added, owners'⟩, -⟩ :=
    kept ⟨"default", Names.secret⟩ x stored_x
  change t.secrets.get? _ = some y at stored_y
  rw [stored_y, Option.map_some, Option.some.injEq] at labelled
  refine ⟨⟨y, stored_y, annotations'.trans annotations, (labels "app" (by decide)).trans app,
    labelled, added, owners ▸ owners'⟩, bound, outside ⟨"kube-system", "default"⟩ ?_,
    others "creds2" (by decide)⟩
  change "kube-system" ∉ shared.targets p.spec.namespaceSelector
  rw [targets]
  decide

end Reconcile

end PullSecrets
