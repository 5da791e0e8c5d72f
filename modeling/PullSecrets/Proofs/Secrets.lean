import PullSecrets.Proofs.History
import PullSecrets.Proofs.Persist
import PullSecrets.Reconcile.PullSecret

/-!
# Giving a namespace its secret

A secret is current for a puller if it carries the type, the document, the label and the owner
that the puller wants, whatever else it carries. Merging makes any stored secret current, and so
does creating one where none is stored. What becomes of the secret of a namespace is settled by
the stored secret and by the faults.

## Main facts

* `PullSecret.isCurrent_wanted_iff`: what it is to be current.
* `PullSecret.isCurrent_merge`, `PullSecret.isCurrent_wanted`: what is written is current.
* `PullSecret.ensure_ends`: how giving a namespace its secret ends.
-/

namespace PullSecrets

open Cluster (Persisted Alike)
open Program (ask Ends Leads)

/-- A dictionary has a single key if and only if its listing is that entry. -/
theorem Dict.entries_eq_singleton_iff {κ α : Type} [Ord κ] [Std.LawfulEqOrd κ] {d : Dict κ α}
    {k : κ} {a : α} : d.entries = [(k, a)] ↔ d.get? k = some a ∧ d.size = 1 := by
  rw [Dict.get?_eq_some_iff, Dict.size, List.length_eq_one_iff]
  constructor
  · intro h
    exact ⟨h ▸ List.mem_singleton_self _, _, h⟩
  · rintro ⟨hmem, e, he⟩
    rw [he, List.mem_singleton] at hmem
    rw [he, hmem]

/-! ## Current secrets -/

/-- The bytes of the document that a puller wants to be stored. -/
def Puller.document (p : Puller) : ByteArray := Credentials.bytes p.spec.registries

/-- What a secret carries that is current for a puller. Its data is the document alone, up to
writing the same value in another way. The owner matters for a puller with a name and an
identity. -/
structure Secret.Carries (x : Secret) (p : Puller) : Prop where
  type : x.type = some Names.secretType
  data : ∃ document, x.data.map (·.entries) = some [(Names.documentKey, document)] ∧
    Credentials.same document p.document = true
  label : x.metadata.label? Names.ownerLabel = some p.name
  owner : ∀ name uid, p.metadata.name = some name → p.metadata.uid = some uid →
    ∃ o ∈ x.metadata.ownerList, o.uid = uid

namespace PullSecret

variable {p : Puller} {inNamespace : String} {x old : Secret}

/-- The place of the wanted secret. -/
@[simp] theorem key_wanted (p : Puller) (document : ByteArray) (inNamespace : String) :
    (wanted p document inNamespace).metadata.key .secret = .ok ⟨inNamespace, Names.secret⟩ := rfl

/-- The wanted secret names its puller. -/
theorem label?_wanted (p : Puller) (document : ByteArray) (inNamespace : String) :
    (wanted p document inNamespace).metadata.label? Names.ownerLabel = some p.name := by
  simp [wanted, Metadata.label?, Dict.ofList, Dict.insertAll]

/-- An owner is found by its identity. -/
theorem isOwner_iff {owners : List OwnerReference} {owner : OwnerReference} :
    isOwner owners owner = true ↔ ∃ o ∈ owners, o.uid = owner.uid := by
  simp [isOwner]

/-- The owner that was added is among the owners. -/
theorem isOwner_addOwner (owners : List OwnerReference) (owner : OwnerReference) :
    isOwner (addOwner owners owner) owner = true := by
  rw [addOwner]
  split
  next there => exact there
  next absent => exact isOwner_iff.2 ⟨owner, by simp, rfl⟩

/-- A puller owns what it wants if it has a name and an identity. -/
theorem mem_ownerList_wanted {owner : OwnerReference} {document : ByteArray} :
    owner ∈ (wanted p document inNamespace).metadata.ownerList ↔ p.owner? = some owner := by
  rw [wanted, Metadata.ownerList]
  cases p.owner? with
  | none => simp
  | some o => simp [eq_comm]

theorem uid_of_owner? {owner : OwnerReference} (h : p.owner? = some owner) :
    ∃ name, p.metadata.name = some name ∧ p.metadata.uid = some owner.uid := by
  rw [Puller.owner?] at h
  cases hname : p.metadata.name with
  | none => simp [hname] at h
  | some name =>
    cases huid : p.metadata.uid with
    | none => simp [hname, huid] at h
    | some uid =>
      simp only [hname, huid, Option.bind_eq_bind, Option.bind_some, Option.some.injEq] at h
      exact ⟨name, rfl, by rw [← h]⟩

theorem exists_owner? {name uid : String} (hname : p.metadata.name = some name)
    (huid : p.metadata.uid = some uid) : ∃ owner, p.owner? = some owner ∧ owner.uid = uid := by
  simp [Puller.owner?, hname, huid]

/-- Holding the wanted document and nothing else. -/
theorem holdsDocument_wanted_iff {document : ByteArray} :
    holdsDocument x (wanted p document inNamespace) = true ↔
      ∃ held, x.data.map (·.entries) = some [(Names.documentKey, held)] ∧
        Credentials.same held document = true := by
  have asked : (wanted p document inNamespace).document? = some document := by
    simp [wanted, Secret.document?, Dict.ofList, Dict.insertAll]
  rw [holdsDocument, asked, Secret.document?]
  cases hdata : x.data with
  | none => simp
  | some d =>
    simp only [Option.bind_some, Option.map_some, Option.some.injEq,
      Dict.entries_eq_singleton_iff]
    cases d.get? Names.documentKey with
    | none => simp
    | some held =>
      simp only [Bool.and_eq_true, beq_iff_eq, Option.some.injEq]
      constructor
      · rintro ⟨same, single⟩
        exact ⟨held, ⟨rfl, single⟩, same⟩
      · rintro ⟨_, ⟨rfl, single⟩, same⟩
        exact ⟨same, single⟩

/-- A secret is current for the wanted one if it carries all that the puller asks for. -/
theorem isCurrent_wanted_iff (inNamespace : String) :
    isCurrent x (wanted p p.document inNamespace) = true ↔ x.Carries p := by
  have typed : (wanted p p.document inNamespace).type = some Names.secretType := rfl
  simp only [isCurrent, Bool.and_eq_true, beq_iff_eq, label?_wanted, typed,
    holdsDocument_wanted_iff, List.all_eq_true, mem_ownerList_wanted, isOwner_iff]
  constructor
  · rintro ⟨⟨⟨data, label⟩, owned⟩, type⟩
    refine ⟨type, data, label, ?_⟩
    intro name uid hname huid
    obtain ⟨owner, howner, rfl⟩ := exists_owner? hname huid
    exact owned owner howner
  · rintro ⟨type, data, label, owned⟩
    refine ⟨⟨⟨data, label⟩, ?_⟩, type⟩
    intro owner howner
    obtain ⟨name, hname, huid⟩ := uid_of_owner? howner
    exact owned name owner.uid hname huid

/-- The stored secret becomes current by merging. -/
theorem isCurrent_merge (p : Puller) (document : ByteArray) (inNamespace : String)
    (old : Secret) :
    isCurrent (merge old (wanted p document inNamespace)) (wanted p document inNamespace) =
      true := by
  have data : holdsDocument (merge old (wanted p document inNamespace))
      (wanted p document inNamespace) = true :=
    holdsDocument_wanted_iff.2 ⟨document, rfl, Credentials.same_refl _⟩
  have label : (merge old (wanted p document inNamespace)).metadata.label? Names.ownerLabel =
      (wanted p document inNamespace).metadata.label? Names.ownerLabel := by
    rw [label?_wanted]
    -- The wanted labels are written last, so none of the stored ones can hide them.
    show (Dict.insertAll _ (Dict.ofList [(Names.ownerLabel, p.name)]).entries).get?
      Names.ownerLabel = some p.name
    simp [Dict.ofList, Dict.insertAll, Dict.insert, Dict.place, Dict.empty, Dict.get?,
      Dict.lookup_place]
  have owned : ∀ owner ∈ (wanted p document inNamespace).metadata.ownerList,
      isOwner (merge old (wanted p document inNamespace)).metadata.ownerList owner = true := by
    intro owner claims
    have owner? := mem_ownerList_wanted.1 claims
    have owners : (merge old (wanted p document inNamespace)).metadata.ownerList =
        addOwner old.metadata.ownerList owner := by
      simp [merge, wanted, Metadata.ownerList, owner?]
    rw [owners]
    exact isOwner_addOwner _ _
  have type : (merge old (wanted p document inNamespace)).type =
      (wanted p document inNamespace).type := rfl
  simp [isCurrent, data, label, type, List.all_eq_true.2 owned]

/-- The wanted secret is current from the beginning. -/
theorem isCurrent_wanted (p : Puller) (document : ByteArray) (inNamespace : String) :
    isCurrent (wanted p document inNamespace) (wanted p document inNamespace) = true := by
  have data : holdsDocument (wanted p document inNamespace) (wanted p document inNamespace) =
      true := holdsDocument_wanted_iff.2 ⟨document, rfl, Credentials.same_refl _⟩
  have owned : ∀ owner ∈ (wanted p document inNamespace).metadata.ownerList,
      isOwner (wanted p document inNamespace).metadata.ownerList owner = true :=
    fun owner there => isOwner_iff.2 ⟨owner, there, rfl⟩
  simp [isCurrent, data, List.all_eq_true.2 owned]

/-- The version of a secret does not matter. -/
@[simp] theorem isCurrent_stamp (x d : Secret) (version : String) :
    isCurrent (x.stamp version) d = isCurrent x d := rfl

/-- Neither does its identity. -/
@[simp] theorem isCurrent_identified (x d : Secret) (version uid : String) :
    isCurrent (x.identified version uid) d = isCurrent x d := rfl

/-! ## Ends -/

/-- How giving a namespace its secret ends, from the secret that is stored before. -/
inductive Ensured (policy : RetryPolicy) (x : Secret) (key : ObjectKey) (s : Cluster) :
    Except StoreError Bool → Cluster → Prop
  | current {old : Secret} (stored : s.secrets.get? key = some old)
    (same : isCurrent old x = true) : Ensured policy x key s (.ok false) s
  | merged {old : Secret} {r : Except StoreError Bool} {t : Cluster}
    (stored : s.secrets.get? key = some old) (differs : isCurrent old x = false)
    (ended : Persisted policy.budget .secret (some key.inNamespace) key.name
      (fun u => (true, (u.putSecret key (merge old x)).2)) s r t) : Ensured policy x key s r t
  | created {r : Except StoreError Bool} {t : Cluster} (free : s.secrets.get? key = none)
    (ended : Persisted policy.budget .secret (some key.inNamespace) key.name
      (fun u => (true, (u.addSecret key x).2)) s r t) : Ensured policy x key s r t

/-- Going on after a write with the note that it was made. -/
theorem leads_written {σ α : Type} {h : Handler σ} {each : σ → Call → Prop}
    {p : Program StoreError α} {ends : Except StoreError Bool → σ → Prop} {s : σ} :
    (p >>= fun _ => pure true).Leads h each ends s ↔
      p.Leads h each (fun r t => ends (r.map fun _ => true) t) s := by
  rw [Program.leads_bind]
  constructor
  · intro hp
    apply hp.mono
    rintro (e | a) t ht
    · exact ht
    · exact ht
  · intro hp
    apply hp.mono
    rintro (e | a) t ht
    · exact ht
    · exact ht

/-- Giving a namespace that is there the wanted secret. -/
theorem ensure_ends (policy : RetryPolicy) {key : ObjectKey} {s : Cluster}
    (placed : x.metadata.key .secret = .ok key) (filed : s.Filed)
    (there : s.namespaces.contains key.inNamespace = true) :
    (ensure policy x).Ends (Ensured policy x key s) s := by
  obtain ⟨hns, hname⟩ := Metadata.key_eq_ok_iff.1 placed
  have found (k : Nat) : Cluster.handler.call (.getSecret (x.metadata.inNamespace.getD "")
      x.metadata.effectiveName) (s.spend k) = (.ok (s.secrets.get? key), s.spend k) := by
    rw [hns, hname]
    rfl
  unfold ensure
  -- Every attempt reads the secret again, and finds it as it was before the failed ones.
  cases stored : s.secrets.get? key with
  | none =>
    refine (Ends.retry fun i k => ?_).mono fun r t ended => .created stored ended
    refine (Program.leads_ask_ok (found k)).2 ⟨trivial, ?_⟩
    simp only [stored]
    refine leads_written.2 (Program.leads_ask.2 ⟨trivial, ?_⟩)
    exact (Cluster.persisted_createSecret (s := s.spend k) placed stored there).map fun _ => true
  | some old =>
    by_cases same : isCurrent old x = true
    · refine Leads.retry_once (fun _ _ => rfl) ?_
      refine (Program.leads_ask_ok (found 0)).2 ⟨trivial, ?_⟩
      simp only [stored, same, if_true]
      exact ⟨.current stored same, fun e he => by cases he⟩
    · rw [Bool.not_eq_true] at same
      refine (Ends.retry fun i k => ?_).mono fun r t ended => .merged stored same ended
      refine (Program.leads_ask_ok (found k)).2 ⟨trivial, ?_⟩
      simp only [stored, same, Bool.false_eq_true, if_false]
      refine leads_written.2 (Program.leads_ask.2 ⟨trivial, ?_⟩)
      exact (Cluster.persisted_replaceSecret (s := s.spend k) (x := merge old x)
        (filed.secrets key old stored) stored rfl rfl).map fun _ => true

/-! ## What the ends come to -/

section Ensured

variable {policy : RetryPolicy} {key : ObjectKey} {s t : Cluster}
  {r : Except StoreError Bool}

/-- Nothing but the secret at its place changes. -/
theorem Ensured.frame (h : Ensured policy x key s r t) :
    Alike { s with secrets := t.secrets } t ∧
      ∀ other, other ≠ key → t.secrets.get? other = s.secrets.get? other := by
  have put {u : Cluster} (same : s.Alike u) :
      Alike { s with secrets := u.secrets } u ∧
        ∀ other, other ≠ key → u.secrets.get? other = s.secrets.get? other :=
    ⟨⟨same.pullers, same.namespaces, rfl, same.serviceAccounts, same.listsFail,
      same.failingNamespaces, same.pendingConflicts⟩, fun _ _ => by rw [same.secrets]⟩
  cases h with
  | current => exact put (Alike.refl s)
  | merged stored differs ended =>
    cases ended with
    | through spared few =>
      refine ⟨⟨rfl, rfl, rfl, rfl, rfl, rfl, Nat.zero_le _⟩, ?_⟩
      intro other hother
      simp [Cluster.putSecret, Cluster.calm, hother]
    | refused => exact put (Alike.refl s)
    | contended => exact put (Cluster.alike_spend _ s)
  | created free ended =>
    cases ended with
    | through spared few =>
      refine ⟨⟨rfl, rfl, rfl, rfl, rfl, rfl, Nat.zero_le _⟩, ?_⟩
      intro other hother
      simp [Cluster.addSecret, Cluster.calm, hother]
    | refused => exact put (Alike.refl s)
    | contended => exact put (Cluster.alike_spend _ s)

/-- A namespace that was given its secret has one that is current. -/
theorem Ensured.carries {b : Bool}
    (h : Ensured policy (wanted p p.document inNamespace) key s (.ok b) t) :
    ∃ y, t.secrets.get? key = some y ∧ y.Carries p := by
  cases h with
  | current stored same => exact ⟨_, stored, (isCurrent_wanted_iff _).1 same⟩
  | @merged old _ _ stored differs ended =>
    cases ended with
    | through spared few =>
      refine ⟨(merge old (wanted p p.document inNamespace)).stamp s.calm.advance.versionText,
        by simp [Cluster.putSecret], (isCurrent_wanted_iff inNamespace).1 ?_⟩
      rw [isCurrent_stamp]
      exact isCurrent_merge p p.document inNamespace old
  | created free ended =>
    cases ended with
    | through spared few =>
      refine ⟨(wanted p p.document inNamespace).identified s.calm.advance.identify.versionText
        s.calm.advance.identify.newIdentity, by simp [Cluster.addSecret],
        (isCurrent_wanted_iff inNamespace).1 ?_⟩
      rw [isCurrent_identified]
      exact isCurrent_wanted p p.document inNamespace

/-- In a broken namespace nothing changes, and whatever is not current is refused. -/
theorem Ensured.of_broken (h : Ensured policy x key s r t)
    (broken : key.inNamespace ∈ s.failingNamespaces) :
    t = s ∧ r = if (s.secrets.get? key).any (isCurrent · x) then .ok false
      else .error (.injected .secret key.inNamespace key.name) := by
  cases h with
  | current stored same => simp [stored, same]
  | merged stored differs ended =>
    obtain ⟨rfl, rfl⟩ := ended.of_broken broken
    simp [stored, differs]
  | created free ended =>
    obtain ⟨rfl, rfl⟩ := ended.of_broken broken
    simp [free]

/-- Without faults the secret is current afterwards. -/
theorem Ensured.of_calm (h : Ensured policy x key s r t) (calm : s.pendingConflicts = 0)
    (spared : key.inNamespace ∉ s.failingNamespaces) : ∃ b, r = .ok b := by
  have clear : s.Open (some key.inNamespace) := by
    rintro ns ⟨⟩
    exact spared
  cases h with
  | current => exact ⟨false, rfl⟩
  | merged stored differs ended =>
    obtain ⟨rfl, -⟩ := ended.of_calm calm clear policy.budget_pos
    exact ⟨true, rfl⟩
  | created free ended =>
    obtain ⟨rfl, -⟩ := ended.of_calm calm clear policy.budget_pos
    exact ⟨true, rfl⟩

end Ensured

end PullSecret

end PullSecrets
