import PullSecrets.Cluster.Change
import PullSecrets.Proofs.Writes

/-!
# Clusters that can be reached

Operators change a cluster from outside, and clients call it with whatever arguments they like.
Through all of this every object stays under the place that its metadata name: an object that is
found under a place can be written back to it.

## Main facts

* `Reachable.filed`: in a cluster that can be reached, objects are under their own places.
* `Program.reachable_run`: a program leads from such clusters to such clusters.
-/

namespace PullSecrets

/-! ## Entries of dictionaries -/

section Dictionaries

variable {κ α : Type} [Ord κ] [Std.TransOrd κ] [Std.LawfulEqOrd κ] [DecidableEq κ]
  {P : κ → α → Prop} {d : Dict κ α}

/-- Writing an entry with the property keeps it for all entries. -/
theorem Dict.forall_insert {k : κ} {a : α} (h : ∀ j b, d.get? j = some b → P j b) (hk : P k a)
    (j : κ) (b : α) (hj : (d.insert k a).get? j = some b) : P j b := by
  rw [get?_insert] at hj
  split at hj
  next same =>
    cases hj
    exact same ▸ hk
  next other => exact h j b hj

omit [Std.TransOrd κ] in
/-- Removing an entry keeps a property of all entries. -/
theorem Dict.forall_erase {k : κ} (h : ∀ j b, d.get? j = some b → P j b) (j : κ) (b : α)
    (hj : (d.erase k).get? j = some b) : P j b := by
  rw [get?_erase] at hj
  split at hj
  next same => cases hj
  next other => exact h j b hj

omit [Std.LawfulEqOrd κ] [DecidableEq κ] in
/-- Keys in ascending order differ from each other. -/
theorem Dict.nodup_of_ascending {ks : List κ}
    (h : ks.Pairwise fun a b => compare a b = .lt) : ks.Nodup := by
  apply h.imp
  intro a b hab same
  rw [same] at hab
  exact not_compare_self_lt b hab

end Dictionaries

namespace Cluster

/-! ## Objects under their own places -/

/-- Every object is stored under the place that its metadata name. -/
structure Filed (s : Cluster) : Prop where
  pullers : ∀ name p, s.pullers.get? name = some p → p.name = name
  namespaces : ∀ name ns, s.namespaces.get? name = some ns → ns.metadata.effectiveName = name
  secrets : ∀ key x, s.secrets.get? key = some x → x.metadata.key .secret = .ok key
  accounts : ∀ key a, s.serviceAccounts.get? key = some a →
    a.metadata.key .serviceAccount = .ok key

theorem filed_empty : Cluster.empty.Filed :=
  ⟨fun _ _ h => (by cases h), fun _ _ h => (by cases h), fun _ _ h => (by cases h),
    fun _ _ h => (by cases h)⟩

theorem Filed.of_alike {s t : Cluster} (h : s.Filed) (same : s.Alike t) : t.Filed where
  pullers := same.pullers ▸ h.pullers
  namespaces := same.namespaces ▸ h.namespaces
  secrets := same.secrets ▸ h.secrets
  accounts := same.serviceAccounts ▸ h.accounts

theorem Filed.insertPuller {s : Cluster} (h : s.Filed) {name : String} {p : Puller}
    (placed : p.name = name) : Filed { s with pullers := s.pullers.insert name p } :=
  { h with pullers := Dict.forall_insert h.pullers placed }

theorem Filed.insertSecret {s : Cluster} (h : s.Filed) {key : ObjectKey} {x : Secret}
    (placed : x.metadata.key .secret = .ok key) :
    Filed { s with secrets := s.secrets.insert key x } :=
  { h with secrets := Dict.forall_insert h.secrets placed }

theorem Filed.insertAccount {s : Cluster} (h : s.Filed) {key : ObjectKey} {a : ServiceAccount}
    (placed : a.metadata.key .serviceAccount = .ok key) :
    Filed { s with serviceAccounts := s.serviceAccounts.insert key a } :=
  { h with accounts := Dict.forall_insert h.accounts placed }

theorem Filed.erasePuller {s : Cluster} (h : s.Filed) (name : String) :
    Filed { s with pullers := s.pullers.erase name } :=
  { h with pullers := Dict.forall_erase h.pullers }

/-- A call keeps the objects under their places, whatever its arguments. -/
theorem Filed.answer {s : Cluster} (h : s.Filed) (c : Call) : (s.answer c).2.Filed := by
  cases c with
  | getPuller | listNamespaces | getSecret | listServiceAccounts | getServiceAccount => exact h
  | replacePuller p =>
    rcases replacePuller_cases p s with ⟨-, same⟩ | ⟨old, version, -, -, stored⟩
    · exact h.of_alike same
    · rcases stored with ⟨-, -, same⟩ | ⟨-, same⟩
      · exact (h.erasePuller p.name).of_alike same
      · exact (h.insertPuller (p := p.inPlaceOf old version) rfl).of_alike same
  | replacePullerStatus p =>
    rcases replacePullerStatus_cases p s with ⟨-, same⟩ | ⟨old, version, stored, -, same⟩
    · exact h.of_alike same
    · exact (h.insertPuller (p := { old with status := p.status }.stamp version)
        (h.pullers p.name old stored)).of_alike same
  | createSecret x =>
    rcases createSecret_cases x s with ⟨-, same⟩ | ⟨key, version, uid, placed, -, -, same⟩
    · exact h.of_alike same
    · exact (h.insertSecret (x := x.identified version uid) placed).of_alike same
  | replaceSecret x =>
    rcases replaceSecret_cases x s with ⟨-, same⟩ | ⟨key, old, version, placed, -, -, same⟩
    · exact h.of_alike same
    · exact (h.insertSecret (x := x.inPlaceOf old version) placed).of_alike same
  | replaceServiceAccount a =>
    rcases replaceServiceAccount_cases a s with ⟨-, same⟩ | ⟨key, old, version, placed, -, -, same⟩
    · exact h.of_alike same
    · exact (h.insertAccount (a := a.inPlaceOf old version) placed).of_alike same

/-- A change from outside keeps the objects under their places. -/
theorem Filed.change {s : Cluster} (h : s.Filed) (c : Change) : (s.change c).2.Filed := by
  cases c with
  | addNamespace name labels => exact { h with namespaces := Dict.forall_insert h.namespaces rfl }
  | addServiceAccount inNamespace name =>
    exact { h with accounts := Dict.forall_insert h.accounts rfl }
  | createPuller p => exact { h with pullers := Dict.forall_insert h.pullers rfl }
  | editPuller name spec =>
    show (s.editPuller name spec).Filed
    rw [editPuller]
    split
    · exact { h with }
    next p stored =>
      -- The puller was found under this name, so it is written back to its own place.
      have named : p.name = name := h.pullers name p stored
      exact { h with pullers := Dict.forall_insert h.pullers named }
  | deletePuller name time =>
    show (s.deletePuller name time).2.Filed
    rw [deletePuller]
    split
    · exact { h with }
    next p stored =>
      have named : p.name = name := h.pullers name p stored
      split
      · exact { h with pullers := Dict.forall_erase h.pullers }
      · exact { h with pullers := Dict.forall_insert h.pullers named }
  | deleteSecret inNamespace name => exact { h with secrets := Dict.forall_erase h.secrets }
  | breakNamespace | healNamespace | breakLists | healLists | injectConflicts => exact { h with }

end Cluster

/-! ## Histories -/

/-- The clusters to which changes from outside and calls of any clients lead from the empty
one. -/
inductive Reachable : Cluster → Prop
  | empty : Reachable .empty
  | change {s : Cluster} (before : Reachable s) (c : Change) : Reachable (s.change c).2
  | call {s : Cluster} (before : Reachable s) (c : Call) : Reachable (s.answer c).2

/-- In a cluster that can be reached, objects are under their own places. -/
theorem Reachable.filed {s : Cluster} (h : Reachable s) : s.Filed := by
  induction h with
  | empty => exact Cluster.filed_empty
  | change _ c ih => exact ih.change c
  | call _ c ih => exact ih.answer c

/-- Make changes from outside one after the other. -/
def Cluster.changes (s : Cluster) (cs : List Change) : Cluster :=
  cs.foldl (fun s c => (s.change c).2) s

theorem Reachable.changes {s : Cluster} (h : Reachable s) (cs : List Change) :
    Reachable (s.changes cs) := by
  induction cs generalizing s with
  | nil => exact h
  | cons c cs ih => exact ih (.change h c)

/-- Let the writes in some namespaces succeed again. -/
def Cluster.heal (s : Cluster) (names : List String) : Cluster :=
  s.changes (names.map .healNamespace)

/-- Healing some namespaces takes them from the broken ones, and changes nothing else. -/
theorem Cluster.heal_eq (s : Cluster) (names : List String) :
    s.heal names =
      { s with failingNamespaces := s.failingNamespaces.filter fun n => n ∉ names } := by
  -- The induction is on the names, where each one filters what those before it have left.
  induction names generalizing s with
  | nil => simp [heal, changes]
  | cons name names ih =>
    show Cluster.heal (s.change (.healNamespace name)).2 names = _
    rw [ih]
    simp only [change, List.filter_filter, List.mem_cons, not_or]
    congr 1
    apply List.filter_congr
    intro n _
    by_cases same : n = name <;> simp [same]

/-- A puller that wants the credentials of one registry in every namespace, as it is stored in the
cluster below. -/
def Puller.sample : Puller where
  metadata := {
    name := some "creds1"
    generation := some 1
    resourceVersion := some "5"
    uid := some "00000000-0000-0000-0000-000000000005" }
  spec := { registries := [{ server := "reg.example.com", username := "u", password := "p" }] }

/-- A cluster of two namespaces, with a service account in each of them, and with a puller. -/
def Cluster.sample : Cluster :=
  Cluster.empty.changes [
    .addNamespace "default" .empty,
    .addNamespace "kube-system" .empty,
    .addServiceAccount "default" "default",
    .addServiceAccount "kube-system" "default",
    .createPuller .sample]

theorem Cluster.reachable_sample : Reachable .sample := Reachable.empty.changes _

/-- A property that every call keeps is kept by every program. -/
theorem Program.Keeps.of_calls {ε α : Type} {kept : Cluster → Prop}
    (hc : ∀ s c, kept s → kept (s.answer c).2) (p : Program ε α) : Keeps kept p := by
  induction p with
  | done a => exact fun _ hs => hs
  | fail e => exact fun _ hs => hs
  | call c next ih => exact fun s hs => ⟨hc s c hs, ih _ _ (hc s c hs)⟩
  | clock next ih => exact fun s hs time => ih time s hs
  | note n next ih => exact fun s hs => ih () s hs

/-- A program leaves objects under their places. -/
theorem Program.ends_filed {ε α : Type} (p : Program ε α) {s : Cluster} (filed : s.Filed) :
    p.Ends (fun _ t => t.Filed) s :=
  (Keeps.of_calls (fun _ c before => before.answer c) p s filed).ends

/-- A program leads from clusters that can be reached to such clusters. -/
theorem Program.reachable_run {σ ε α : Type} (w : Surroundings σ) (p : Program ε α) {x : σ}
    (h : Reachable (w.cluster x)) : Reachable (w.cluster (p.run w.toHandler x).2) :=
  (Keeps.of_calls (fun _ c before => .call before c) p _ h).run

end PullSecrets
