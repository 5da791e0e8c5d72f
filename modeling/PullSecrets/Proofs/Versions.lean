import PullSecrets.Proofs.History
import PullSecrets.Proofs.Persist

/-!
# Versions

Whenever an object is stored, it gets a version that was never given out before. So a version
tells an object apart from everything else that was ever stored, under its own name or another
one, and a copy that is written back under the version it was read with replaces exactly what was
read.

## Main facts

* `Cluster.Moved`, `Cluster.moved_step`: all that a step does to the objects of a cluster.
* `Reachable.versioned`: versions were given out, each of them to one object.
* `Cluster.Versioned.untouched`: an object that still has its version is still the same.
* `Reachable.untouched_of_accepted`: a copy that was read is accepted only in place of the object
  that was read, and only once.
-/

namespace PullSecrets

/-! ## Objects and steps of all kinds -/

/-- An object of any kind. -/
inductive StoredObject where
  | puller (p : Puller)
  | ns (ns : Namespace)
  | secret (x : Secret)
  | account (a : ServiceAccount)

/-- The metadata of an object. -/
def StoredObject.metadata : StoredObject → Metadata
  | .puller p => p.metadata
  | .ns n => n.metadata
  | .secret x => x.metadata
  | .account a => a.metadata

/-- Where an object is stored. -/
inductive Place where
  | puller (name : String)
  | ns (name : String)
  | secret (key : ObjectKey)
  | account (key : ObjectKey)
  deriving DecidableEq

/-- The place of the object that a write is about; an object of a namespace has to name it. -/
def Call.place? : Call → Option Place
  | replacePuller p | replacePullerStatus p => some (.puller p.name)
  | createSecret x | replaceSecret x => (x.metadata.key .secret).toOption.map .secret
  | replaceServiceAccount a => (a.metadata.key .serviceAccount).toOption.map .account
  | _ => none

/-- The metadata of the copy that a replacement carries. -/
def Call.copy? : Call → Option Metadata
  | replacePuller p | replacePullerStatus p => some p.metadata
  | replaceSecret x => some x.metadata
  | replaceServiceAccount a => some a.metadata
  | _ => none

theorem Call.isWrite_of_copy? {c : Call} {copy : Metadata} (h : c.copy? = some copy) :
    c.isWrite = true := by
  cases c with
  | replacePuller | replacePullerStatus | replaceSecret | replaceServiceAccount => rfl
  | getPuller | listNamespaces | getSecret | createSecret | listServiceAccounts
  | getServiceAccount => cases h

/-- What may happen to a cluster: a change from outside, or a call of any client. -/
inductive Step where
  | change (c : Change)
  | call (c : Call)

namespace Cluster

/-- The object that is stored at a place. -/
def object? (s : Cluster) : Place → Option StoredObject
  | .puller name => (s.pullers.get? name).map .puller
  | .ns name => (s.namespaces.get? name).map .ns
  | .secret key => (s.secrets.get? key).map .secret
  | .account key => (s.serviceAccounts.get? key).map .account

/-- The cluster after a step. -/
def step (s : Cluster) : Step → Cluster
  | .change c => (s.change c).2
  | .call c => (s.answer c).2

/-- The cluster after several steps. -/
def steps (s : Cluster) (l : List Step) : Cluster := l.foldl step s

theorem steps_append (s : Cluster) (l m : List Step) : s.steps (l ++ m) = (s.steps l).steps m :=
  List.foldl_append

end Cluster

theorem Reachable.step {s : Cluster} (h : Reachable s) (d : Step) : Reachable (s.step d) := by
  cases d with
  | change c => exact h.change c
  | call c => exact h.call c

theorem Reachable.steps {s : Cluster} (h : Reachable s) (l : List Step) :
    Reachable (s.steps l) := by
  induction l generalizing s with
  | nil => exact h
  | cons d l ih => exact ih (h.step d)

namespace Cluster

variable {s t : Cluster}

/-! ## Storing and removing one object -/

section Objects

variable (s)

theorem object?_insertPuller (name : String) (p : Puller) (place : Place) :
    object? { s with pullers := s.pullers.insert name p } place =
      if place = .puller name then some (.puller p) else s.object? place := by
  cases place with
  | puller other =>
    simp only [object?, Dict.get?_insert, Place.puller.injEq]
    split <;> rfl
  | ns | secret | account => rfl

theorem object?_erasePuller (name : String) (place : Place) :
    object? { s with pullers := s.pullers.erase name } place =
      if place = .puller name then none else s.object? place := by
  cases place with
  | puller other =>
    simp only [object?, Dict.get?_erase, Place.puller.injEq]
    split <;> rfl
  | ns | secret | account => rfl

theorem object?_insertNamespace (name : String) (ns : Namespace) (place : Place) :
    object? { s with namespaces := s.namespaces.insert name ns } place =
      if place = .ns name then some (.ns ns) else s.object? place := by
  cases place with
  | ns other =>
    simp only [object?, Dict.get?_insert, Place.ns.injEq]
    split <;> rfl
  | puller | secret | account => rfl

theorem object?_insertSecret (key : ObjectKey) (x : Secret) (place : Place) :
    object? { s with secrets := s.secrets.insert key x } place =
      if place = .secret key then some (.secret x) else s.object? place := by
  cases place with
  | secret other =>
    simp only [object?, Dict.get?_insert, Place.secret.injEq]
    split <;> rfl
  | puller | ns | account => rfl

theorem object?_eraseSecret (key : ObjectKey) (place : Place) :
    object? { s with secrets := s.secrets.erase key } place =
      if place = .secret key then none else s.object? place := by
  cases place with
  | secret other =>
    simp only [object?, Dict.get?_erase, Place.secret.injEq]
    split <;> rfl
  | puller | ns | account => rfl

theorem object?_insertAccount (key : ObjectKey) (a : ServiceAccount) (place : Place) :
    object? { s with serviceAccounts := s.serviceAccounts.insert key a } place =
      if place = .account key then some (.account a) else s.object? place := by
  cases place with
  | account other =>
    simp only [object?, Dict.get?_insert, Place.account.injEq]
    split <;> rfl
  | puller | ns | secret => rfl

end Objects

/-- All that a step does to objects: versions are given out and never taken back, and at most one
place has another object than before, which got the last version. -/
structure Moved (s t : Cluster) (place : Place) : Prop where
  version : s.version ≤ t.version
  others : ∀ other, other ≠ place → t.object? other = s.object? other
  here : t.object? place = s.object? place ∨ t.object? place = none ∨
    s.version < t.version ∧
      ∃ o, t.object? place = some o ∧ o.metadata.resourceVersion = some t.versionText

theorem moved_of_same (version : s.version ≤ t.version) (same : ∀ p, t.object? p = s.object? p)
    (place : Place) : s.Moved t place :=
  ⟨version, fun other _ => same other, .inl (same place)⟩

theorem object?_of_alike (same : s.Alike t) (place : Place) :
    t.object? place = s.object? place := by
  cases place with
  | puller name => rw [object?, object?, same.pullers]
  | ns name => rw [object?, object?, same.namespaces]
  | secret key => rw [object?, object?, same.secrets]
  | account key => rw [object?, object?, same.serviceAccounts]

theorem moved_of_alike (version : s.version ≤ t.version) (same : s.Alike t) (place : Place) :
    s.Moved t place :=
  moved_of_same version (object?_of_alike same) place

theorem moved_of_removed {place : Place} (version : s.version ≤ t.version)
    (after : ∀ p, t.object? p = if p = place then none else s.object? p) : s.Moved t place := by
  refine ⟨version, fun other hother => ?_, .inr (.inl ?_)⟩
  · rw [after, if_neg hother]
  · rw [after, if_pos rfl]

theorem moved_of_stored {place : Place} {o : StoredObject} (version : s.version < t.version)
    (stamped : o.metadata.resourceVersion = some t.versionText)
    (after : ∀ p, t.object? p = if p = place then some o else s.object? p) : s.Moved t place := by
  refine ⟨Nat.le_of_lt version, fun other hother => ?_, .inr (.inr ⟨version, o, ?_, stamped⟩)⟩
  · rw [after, if_neg hother]
  · rw [after, if_pos rfl]

/-! ## Accepted writes -/

section Accepted

variable {α : Type} {kind : ResourceKind} {place : Option String} {copy : Metadata}
  {metadata : α → Metadata} {stored : Option α} {old : α}

/-- The gates of a replacement let pass a copy that is not stale, with the next version. -/
theorem allowReplacement_accepted
    (h : s.allowReplacement kind place copy metadata stored = (.ok old, t)) :
    stored = some old ∧ copy.isStale (metadata old) = false ∧ t = s.advance := by
  rcases allow_cases kind place copy.effectiveName s with
    ⟨-, -, gate⟩ | ⟨ns, -, -, gate⟩ | ⟨-, -, gate⟩
  · simp only [allowReplacement, gate] at h
    cases stored with
    | none => cases h
    | some found =>
      dsimp only at h
      split at h
      · cases h
      next fresh =>
        cases h
        exact ⟨rfl, Bool.eq_false_iff.2 fresh, rfl⟩
  · simp only [allowReplacement, gate] at h
    cases h
  · simp only [allowReplacement, gate] at h
    cases h

theorem version_le_allow (kind : ResourceKind) (place : Option String) (name : String)
    (s : Cluster) : s.version ≤ (s.allow kind place name).2.version := by
  rcases allow_cases kind place name s with ⟨-, -, gate⟩ | ⟨ns, -, -, gate⟩ | ⟨-, -, gate⟩
  · simp only [gate, Nat.le_refl]
  · simp only [gate, Nat.le_refl]
  · rw [gate]
    exact Nat.le_refl _

theorem version_le_allowReplacement
    {r : Except StoreError α} (h : s.allowReplacement kind place copy metadata stored = (r, t)) :
    s.version ≤ t.version := by
  have gate := version_le_allow kind place copy.effectiveName s
  rcases hgate : s.allow kind place copy.effectiveName with ⟨e | x, u⟩
  · simp only [allowReplacement, hgate] at h
    cases h
    rw [hgate] at gate
    exact gate
  · rw [hgate] at gate
    have ticked : s.version ≤ u.tick.version := Nat.le_succ_of_le gate
    simp only [allowReplacement, hgate] at h
    cases stored with
    | none =>
      cases h
      exact ticked
    | some found =>
      dsimp only at h
      split at h
      · cases h
        exact ticked
      · cases h
        exact ticked

end Accepted

/-- A puller that was replaced is stored, or it has gone away. -/
theorem replacePuller_accepted {p v : Puller} (h : (s.replacePuller p).1 = .ok v) :
    ∃ old, s.pullers.get? p.name = some old ∧ p.metadata.isStale old.metadata = false ∧
      v = p.inPlaceOf old s.advance.versionText ∧
      (s.replacePuller p).2 =
        if v.metadata.isTerminating && v.metadata.finalizerList.isEmpty then
          { s.advance with pullers := s.pullers.erase p.name }
        else { s.advance with pullers := s.pullers.insert p.name v } := by
  rw [replacePuller_eq] at h ⊢
  split at h
  · cases h
  next old t gates =>
    obtain ⟨stored, fresh, rfl⟩ := allowReplacement_accepted gates
    have value : v = p.inPlaceOf old s.advance.versionText := by
      dsimp only at h
      split at h
      · exact (Except.ok.inj h).symm
      · exact (Except.ok.inj h).symm
    refine ⟨old, stored, fresh, value, ?_⟩
    rw [value]
    dsimp only
    split <;> rfl

theorem replacePullerStatus_accepted {p v : Puller} (h : (s.replacePullerStatus p).1 = .ok v) :
    ∃ old, s.pullers.get? p.name = some old ∧ p.metadata.isStale old.metadata = false ∧
      v = { old with status := p.status }.stamp s.advance.versionText ∧
      (s.replacePullerStatus p).2 = { s.advance with pullers := s.pullers.insert p.name v } := by
  rw [replacePullerStatus] at h ⊢
  split at h
  · cases h
  next old t gates =>
    obtain ⟨stored, fresh, rfl⟩ := allowReplacement_accepted gates
    cases h
    exact ⟨old, stored, fresh, rfl, rfl⟩

theorem replaceSecret_accepted {x v : Secret} (h : (s.replaceSecret x).1 = .ok v) :
    ∃ key old, x.metadata.key .secret = .ok key ∧ s.secrets.get? key = some old ∧
      x.metadata.isStale old.metadata = false ∧ v = x.inPlaceOf old s.advance.versionText ∧
      (s.replaceSecret x).2 = { s.advance with secrets := s.secrets.insert key v } := by
  rw [replaceSecret] at h ⊢
  split at h
  · cases h
  next key placed =>
    split at h
    · cases h
    next old t gates =>
      obtain ⟨stored, fresh, rfl⟩ := allowReplacement_accepted gates
      cases h
      exact ⟨key, old, placed, stored, fresh, rfl, rfl⟩

theorem replaceServiceAccount_accepted {a v : ServiceAccount}
    (h : (s.replaceServiceAccount a).1 = .ok v) :
    ∃ key old, a.metadata.key .serviceAccount = .ok key ∧ s.serviceAccounts.get? key = some old ∧
      a.metadata.isStale old.metadata = false ∧ v = a.inPlaceOf old s.advance.versionText ∧
      (s.replaceServiceAccount a).2 =
        { s.advance with serviceAccounts := s.serviceAccounts.insert key v } := by
  rw [replaceServiceAccount] at h ⊢
  split at h
  · cases h
  next key placed =>
    split at h
    · cases h
    next old t gates =>
      obtain ⟨stored, fresh, rfl⟩ := allowReplacement_accepted gates
      cases h
      exact ⟨key, old, placed, stored, fresh, rfl, rfl⟩

/-- A secret that was created had no predecessor. -/
theorem createSecret_accepted {x v : Secret} (h : (s.createSecret x).1 = .ok v) :
    ∃ key, x.metadata.key .secret = .ok key ∧ s.secrets.get? key = none ∧
      v = x.identified s.advance.versionText s.advance.identify.newIdentity ∧
      (s.createSecret x).2 = { s.advance.identify with secrets := s.secrets.insert key v } := by
  rw [createSecret] at h ⊢
  split at h
  · cases h
  next key placed =>
    split at h
    · cases h
    next t gate =>
      have same : t = s := by
        rcases allow_cases .secret (some key.inNamespace) key.name s with
          ⟨-, -, h⟩ | ⟨ns, -, -, h⟩ | ⟨-, -, h⟩
        · rw [h] at gate
          exact (Prod.mk.inj gate).2.symm
        · rw [h] at gate
          cases gate
        · rw [h] at gate
          cases gate
      subst same
      split at h
      · cases h
      next there =>
        split at h
        · cases h
        next free =>
          rw [if_neg there, if_neg free]
          cases h
          exact ⟨key, placed, by simpa [Dict.contains] using free, rfl, rfl⟩

/-- A replacement that is accepted finds an object at the place of the copy, and the copy has its
version if it has one at all. -/
theorem stored_of_accepted {c : Call} {copy : Metadata} {v : c.Value}
    (replaces : c.copy? = some copy) (accepted : (s.answer c).1 = .ok v) :
    ∃ place old, c.place? = some place ∧ s.object? place = some old ∧
      copy.isStale old.metadata = false := by
  cases c with
  | replacePuller p =>
    cases replaces
    obtain ⟨old, stored, fresh, -, -⟩ := replacePuller_accepted accepted
    exact ⟨.puller p.name, .puller old, rfl, by rw [object?, stored]; rfl, fresh⟩
  | replacePullerStatus p =>
    cases replaces
    obtain ⟨old, stored, fresh, -, -⟩ := replacePullerStatus_accepted accepted
    exact ⟨.puller p.name, .puller old, rfl, by rw [object?, stored]; rfl, fresh⟩
  | replaceSecret x =>
    cases replaces
    obtain ⟨key, old, placed, stored, fresh, -, -⟩ := replaceSecret_accepted accepted
    exact ⟨.secret key, .secret old, by rw [Call.place?, placed]; rfl,
      by rw [object?, stored]; rfl, fresh⟩
  | replaceServiceAccount a =>
    cases replaces
    obtain ⟨key, old, placed, stored, fresh, -, -⟩ := replaceServiceAccount_accepted accepted
    exact ⟨.account key, .account old, by rw [Call.place?, placed]; rfl,
      by rw [object?, stored]; rfl, fresh⟩
  | getPuller | listNamespaces | getSecret | createSecret | listServiceAccounts
  | getServiceAccount => cases replaces

/-! ## Steps -/

/-- Versions are given out and never taken back. -/
theorem version_le_answer (s : Cluster) (c : Call) : s.version ≤ (s.answer c).2.version := by
  cases c with
  | getPuller | listNamespaces | getSecret | listServiceAccounts | getServiceAccount =>
    exact Nat.le_refl _
  | replacePuller p =>
    show s.version ≤ (s.replacePuller p).2.version
    rw [replacePuller_eq]
    split
    next gates => exact version_le_allowReplacement gates
    next gates =>
      dsimp only
      have risen := version_le_allowReplacement gates
      split
      · exact risen
      · exact risen
  | replacePullerStatus p =>
    show s.version ≤ (s.replacePullerStatus p).2.version
    rw [replacePullerStatus]
    split
    next gates => exact version_le_allowReplacement gates
    next gates =>
      have risen := version_le_allowReplacement gates
      exact risen
  | createSecret x =>
    show s.version ≤ (s.createSecret x).2.version
    rw [createSecret]
    split
    · exact Nat.le_refl _
    next key _ =>
      have gate := version_le_allow .secret (some key.inNamespace) key.name s
      split
      next h =>
        rw [h] at gate
        exact gate
      next h =>
        rw [h] at gate
        split
        · exact gate
        · split
          · exact gate
          · exact Nat.le_succ_of_le gate
  | replaceSecret x =>
    show s.version ≤ (s.replaceSecret x).2.version
    rw [replaceSecret]
    split
    · exact Nat.le_refl _
    · split
      next gates => exact version_le_allowReplacement gates
      next gates =>
        have risen := version_le_allowReplacement gates
        exact risen
  | replaceServiceAccount a =>
    show s.version ≤ (s.replaceServiceAccount a).2.version
    rw [replaceServiceAccount]
    split
    · exact Nat.le_refl _
    · split
      next gates => exact version_le_allowReplacement gates
      next gates =>
        have risen := version_le_allowReplacement gates
        exact risen

/-- A call that is refused leaves the objects as they are. -/
theorem alike_of_refused {c : Call} {e : StoreError} (refused : (s.answer c).1 = .error e) :
    s.Alike (s.answer c).2 := by
  have differs {α : Type} {r : Except StoreError α} {a : α} (h : r = .error e)
      (h' : r = .ok a) : False := by
    rw [h] at h'
    cases h'
  cases c with
  | getPuller | listNamespaces | getSecret | listServiceAccounts | getServiceAccount =>
    exact Alike.refl s
  | replacePuller p =>
    rcases replacePuller_cases p s with ⟨-, same⟩ | ⟨_, _, -, accepted, -⟩
    · exact same
    · exact (differs refused accepted).elim
  | replacePullerStatus p =>
    rcases replacePullerStatus_cases p s with ⟨-, same⟩ | ⟨_, _, -, accepted, -⟩
    · exact same
    · exact (differs refused accepted).elim
  | createSecret x =>
    rcases createSecret_cases x s with ⟨-, same⟩ | ⟨_, _, _, -, -, accepted, -⟩
    · exact same
    · exact (differs refused accepted).elim
  | replaceSecret x =>
    rcases replaceSecret_cases x s with ⟨-, same⟩ | ⟨_, _, _, -, -, accepted, -⟩
    · exact same
    · exact (differs refused accepted).elim
  | replaceServiceAccount a =>
    rcases replaceServiceAccount_cases a s with ⟨-, same⟩ | ⟨_, _, _, -, -, accepted, -⟩
    · exact same
    · exact (differs refused accepted).elim

/-- A write that is accepted changes its own place alone. What is stored there, unless the object
goes away, has the next version. -/
theorem object?_of_accepted {c : Call} {v : c.Value} (write : c.isWrite = true)
    (accepted : (s.answer c).1 = .ok v) :
    ∃ place new, c.place? = some place ∧ s.version < (s.answer c).2.version ∧
      (∀ p, (s.answer c).2.object? p = if p = place then new else s.object? p) ∧
      ∀ o, new = some o → o.metadata.resourceVersion = some (s.answer c).2.versionText := by
  have grown : s.version < s.advance.version := Nat.lt_succ_self _
  cases c with
  | getPuller | listNamespaces | getSecret | listServiceAccounts | getServiceAccount =>
    cases write
  | replacePuller p =>
    obtain ⟨old, -, -, stamped, after⟩ := replacePuller_accepted accepted
    change (s.answer (.replacePuller p)).2 = _ at after
    rw [after]
    split
    · exact ⟨_, none, rfl, grown, s.advance.object?_erasePuller p.name, by rintro o ⟨⟩⟩
    · refine ⟨_, some (.puller v), rfl, grown, s.advance.object?_insertPuller p.name v, ?_⟩
      rintro o ⟨⟩
      rw [stamped]
      rfl
  | replacePullerStatus p =>
    obtain ⟨old, -, -, stamped, after⟩ := replacePullerStatus_accepted accepted
    change (s.answer (.replacePullerStatus p)).2 = _ at after
    rw [after]
    refine ⟨_, some (.puller v), rfl, grown, s.advance.object?_insertPuller p.name v, ?_⟩
    rintro o ⟨⟩
    rw [stamped]
    rfl
  | createSecret x =>
    obtain ⟨key, placed, -, stamped, after⟩ := createSecret_accepted accepted
    change (s.answer (.createSecret x)).2 = _ at after
    rw [after]
    refine ⟨.secret key, some (.secret v), by rw [Call.place?, placed]; rfl, grown,
      s.advance.identify.object?_insertSecret key v, ?_⟩
    rintro o ⟨⟩
    rw [stamped]
    rfl
  | replaceSecret x =>
    obtain ⟨key, old, placed, -, -, stamped, after⟩ := replaceSecret_accepted accepted
    change (s.answer (.replaceSecret x)).2 = _ at after
    rw [after]
    refine ⟨.secret key, some (.secret v), by rw [Call.place?, placed]; rfl, grown,
      s.advance.object?_insertSecret key v, ?_⟩
    rintro o ⟨⟩
    rw [stamped]
    rfl
  | replaceServiceAccount a =>
    obtain ⟨key, old, placed, -, -, stamped, after⟩ := replaceServiceAccount_accepted accepted
    change (s.answer (.replaceServiceAccount a)).2 = _ at after
    rw [after]
    refine ⟨.account key, some (.account v), by rw [Call.place?, placed]; rfl, grown,
      s.advance.object?_insertAccount key v, ?_⟩
    rintro o ⟨⟩
    rw [stamped]
    rfl

/-- A call moves one place at most. -/
theorem moved_answer (s : Cluster) (c : Call) : ∃ place, s.Moved (s.answer c).2 place := by
  cases write : c.isWrite with
  | false =>
    rw [s.answer_of_not_isWrite write]
    exact ⟨.puller "", moved_of_same (Nat.le_refl _) (fun _ => rfl) _⟩
  | true =>
    cases result : (s.answer c).1 with
    | error e =>
      exact ⟨.puller "", moved_of_alike (s.version_le_answer c) (alike_of_refused result) _⟩
    | ok v =>
      obtain ⟨place, new, -, grown, after, stamped⟩ := object?_of_accepted write result
      refine ⟨place, ?_⟩
      cases new with
      | none => exact moved_of_removed (Nat.le_of_lt grown) after
      | some o => exact moved_of_stored grown (stamped o rfl) after

/-- A change from outside moves one place at most. -/
theorem moved_change (s : Cluster) (c : Change) : ∃ place, s.Moved (s.change c).2 place := by
  have grown : s.version < s.tick.version := Nat.lt_succ_self _
  cases c with
  | addNamespace name labels =>
    exact ⟨.ns name, moved_of_stored grown rfl (s.tick.identify.object?_insertNamespace name _)⟩
  | addServiceAccount inNamespace name =>
    exact ⟨.account ⟨inNamespace, name⟩,
      moved_of_stored grown rfl (s.tick.identify.object?_insertAccount ⟨inNamespace, name⟩ _)⟩
  | createPuller p =>
    exact ⟨.puller _, moved_of_stored grown rfl (s.tick.identify.object?_insertPuller _ _)⟩
  | editPuller name spec =>
    refine ⟨.puller name, ?_⟩
    show s.Moved (s.editPuller name spec) _
    rw [editPuller]
    dsimp only
    split
    · exact moved_of_same (Nat.le_of_lt grown) (fun _ => rfl) _
    · exact moved_of_stored grown rfl (s.tick.object?_insertPuller name _)
  | deletePuller name time =>
    refine ⟨.puller name, ?_⟩
    show s.Moved (s.deletePuller name time).2 _
    rw [deletePuller]
    dsimp only
    split
    · exact moved_of_same (Nat.le_of_lt grown) (fun _ => rfl) _
    · split
      · exact moved_of_removed (Nat.le_of_lt grown) (s.tick.object?_erasePuller name)
      · exact moved_of_stored grown rfl (s.tick.object?_insertPuller name _)
  | deleteSecret inNamespace name =>
    -- No version is given out for this, and none is needed: nothing new is stored.
    exact ⟨.secret ⟨inNamespace, name⟩,
      moved_of_removed (Nat.le_refl _) (s.object?_eraseSecret ⟨inNamespace, name⟩)⟩
  | breakNamespace | healNamespace | breakLists | healLists | injectConflicts =>
    refine ⟨.puller "", moved_of_same ?_ ?_ _⟩
    · exact Nat.le_refl s.version
    · exact fun _ => rfl

theorem moved_step (s : Cluster) (d : Step) : ∃ place, s.Moved (s.step d) place := by
  cases d with
  | change c => exact s.moved_change c
  | call c => exact s.moved_answer c

/-! ## The versions of stored objects -/

/-- The text of a version by its number. -/
def textOf (version : Nat) : String := Text.Decimal.padded 1 version

/-- Every object has a version that was given out, and no two objects have the same. -/
structure Versioned (s : Cluster) : Prop where
  given : ∀ place o, s.object? place = some o →
    ∃ n ≤ s.version, o.metadata.resourceVersion = some (textOf n)
  distinct : ∀ place other o o', s.object? place = some o → s.object? other = some o' →
    o.metadata.resourceVersion = o'.metadata.resourceVersion → place = other

theorem versioned_empty : Cluster.empty.Versioned where
  given := by rintro (_ | _ | _ | _) o ⟨⟩
  distinct := by rintro (_ | _ | _ | _) other o o' ⟨⟩

/-- A version that was given out is another one than the next. -/
theorem Versioned.ne_textOf (h : s.Versioned) {place : Place} {o : StoredObject} {n : Nat}
    (stored : s.object? place = some o) (later : s.version < n) :
    o.metadata.resourceVersion ≠ some (textOf n) := by
  obtain ⟨m, hm, version⟩ := h.given place o stored
  rw [version]
  intro same
  have : m = n := Text.Decimal.padded_inj (Option.some.inj same)
  omega

theorem Versioned.moved (h : s.Versioned) {place : Place} (moved : s.Moved t place) :
    t.Versioned := by
  -- Every object of `t` is one of `s` at the same place, or it is the new one.
  have origin : ∀ p o, t.object? p = some o → s.object? p = some o ∨
      p = place ∧ s.version < t.version ∧ o.metadata.resourceVersion = some t.versionText := by
    intro p o stored
    by_cases this : p = place
    · subst this
      rcases moved.here with same | gone | ⟨grown, new, here, stamped⟩
      · exact .inl (same ▸ stored)
      · rw [gone] at stored
        cases stored
      · rw [here] at stored
        cases stored
        exact .inr ⟨rfl, grown, stamped⟩
    · exact .inl (moved.others p this ▸ stored)
  constructor
  · intro p o stored
    rcases origin p o stored with before | ⟨-, -, stamped⟩
    · obtain ⟨n, hn, version⟩ := h.given p o before
      exact ⟨n, Nat.le_trans hn moved.version, version⟩
    · exact ⟨t.version, Nat.le_refl _, stamped⟩
  · intro p q o o' stored stored' same
    rcases origin p o stored with before | ⟨rfl, grown, stamped⟩
    · rcases origin q o' stored' with before' | ⟨rfl, grown, stamped⟩
      · exact h.distinct p q o o' before before' same
      · exact absurd (same.trans stamped) (h.ne_textOf before grown)
    · rcases origin q o' stored' with before' | ⟨rfl, -, -⟩
      · exact absurd (same.symm.trans stamped) (h.ne_textOf before' grown)
      · rfl

theorem Versioned.steps (h : s.Versioned) (l : List Step) : (s.steps l).Versioned := by
  induction l generalizing s with
  | nil => exact h
  | cons d l ih =>
    obtain ⟨place, moved⟩ := s.moved_step d
    exact ih (h.moved moved)

/-- After any steps, an object is there as it was before, or it has a version that was given out
since. -/
theorem object?_steps (s : Cluster) (l : List Step) :
    s.version ≤ (s.steps l).version ∧ ∀ place o, (s.steps l).object? place = some o →
      s.object? place = some o ∨
        ∃ n, s.version < n ∧ o.metadata.resourceVersion = some (textOf n) := by
  induction l generalizing s with
  | nil => exact ⟨Nat.le_refl _, fun _ _ stored => .inl stored⟩
  | cons d l ih =>
    obtain ⟨place, moved⟩ := s.moved_step d
    obtain ⟨rises, origin⟩ := ih (s.step d)
    refine ⟨Nat.le_trans moved.version rises, fun p o stored => ?_⟩
    rcases origin p o stored with between | ⟨n, later, version⟩
    · by_cases this : p = place
      · subst this
        rcases moved.here with same | gone | ⟨grown, new, here, stamped⟩
        · exact .inl (same ▸ between)
        · rw [gone] at between
          cases between
        · rw [here] at between
          cases between
          exact .inr ⟨_, grown, stamped⟩
      · exact .inl (moved.others p this ▸ between)
    · exact .inr ⟨n, Nat.lt_of_le_of_lt moved.version later, version⟩

/-- Whatever has the version of an object after any steps is that object, at its place. -/
theorem Versioned.untouched (h : s.Versioned) {place other : Place} {o o' : StoredObject}
    (stored : s.object? place = some o) (since : List Step)
    (found : (s.steps since).object? other = some o')
    (version : o'.metadata.resourceVersion = o.metadata.resourceVersion) :
    other = place ∧ o' = o := by
  rcases (s.object?_steps since).2 other o' found with before | ⟨n, later, newer⟩
  · obtain rfl := h.distinct other place o' o before stored version
    rw [stored] at before
    exact ⟨rfl, (Option.some.inj before).symm⟩
  · exact absurd (version.symm.trans newer) (h.ne_textOf stored later)

/-- An accepted write of a copy that was read replaces the object that was read. -/
theorem Versioned.read_of_accepted (h : s.Versioned) {place : Place} {o : StoredObject}
    (stored : s.object? place = some o) (since : List Step) {c : Call} {copy : Metadata}
    (replaces : c.copy? = some copy) (version : copy.resourceVersion = o.metadata.resourceVersion)
    {v : c.Value} (accepted : ((s.steps since).answer c).1 = .ok v) :
    c.place? = some place ∧ (s.steps since).object? place = some o := by
  obtain ⟨other, old, placed, found, fresh⟩ := stored_of_accepted replaces accepted
  -- The object that was read has a version, so the copy has one, and it is compared.
  obtain ⟨n, -, given⟩ := h.given place o stored
  have same : old.metadata.resourceVersion = o.metadata.resourceVersion := by
    by_contra differs
    have stale : copy.isStale old.metadata = true := by
      refine Metadata.isStale_iff.2 ⟨textOf n, version.trans given, fun newer => ?_⟩
      exact differs (newer.trans given.symm)
    rw [fresh] at stale
    cases stale
  obtain ⟨rfl, rfl⟩ := h.untouched stored since found same
  exact ⟨placed, found⟩

end Cluster

/-! ## Histories -/

/-- In a cluster that can be reached, versions tell objects apart. -/
theorem Reachable.versioned {s : Cluster} (h : Reachable s) : s.Versioned := by
  induction h with
  | empty => exact Cluster.versioned_empty
  | @change s _ c ih =>
    obtain ⟨place, moved⟩ := s.moved_change c
    exact ih.moved moved
  | @call s _ c ih =>
    obtain ⟨place, moved⟩ := s.moved_answer c
    exact ih.moved moved

/-- An object is read, and any steps are made. A write under its version is accepted only if the
object is still stored, the same as it was read, at the place that the write is about. After that
no write under this version is accepted any more, so of several clients that write back what they
have read at most one succeeds. -/
theorem Reachable.untouched_of_accepted {s : Cluster} (reachable : Reachable s) {place : Place}
    {o : StoredObject} (stored : s.object? place = some o) (since : List Step) {c : Call}
    {copy : Metadata} (replaces : c.copy? = some copy)
    (version : copy.resourceVersion = o.metadata.resourceVersion) {v : c.Value}
    (accepted : ((s.steps since).answer c).1 = .ok v) :
    c.place? = some place ∧ (s.steps since).object? place = some o ∧
      ∀ (more : List Step) (d : Call) (other : Metadata), d.copy? = some other →
        other.resourceVersion = o.metadata.resourceVersion →
          ∃ e, ((((s.steps since).answer c).2.steps more).answer d).1 = .error e := by
  have versioned := reachable.versioned
  obtain ⟨placed, found⟩ :=
    versioned.read_of_accepted stored since replaces version accepted
  refine ⟨placed, found, fun more d other replaces' version' => ?_⟩
  have later : ((s.steps since).answer c).2.steps more = s.steps (since ++ .call c :: more) := by
    rw [Cluster.steps_append]
    rfl
  cases result : ((((s.steps since).answer c).2.steps more).answer d).1 with
  | error e => exact ⟨e, rfl⟩
  | ok w =>
    rw [later] at result
    have back := (versioned.read_of_accepted stored _ replaces' version' result).2
    rw [← later] at back
    -- The first write has given the place another version, and none is given out twice.
    obtain ⟨place', new, placed', grown, after, stamped⟩ :=
      Cluster.object?_of_accepted (Call.isWrite_of_copy? replaces) accepted
    obtain rfl : place' = place := Option.some.inj (placed'.symm.trans placed)
    have before := versioned.steps since
    rcases (((s.steps since).answer c).2.object?_steps more).2 _ o back with
      kept | ⟨n, newer, given⟩
    · rw [after, if_pos rfl] at kept
      exact absurd (stamped o kept) (before.ne_textOf found grown)
    · exact absurd given (before.ne_textOf found (Nat.lt_trans grown newer))

/-- A puller is read twice, then one of the copies is written back, and the other one later, when
the puller was edited meanwhile. -/
theorem Reachable.untouched_of_accepted_sample :
    let s := Cluster.sample
    let c := Call.replacePuller (Puller.sample.withFinalizers [Names.finalizer])
    let t := (s.steps [.change (.deleteSecret "default" Names.secret)]).answer c
    (∃ v, t.1 = .ok v) ∧
      ∃ e, ((t.2.steps [.change (.editPuller "creds1" {})]).answer
        (.replacePuller .sample)).1 = .error e := by
  intro s c t
  have stored : s.object? (.puller "creds1") = some (.puller .sample) := by
    have found : s.pullers.get? "creds1" = some .sample := by decide +kernel
    rw [Cluster.object?, found]
    rfl
  have accepted : t.1.toOption.isSome = true := by decide +kernel
  obtain ⟨v, hv⟩ := Option.isSome_iff_exists.1 accepted
  have result : t.1 = .ok v := eq_ok_of_toOption hv
  have once := untouched_of_accepted Cluster.reachable_sample stored
    [.change (.deleteSecret "default" Names.secret)] (c := c) rfl rfl result
  exact ⟨⟨v, result⟩, once.2.2 _ (.replacePuller .sample) _ rfl rfl⟩

end PullSecrets
