import PullSecrets.Proofs.Versions

/-!
# One object at a time

A call either fails, and then every object is as before and no write is counted, or it is a write
that was accepted. Such a write is counted once, takes the next version, and changes the object at
its own place and no other one. What is stored there is the copy with what only the cluster sets;
a puller that is marked for deletion goes away instead when the copy has no finalizers.

## Main facts

* `Cluster.accepts_iff`: which writes a cluster accepts.
* `Cluster.unwritten_of_refused`: a call that fails writes nothing.
* `Cluster.wrote_of_accepted`: an accepted write is about one object.
* `Cluster.atomic_answer`: what calls do to the objects, all in all.
-/

namespace PullSecrets

/-! ## The object of a write -/

/-- The object that an accepted write answers. -/
def Call.written? : (c : Call) → c.Value → Option StoredObject
  | .replacePuller _, v | .replacePullerStatus _, v => some (.puller v)
  | .createSecret _, v | .replaceSecret _, v => some (.secret v)
  | .replaceServiceAccount _, v => some (.account v)
  | .getPuller _, _ | .listNamespaces _, _ | .getSecret .., _ | .listServiceAccounts _, _
  | .getServiceAccount .., _ => none

/-- The namespace of a place, if objects of its kind are in namespaces. -/
def Place.inNamespace : Place → Option String
  | .puller _ | .ns _ => none
  | .secret key | .account key => some key.inNamespace

namespace Cluster

variable {s t : Cluster}

/-- Whether a cluster accepts a write at a place: no fault is in the way, and either the place has
an object and the copy is not stale, or the object is a new one for a namespace that is there. -/
def Accepts (s : Cluster) (c : Call) (place : Place) : Prop :=
  c.place? = some place ∧ s.Open place.inNamespace ∧ s.pendingConflicts = 0 ∧
    match c.copy? with
    | some copy => ∃ old, s.object? place = some old ∧ copy.isStale old.metadata = false
    | none =>
      s.object? place = none ∧ ∃ ns, place.inNamespace = some ns ∧ s.namespaces.contains ns = true

/-- Whether an accepted write takes the object away: it replaces a puller that is marked for
deletion by a copy without finalizers. -/
def removes (s : Cluster) : Call → Bool
  | .replacePuller p =>
    (s.pullers.get? p.name).any (·.metadata.isTerminating) && p.metadata.finalizerList.isEmpty
  | _ => false

/-- The second cluster has the objects of the first, and no write was counted. -/
structure Unwritten (s t : Cluster) : Prop where
  pullers : t.pullers = s.pullers
  namespaces : t.namespaces = s.namespaces
  secrets : t.secrets = s.secrets
  serviceAccounts : t.serviceAccounts = s.serviceAccounts
  writes : t.writes = s.writes

theorem Unwritten.refl (s : Cluster) : s.Unwritten s := ⟨rfl, rfl, rfl, rfl, rfl⟩

theorem Unwritten.trans {u : Cluster} (h : s.Unwritten t) (h' : t.Unwritten u) :
    s.Unwritten u where
  pullers := h'.pullers.trans h.pullers
  namespaces := h'.namespaces.trans h.namespaces
  secrets := h'.secrets.trans h.secrets
  serviceAccounts := h'.serviceAccounts.trans h.serviceAccounts
  writes := h'.writes.trans h.writes

/-- One write was counted and one version given out, and a single place has changed: it has a
given object now, or none. -/
structure Wrote (s t : Cluster) (place : Place) (now : Option StoredObject) : Prop where
  writes : t.writes = s.writes + 1
  version : t.version = s.version + 1
  here : t.object? place = now
  others : ∀ other, other ≠ place → t.object? other = s.object? other

/-! ## Which writes are accepted -/

section Gates

variable {α : Type} {kind : ResourceKind} {place : Option String} {copy : Metadata}
  {metadata : α → Metadata} {stored : Option α} {old : α}

/-- A write passes the faults if there are none in its way. -/
theorem allow_ok_iff (kind : ResourceKind) (name : String) :
    (s.allow kind place name).1 = .ok () ↔ s.Open place ∧ s.pendingConflicts = 0 := by
  rcases allow_cases kind place name s with
    ⟨spared, calm, gate⟩ | ⟨ns, at_place, broken, gate⟩ | ⟨-, busy, gate⟩
  · rw [gate]
    exact iff_of_true rfl ⟨spared, calm⟩
  · rw [gate]
    exact iff_of_false (by rintro ⟨⟩) fun h => h.1 ns at_place broken
  · rw [gate]
    exact iff_of_false (by rintro ⟨⟩) fun h => by omega

/-- A replacement passes the gates if no fault is in its way, its object is there, and the copy is
not stale. -/
theorem allowReplacement_ok_iff :
    (s.allowReplacement kind place copy metadata stored).1 = .ok old ↔
      (s.Open place ∧ s.pendingConflicts = 0) ∧ stored = some old ∧
        copy.isStale (metadata old) = false := by
  rw [← allow_ok_iff kind copy.effectiveName]
  rcases gate : s.allow kind place copy.effectiveName with ⟨e | ⟨⟩, u⟩
  · simp [allowReplacement, gate]
  · simp only [allowReplacement, gate, true_and]
    cases stored with
    | none => simp
    | some found =>
      dsimp only
      split
      next stale =>
        simp only [reduceCtorEq, Option.some.injEq, false_iff]
        rintro ⟨rfl, fresh⟩
        rw [fresh] at stale
        cases stale
      next fresh =>
        simp only [Except.ok.injEq, Option.some.injEq]
        exact ⟨fun h => ⟨h, by simpa [h] using fresh⟩, And.left⟩

/-- The gates count a write only if they let it pass. -/
theorem writes_allowReplacement {e : StoreError}
    (h : s.allowReplacement kind place copy metadata stored = (.error e, t)) :
    t.writes = s.writes := by
  rcases allow_cases kind place copy.effectiveName s with
    ⟨-, -, gate⟩ | ⟨ns, -, -, gate⟩ | ⟨-, -, gate⟩
  · simp only [allowReplacement, gate] at h
    cases stored with
    | none =>
      cases h
      rfl
    | some found =>
      dsimp only at h
      split at h
      · cases h
        rfl
      · cases h
  · simp only [allowReplacement, gate] at h
    cases h
    rfl
  · simp only [allowReplacement, gate] at h
    cases h
    rfl

end Gates

/-- The answer to a replacement is a value exactly if the gates give the object that is stored. -/
theorem accepts_replacement_iff {β α : Type} {kind : ResourceKind} (place : Place)
    {copy : Metadata} {metadata : α → Metadata} {stored : Option α} {wrap : α → StoredObject}
    {r : Except StoreError β} (found : s.object? place = stored.map wrap)
    (described : ∀ old, (wrap old).metadata = metadata old)
    (passed : (∃ v, r = .ok v) ↔
      ∃ old, (s.allowReplacement kind place.inNamespace copy metadata stored).1 = .ok old) :
    (∃ v, r = .ok v) ↔ s.Open place.inNamespace ∧ s.pendingConflicts = 0 ∧
      ∃ old, s.object? place = some old ∧ copy.isStale old.metadata = false := by
  simp only [passed, allowReplacement_ok_iff, found, Option.map_eq_some_iff]
  constructor
  · rintro ⟨old, ⟨spared, calm⟩, there, fresh⟩
    exact ⟨spared, calm, wrap old, ⟨old, there, rfl⟩, by rwa [described]⟩
  · rintro ⟨spared, calm, -, ⟨old, there, rfl⟩, fresh⟩
    exact ⟨old, ⟨spared, calm⟩, there, by rwa [← described]⟩

theorem replacePuller_ok_iff (p : Puller) (s : Cluster) :
    (∃ v, (s.replacePuller p).1 = .ok v) ↔ ∃ old,
      (s.allowReplacement .puller none p.metadata Puller.metadata (s.pullers.get? p.name)).1 =
        .ok old := by
  rw [replacePuller]
  split
  next gates => simp [gates]
  next old t gates =>
    simp only [gates, Except.ok.injEq, exists_eq', iff_true]
    split
    · exact ⟨_, rfl⟩
    · exact ⟨_, rfl⟩

theorem replacePullerStatus_ok_iff (p : Puller) (s : Cluster) :
    (∃ v, (s.replacePullerStatus p).1 = .ok v) ↔ ∃ old,
      (s.allowReplacement .puller none p.metadata Puller.metadata (s.pullers.get? p.name)).1 =
        .ok old := by
  rw [replacePullerStatus]
  split
  next gates => simp [gates]
  next gates => simp [gates]

theorem replaceSecret_ok_iff {x : Secret} {key : ObjectKey} (s : Cluster)
    (placed : x.metadata.key .secret = .ok key) :
    (∃ v, (s.replaceSecret x).1 = .ok v) ↔ ∃ old,
      (s.allowReplacement .secret (some key.inNamespace) x.metadata Secret.metadata
        (s.secrets.get? key)).1 = .ok old := by
  simp only [replaceSecret, placed]
  split
  next gates => simp [gates]
  next gates => simp [gates]

theorem replaceServiceAccount_ok_iff {a : ServiceAccount} {key : ObjectKey} (s : Cluster)
    (placed : a.metadata.key .serviceAccount = .ok key) :
    (∃ v, (s.replaceServiceAccount a).1 = .ok v) ↔ ∃ old,
      (s.allowReplacement .serviceAccount (some key.inNamespace) a.metadata
        ServiceAccount.metadata (s.serviceAccounts.get? key)).1 = .ok old := by
  simp only [replaceServiceAccount, placed]
  split
  next gates => simp [gates]
  next gates => simp [gates]

theorem createSecret_ok_iff {x : Secret} {key : ObjectKey} (s : Cluster)
    (placed : x.metadata.key .secret = .ok key) :
    (∃ v, (s.createSecret x).1 = .ok v) ↔
      s.Open (some key.inNamespace) ∧ s.pendingConflicts = 0 ∧ s.secrets.get? key = none ∧
        s.namespaces.contains key.inNamespace = true := by
  rcases allow_cases .secret (some key.inNamespace) key.name s with
    ⟨spared, calm, gate⟩ | ⟨ns, at_place, broken, gate⟩ | ⟨-, busy, gate⟩
  · simp only [createSecret, placed, gate, spared, calm, true_and]
    cases there : s.namespaces.contains key.inNamespace with
    | false => simp
    | true => cases there' : s.secrets.get? key <;> simp [Dict.contains, there']
  · simp only [createSecret, placed, gate, reduceCtorEq, exists_false, false_iff]
    exact fun h => h.1 ns at_place broken
  · simp only [createSecret, placed, gate, reduceCtorEq, exists_false, false_iff]
    exact fun h => by omega

/-- A write without a place is refused: its object names no namespace. -/
theorem refused_of_unplaced {c : Call} (write : c.isWrite = true) (unplaced : c.place? = none) :
    ∃ e, (s.answer c).1 = .error e := by
  cases c with
  | getPuller | listNamespaces | getSecret | listServiceAccounts | getServiceAccount =>
    cases write
  | replacePuller | replacePullerStatus => cases unplaced
  | createSecret x =>
    cases placed : x.metadata.key .secret with
    | error e => exact ⟨e, by simp only [answer, createSecret, placed]⟩
    | ok key => simp [Call.place?, placed, Except.toOption] at unplaced
  | replaceSecret x =>
    cases placed : x.metadata.key .secret with
    | error e => exact ⟨e, by simp only [answer, replaceSecret, placed]⟩
    | ok key => simp [Call.place?, placed, Except.toOption] at unplaced
  | replaceServiceAccount a =>
    cases placed : a.metadata.key .serviceAccount with
    | error e => exact ⟨e, by simp only [answer, replaceServiceAccount, placed]⟩
    | ok key => simp [Call.place?, placed, Except.toOption] at unplaced

/-- The object of a namespaced write has the place that its metadata name. -/
theorem key_of_place? {kind : ResourceKind} {m : Metadata} {place : Place}
    {wrap : ObjectKey → Place} (h : (m.key kind).toOption.map wrap = some place) :
    ∃ key, m.key kind = .ok key ∧ place = wrap key := by
  obtain ⟨key, placed, rfl⟩ := Option.map_eq_some_iff.1 h
  exact ⟨key, eq_ok_of_toOption placed, rfl⟩

/-- A write is accepted exactly if no fault is in its way, and its place has an object that the
copy may replace, or is free for the object that is created. -/
theorem accepts_iff {c : Call} (write : c.isWrite = true) :
    (∃ v, (s.answer c).1 = .ok v) ↔ ∃ place, s.Accepts c place := by
  cases placed : c.place? with
  | none =>
    obtain ⟨e, refused⟩ := refused_of_unplaced (s := s) write placed
    simp [Accepts, refused, placed]
  | some place =>
    simp only [Accepts, placed, Option.some.injEq, ↓existsAndEq, true_and]
    cases c with
    | getPuller | listNamespaces | getSecret | listServiceAccounts | getServiceAccount =>
      cases write
    | replacePuller p =>
      cases placed
      exact accepts_replacement_iff (.puller p.name) rfl (fun _ => rfl)
        (replacePuller_ok_iff p s)
    | replacePullerStatus p =>
      cases placed
      exact accepts_replacement_iff (.puller p.name) rfl (fun _ => rfl)
        (replacePullerStatus_ok_iff p s)
    | createSecret x =>
      obtain ⟨key, named, rfl⟩ := key_of_place? placed
      have accepted := createSecret_ok_iff s named
      simpa [answer, Call.copy?, object?, Place.inNamespace] using accepted
    | replaceSecret x =>
      obtain ⟨key, named, rfl⟩ := key_of_place? placed
      exact accepts_replacement_iff (.secret key) rfl (fun _ => rfl)
        (replaceSecret_ok_iff s named)
    | replaceServiceAccount a =>
      obtain ⟨key, named, rfl⟩ := key_of_place? placed
      exact accepts_replacement_iff (.account key) rfl (fun _ => rfl)
        (replaceServiceAccount_ok_iff s named)

/-! ## Calls that fail -/

/-- A secret that is not created is not counted. -/
theorem writes_createSecret {x : Secret} {e : StoreError}
    (refused : (s.createSecret x).1 = .error e) : (s.createSecret x).2.writes = s.writes := by
  rw [createSecret] at refused ⊢
  split at refused
  next => rfl
  next key placed =>
    rcases allow_cases .secret (some key.inNamespace) key.name s with
      ⟨-, -, gate⟩ | ⟨ns, -, -, gate⟩ | ⟨-, -, gate⟩
    · simp only [gate] at refused ⊢
      split
      · rfl
      next there =>
        split
        · rfl
        next free =>
          rw [if_neg there, if_neg free] at refused
          cases refused
    · simp only [gate]
    · simp only [gate]
      rfl

/-- A call that fails has counted no write. -/
theorem writes_of_refused {c : Call} {e : StoreError} (refused : (s.answer c).1 = .error e) :
    (s.answer c).2.writes = s.writes := by
  cases c with
  | getPuller | listNamespaces | getSecret | listServiceAccounts | getServiceAccount => rfl
  | replacePuller p =>
    change (s.replacePuller p).1 = _ at refused
    show (s.replacePuller p).2.writes = _
    rw [replacePuller] at refused ⊢
    split at refused
    next gates => simpa only [gates] using writes_allowReplacement gates
    next gates =>
      dsimp only at refused
      split at refused
      · cases refused
      · cases refused
  | replacePullerStatus p =>
    change (s.replacePullerStatus p).1 = _ at refused
    show (s.replacePullerStatus p).2.writes = _
    rw [replacePullerStatus] at refused ⊢
    split at refused
    next gates => simpa only [gates] using writes_allowReplacement gates
    next => cases refused
  | createSecret x => exact writes_createSecret refused
  | replaceSecret x =>
    change (s.replaceSecret x).1 = _ at refused
    show (s.replaceSecret x).2.writes = _
    rw [replaceSecret] at refused ⊢
    split at refused
    next => rfl
    next =>
      split at refused
      next gates => simpa only [gates] using writes_allowReplacement gates
      next => cases refused
  | replaceServiceAccount a =>
    change (s.replaceServiceAccount a).1 = _ at refused
    show (s.replaceServiceAccount a).2.writes = _
    rw [replaceServiceAccount] at refused ⊢
    split at refused
    next => rfl
    next =>
      split at refused
      next gates => simpa only [gates] using writes_allowReplacement gates
      next => cases refused

/-- A call that fails writes nothing. -/
theorem unwritten_of_refused {c : Call} {e : StoreError} (refused : (s.answer c).1 = .error e) :
    s.Unwritten (s.answer c).2 :=
  have same := alike_of_refused refused
  ⟨same.pullers, same.namespaces, same.secrets, same.serviceAccounts, writes_of_refused refused⟩

/-! ## Writes that are accepted -/

/-- An accepted write is about one object: it is counted once, its place has the object now that it
answers, under the version that was given out, or none, and all other places are as before. -/
theorem wrote_of_accepted {c : Call} {v : c.Value} (write : c.isWrite = true)
    (accepted : (s.answer c).1 = .ok v) :
    ∃ place o, c.place? = some place ∧ c.written? v = some o ∧
      o.metadata.resourceVersion = some (s.answer c).2.versionText ∧
      s.Wrote (s.answer c).2 place (if s.removes c then none else some o) := by
  have wrote {t : Cluster} {place : Place} {now : Option StoredObject}
      (writes : t.writes = s.advance.writes) (version : t.version = s.advance.version)
      (after : ∀ p, t.object? p = if p = place then now else s.object? p) :
      s.Wrote t place now :=
    ⟨writes, version, by rw [after, if_pos rfl], fun p hp => by rw [after, if_neg hp]⟩
  cases c with
  | getPuller | listNamespaces | getSecret | listServiceAccounts | getServiceAccount =>
    cases write
  | replacePuller p =>
    obtain ⟨old, stored, -, value, after⟩ := replacePuller_accepted accepted
    change (s.answer (.replacePuller p)).2 = _ at after
    have removes : s.removes (.replacePuller p) =
        (v.metadata.isTerminating && v.metadata.finalizerList.isEmpty) := by
      simp only [Cluster.removes, stored, Option.any_some, value]
      rfl
    rw [after, removes]
    split
    · exact ⟨_, _, rfl, rfl, by rw [value]; rfl,
        wrote rfl rfl (s.advance.object?_erasePuller p.name)⟩
    · exact ⟨_, _, rfl, rfl, by rw [value]; rfl,
        wrote rfl rfl (s.advance.object?_insertPuller p.name v)⟩
  | replacePullerStatus p =>
    obtain ⟨old, -, -, value, after⟩ := replacePullerStatus_accepted accepted
    change (s.answer (.replacePullerStatus p)).2 = _ at after
    rw [after]
    exact ⟨_, _, rfl, rfl, by rw [value]; rfl,
      wrote rfl rfl (s.advance.object?_insertPuller p.name v)⟩
  | createSecret x =>
    obtain ⟨key, placed, -, value, after⟩ := createSecret_accepted accepted
    change (s.answer (.createSecret x)).2 = _ at after
    rw [after]
    exact ⟨.secret key, _, by rw [Call.place?, placed]; rfl, rfl, by rw [value]; rfl,
      wrote rfl rfl (s.advance.identify.object?_insertSecret key v)⟩
  | replaceSecret x =>
    obtain ⟨key, old, placed, -, -, value, after⟩ := replaceSecret_accepted accepted
    change (s.answer (.replaceSecret x)).2 = _ at after
    rw [after]
    exact ⟨.secret key, _, by rw [Call.place?, placed]; rfl, rfl, by rw [value]; rfl,
      wrote rfl rfl (s.advance.object?_insertSecret key v)⟩
  | replaceServiceAccount a =>
    obtain ⟨key, old, placed, -, -, value, after⟩ := replaceServiceAccount_accepted accepted
    change (s.answer (.replaceServiceAccount a)).2 = _ at after
    rw [after]
    exact ⟨.account key, _, by rw [Call.place?, placed]; rfl, rfl, by rw [value]; rfl,
      wrote rfl rfl (s.advance.object?_insertAccount key v)⟩

/-- Whatever the objects and the faults of a cluster are, and whatever a call says: a call that
fails writes nothing, a write that is accepted is about one object, and nothing else is changed by
a call. A puller that is replaced keeps its status, its identity, its generation and its mark for
deletion; one whose status is replaced keeps everything else. -/
theorem atomic_answer (s : Cluster) :
    (∀ c : Call, c.isWrite = false → (s.answer c).2 = s) ∧
    (∀ (c : Call) (e : StoreError), (s.answer c).1 = .error e → s.Unwritten (s.answer c).2) ∧
    (∀ (c : Call), c.isWrite = true →
      ((∃ v, (s.answer c).1 = .ok v) ↔ ∃ place, s.Accepts c place) ∧
      ∀ v, (s.answer c).1 = .ok v → ∃ place o, c.place? = some place ∧ c.written? v = some o ∧
        o.metadata.resourceVersion = some (s.answer c).2.versionText ∧
        s.Wrote (s.answer c).2 place (if s.removes c then none else some o)) ∧
    (∀ p v : Puller, (s.answer (.replacePuller p)).1 = .ok v →
      ∃ old, s.pullers.get? p.name = some old ∧
        v = p.inPlaceOf old (s.answer (.replacePuller p)).2.versionText ∧
        (s.removes (.replacePuller p) = true ↔
          old.metadata.isTerminating = true ∧ p.metadata.finalizerList = [])) ∧
    ∀ p v : Puller, (s.answer (.replacePullerStatus p)).1 = .ok v →
      ∃ old, s.pullers.get? p.name = some old ∧
        v = { old with status := p.status }.stamp
          (s.answer (.replacePullerStatus p)).2.versionText := by
  refine ⟨fun c => s.answer_of_not_isWrite, fun c e => unwritten_of_refused,
    fun c write => ⟨accepts_iff write, fun v => wrote_of_accepted write⟩, ?_, ?_⟩
  · intro p v accepted
    obtain ⟨old, stored, -, value, after⟩ := replacePuller_accepted accepted
    change (s.answer (.replacePuller p)).2 = _ at after
    refine ⟨old, stored, ?_, by simp [removes, stored]⟩
    rw [value, after]
    split
    · rfl
    · rfl
  · intro p v accepted
    obtain ⟨old, stored, -, value, after⟩ := replacePullerStatus_accepted accepted
    change (s.answer (.replacePullerStatus p)).2 = _ at after
    refine ⟨old, stored, ?_⟩
    rw [value, after]
    rfl

/-- A guarded puller is marked for deletion. A copy from before is refused; one without finalizers
is accepted whatever mark it carries, and takes the puller away. -/
theorem atomic_answer_sample :
    let s := sample.steps [
      .call (.replacePuller (Puller.sample.withFinalizers [Names.finalizer])),
      .change (.deletePuller "creds1" ⟨0, false⟩)]
    let freed : Puller := { Puller.sample with
      metadata := { Puller.sample.metadata with resourceVersion := none } }
    let t := (s.answer (.replacePuller freed)).2
    (s.answer (.getPuller "creds1")).2 = s ∧
    s.Unwritten (s.answer (.replacePullerStatus .sample)).2 ∧
    (∃ place, s.Accepts (.replacePuller freed) place) ∧
    s.Wrote t (.puller "creds1") none ∧
    ∃ v old : Puller, v = freed.inPlaceOf old t.versionText ∧
      old.metadata.isTerminating = true := by
  intro s freed t
  obtain ⟨reads, refused, accepted, replaced, -⟩ := atomic_answer s
  have stale : (s.answer (.replacePullerStatus .sample)).1 =
      .error (.conflict .puller "creds1") := by decide +kernel
  have fresh : (s.answer (.replacePuller freed)).1.toOption.isSome = true := by decide +kernel
  obtain ⟨v, hv⟩ := Option.isSome_iff_exists.1 fresh
  have ok : (s.answer (.replacePuller freed)).1 = .ok v := eq_ok_of_toOption hv
  have removes : s.removes (.replacePuller freed) = true := by decide +kernel
  obtain ⟨admits, wrote⟩ := accepted (.replacePuller freed) rfl
  obtain ⟨place, o, placed, -, -, wrote⟩ := wrote v ok
  obtain ⟨old, -, value, goes⟩ := replaced freed v ok
  rw [if_pos removes] at wrote
  cases placed
  exact ⟨reads _ rfl, refused _ _ stale, admits.1 ⟨v, ok⟩, wrote, v, old, value,
    (goes.1 removes).1⟩

end Cluster

end PullSecrets
