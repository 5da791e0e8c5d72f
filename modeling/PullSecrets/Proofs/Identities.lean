import PullSecrets.Proofs.Versions

/-!
# What every cluster keeps to

Whenever an object is created it gets an identity that was never given out before, and it keeps it
through every replacement. Together with the places and the versions of objects, and with the
finalizers of pullers that are to be deleted, this is what can be relied on in every cluster,
whatever was changed from outside and whatever was called with whatever arguments.

A puller that is marked for deletion is kept by its finalizers, and it goes away together with
the last of them. So a marked puller always has finalizers, provided that none is created with the
mark.

## Main facts

* `Cluster.Lineage`, `Cluster.lineage_step`: where the identities of objects come from in a step.
* `Cluster.Numbered`: identities were given out, each of them to one object.
* `Cluster.Awaited`: a puller that is to be deleted has finalizers.
* `Cluster.sound_of_steps`: all of this holds after any steps from the empty cluster, and no
  replacement changes an identity or the time of a deletion.
-/

namespace PullSecrets

namespace Cluster

variable {s t : Cluster}

/-! ## Identities that are given out -/

section Gates

variable {α : Type} (kind : ResourceKind) (place : Option String) (s : Cluster)

theorem identities_allow (name : String) :
    (s.allow kind place name).2.identities = s.identities := by
  rcases allow_cases kind place name s with ⟨-, -, gate⟩ | ⟨ns, -, -, gate⟩ | ⟨-, -, gate⟩
  · rw [gate]
  · rw [gate]
  · rw [gate]
    rfl

theorem identities_allowReplacement (copy : Metadata) (metadata : α → Metadata)
    (stored : Option α) :
    (s.allowReplacement kind place copy metadata stored).2.identities = s.identities := by
  have gate := identities_allow kind place s copy.effectiveName
  rcases hgate : s.allow kind place copy.effectiveName with ⟨e | x, u⟩
  · rw [hgate] at gate
    simpa only [allowReplacement, hgate] using gate
  · rw [hgate] at gate
    simp only [allowReplacement, hgate]
    cases stored with
    | none => exact gate
    | some old =>
      dsimp only
      split
      · exact gate
      · exact gate

end Gates

/-- No replacement gives out an identity. -/
theorem identities_of_copy? {c : Call} {copy : Metadata} (replaces : c.copy? = some copy)
    (s : Cluster) : (s.answer c).2.identities = s.identities := by
  cases c with
  | getPuller | listNamespaces | getSecret | createSecret | listServiceAccounts
  | getServiceAccount => cases replaces
  | replacePuller p =>
    have gates := identities_allowReplacement .puller none s p.metadata Puller.metadata
      (s.pullers.get? p.name)
    show (s.replacePuller p).2.identities = s.identities
    rw [replacePuller_eq]
    split
    next h => simpa only [h] using gates
    next h =>
      rw [h] at gates
      dsimp only
      split
      · exact gates
      · exact gates
  | replacePullerStatus p =>
    have gates := identities_allowReplacement .puller none s p.metadata Puller.metadata
      (s.pullers.get? p.name)
    show (s.replacePullerStatus p).2.identities = s.identities
    rw [replacePullerStatus]
    split
    next h => simpa only [h] using gates
    next h => simpa only [h] using gates
  | replaceSecret x =>
    show (s.replaceSecret x).2.identities = s.identities
    rw [replaceSecret]
    split
    · rfl
    next key _ =>
      have gates := identities_allowReplacement .secret (some key.inNamespace) s x.metadata
        Secret.metadata (s.secrets.get? key)
      split
      next h => simpa only [h] using gates
      next h => simpa only [h] using gates
  | replaceServiceAccount a =>
    show (s.replaceServiceAccount a).2.identities = s.identities
    rw [replaceServiceAccount]
    split
    · rfl
    next key _ =>
      have gates := identities_allowReplacement .serviceAccount (some key.inNamespace) s
        a.metadata ServiceAccount.metadata (s.serviceAccounts.get? key)
      split
      next h => simpa only [h] using gates
      next h => simpa only [h] using gates

/-- Identities are given out and never taken back. -/
theorem identities_le_answer (s : Cluster) (c : Call) :
    s.identities ≤ (s.answer c).2.identities := by
  cases c with
  | getPuller | listNamespaces | getSecret | listServiceAccounts | getServiceAccount =>
    exact Nat.le_refl _
  | replacePuller | replacePullerStatus | replaceSecret | replaceServiceAccount =>
    exact Nat.le_of_eq (identities_of_copy? rfl s).symm
  | createSecret x =>
    show s.identities ≤ (s.createSecret x).2.identities
    rw [createSecret]
    split
    · exact Nat.le_refl _
    next key _ =>
      have gate := identities_allow .secret (some key.inNamespace) s key.name
      split
      next h =>
        rw [h] at gate
        exact Nat.le_of_eq gate.symm
      next h =>
        rw [h] at gate
        split
        · exact Nat.le_of_eq gate.symm
        · split
          · exact Nat.le_of_eq gate.symm
          · exact Nat.le_succ_of_le (Nat.le_of_eq gate.symm)

/-! ## Where an object comes from -/

/-- Where the objects come from after a step: each has the identity of the object that was at its
place, or it is the only new one and has the identity that was given out last. -/
structure Lineage (s t : Cluster) : Prop where
  identities : s.identities ≤ t.identities
  origin : ∀ place o, t.object? place = some o →
    (∃ old, s.object? place = some old ∧ o.metadata.uid = old.metadata.uid) ∨
      (s.identities < t.identities ∧ o.metadata.uid = some t.newIdentity ∧
        ∀ other, other ≠ place → t.object? other = s.object? other)

theorem lineage_of_same (identities : s.identities ≤ t.identities)
    (same : ∀ p, t.object? p = s.object? p) : s.Lineage t where
  identities := identities
  origin := fun place o stored => .inl ⟨o, same place ▸ stored, rfl⟩

theorem lineage_of_removed {place : Place} (identities : s.identities ≤ t.identities)
    (after : ∀ p, t.object? p = if p = place then none else s.object? p) : s.Lineage t where
  identities := identities
  origin := by
    intro p o stored
    rw [after] at stored
    split at stored
    · cases stored
    · exact .inl ⟨o, stored, rfl⟩

/-- An object that replaces another one takes over its identity. -/
theorem lineage_of_replaced {place : Place} {o new : StoredObject}
    (identities : s.identities ≤ t.identities) (before : s.object? place = some o)
    (same : new.metadata.uid = o.metadata.uid)
    (after : ∀ p, t.object? p = if p = place then some new else s.object? p) : s.Lineage t where
  identities := identities
  origin := by
    intro p o' stored
    rw [after] at stored
    split at stored
    next here =>
      cases stored
      exact .inl ⟨o, here ▸ before, same⟩
    · exact .inl ⟨o', stored, rfl⟩

/-- An object that is created takes the next identity. -/
theorem lineage_of_created {place : Place} {new : StoredObject}
    (grown : s.identities < t.identities) (identified : new.metadata.uid = some t.newIdentity)
    (after : ∀ p, t.object? p = if p = place then some new else s.object? p) : s.Lineage t where
  identities := Nat.le_of_lt grown
  origin := by
    intro p o stored
    rw [after] at stored
    split at stored
    next here =>
      cases stored
      refine .inr ⟨grown, identified, fun other differs => ?_⟩
      rw [after, if_neg (here ▸ differs)]
    · exact .inl ⟨o, stored, rfl⟩

/-- A replacement that is accepted takes over the identity of what it replaces. -/
theorem lineage_of_accepted {c : Call} {copy : Metadata} {v : c.Value}
    (replaces : c.copy? = some copy) (accepted : (s.answer c).1 = .ok v) :
    s.Lineage (s.answer c).2 := by
  cases c with
  | getPuller | listNamespaces | getSecret | createSecret | listServiceAccounts
  | getServiceAccount => cases replaces
  | replacePuller p =>
    obtain ⟨old, stored, -, stamped, after⟩ := replacePuller_accepted accepted
    change (s.answer (.replacePuller p)).2 = _ at after
    rw [after]
    split
    · exact lineage_of_removed (Nat.le_refl _) (s.advance.object?_erasePuller p.name)
    · refine lineage_of_replaced (o := .puller old) (Nat.le_refl _) (by rw [object?, stored]; rfl)
        ?_ (s.advance.object?_insertPuller p.name v)
      rw [stamped]
      rfl
  | replacePullerStatus p =>
    obtain ⟨old, stored, -, stamped, after⟩ := replacePullerStatus_accepted accepted
    change (s.answer (.replacePullerStatus p)).2 = _ at after
    rw [after]
    refine lineage_of_replaced (o := .puller old) (Nat.le_refl _) (by rw [object?, stored]; rfl)
      ?_ (s.advance.object?_insertPuller p.name v)
    rw [stamped]
    rfl
  | replaceSecret x =>
    obtain ⟨key, old, -, stored, -, stamped, after⟩ := replaceSecret_accepted accepted
    change (s.answer (.replaceSecret x)).2 = _ at after
    rw [after]
    refine lineage_of_replaced (o := .secret old) (Nat.le_refl _) (by rw [object?, stored]; rfl)
      ?_ (s.advance.object?_insertSecret key v)
    rw [stamped]
    rfl
  | replaceServiceAccount a =>
    obtain ⟨key, old, -, stored, -, stamped, after⟩ := replaceServiceAccount_accepted accepted
    change (s.answer (.replaceServiceAccount a)).2 = _ at after
    rw [after]
    refine lineage_of_replaced (o := .account old) (Nat.le_refl _)
      (by rw [object?, stored]; rfl) ?_ (s.advance.object?_insertAccount key v)
    rw [stamped]
    rfl

theorem lineage_answer (s : Cluster) (c : Call) : s.Lineage (s.answer c).2 := by
  cases result : (s.answer c).1 with
  | error e =>
    exact lineage_of_same (s.identities_le_answer c) (object?_of_alike (alike_of_refused result))
  | ok v =>
    cases c with
    | getPuller | listNamespaces | getSecret | listServiceAccounts | getServiceAccount =>
      exact lineage_of_same (Nat.le_refl _) fun _ => rfl
    | replacePuller | replacePullerStatus | replaceSecret | replaceServiceAccount =>
      exact lineage_of_accepted rfl result
    | createSecret x =>
      obtain ⟨key, -, -, stamped, after⟩ := createSecret_accepted result
      change (s.answer (.createSecret x)).2 = _ at after
      rw [after]
      refine lineage_of_created (Nat.lt_succ_self _) ?_
        (s.advance.identify.object?_insertSecret key v)
      rw [stamped]
      rfl

theorem lineage_change (s : Cluster) (c : Change) : s.Lineage (s.change c).2 := by
  have grown : s.identities < s.tick.identify.identities := Nat.lt_succ_self _
  cases c with
  | addNamespace name labels =>
    exact lineage_of_created grown rfl (s.tick.identify.object?_insertNamespace name _)
  | addServiceAccount inNamespace name =>
    exact lineage_of_created grown rfl
      (s.tick.identify.object?_insertAccount ⟨inNamespace, name⟩ _)
  | createPuller p =>
    exact lineage_of_created grown rfl (s.tick.identify.object?_insertPuller _ _)
  | editPuller name spec =>
    show s.Lineage (s.editPuller name spec)
    rw [editPuller]
    dsimp only
    split
    · exact lineage_of_same (Nat.le_refl _) fun _ => rfl
    next p stored =>
      have before : s.object? (.puller name) = some (.puller p) :=
        congrArg (Option.map StoredObject.puller) stored
      refine lineage_of_replaced (o := .puller p) (Nat.le_refl _) before ?_
        (s.tick.object?_insertPuller name _)
      rfl
  | deletePuller name time =>
    show s.Lineage (s.deletePuller name time).2
    rw [deletePuller]
    dsimp only
    split
    · exact lineage_of_same (Nat.le_refl _) fun _ => rfl
    next p stored =>
      split
      · exact lineage_of_removed (Nat.le_refl _) (s.tick.object?_erasePuller name)
      · have before : s.object? (.puller name) = some (.puller p) :=
          congrArg (Option.map StoredObject.puller) stored
        refine lineage_of_replaced (o := .puller p) (Nat.le_refl _) before ?_
          (s.tick.object?_insertPuller name _)
        rfl
  | deleteSecret inNamespace name =>
    exact lineage_of_removed (Nat.le_refl _) (s.object?_eraseSecret ⟨inNamespace, name⟩)
  | breakNamespace | healNamespace | breakLists | healLists | injectConflicts =>
    exact lineage_of_same (Nat.le_refl _) fun _ => rfl

theorem lineage_step (s : Cluster) (d : Step) : s.Lineage (s.step d) := by
  cases d with
  | change c => exact s.lineage_change c
  | call c => exact s.lineage_answer c

/-! ## The identities of stored objects -/

/-- Every object has an identity that was given out, and no two objects have the same. -/
structure Numbered (s : Cluster) : Prop where
  given : ∀ place o, s.object? place = some o →
    ∃ n ≤ s.identities, o.metadata.uid = some (identityText n)
  distinct : ∀ place other o o', s.object? place = some o → s.object? other = some o' →
    o.metadata.uid = o'.metadata.uid → place = other

theorem numbered_empty : Cluster.empty.Numbered where
  given := by rintro (_ | _ | _ | _) o ⟨⟩
  distinct := by rintro (_ | _ | _ | _) other o o' ⟨⟩

/-- An identity that was given out is another one than the next. -/
theorem Numbered.ne_newIdentity (h : s.Numbered) {place : Place} {o : StoredObject}
    (stored : s.object? place = some o) (grown : s.identities < t.identities) :
    o.metadata.uid ≠ some t.newIdentity := by
  obtain ⟨n, hn, given⟩ := h.given place o stored
  rw [given]
  intro same
  have text : Text.Decimal.padded 12 n = Text.Decimal.padded 12 t.identities :=
    (String.append_right_inj _).1 (Option.some.inj same)
  have : n = t.identities := Text.Decimal.padded_inj text
  omega

theorem Numbered.lineage (h : s.Numbered) (lineage : s.Lineage t) : t.Numbered where
  given := by
    intro place o stored
    rcases lineage.origin place o stored with ⟨old, before, same⟩ | ⟨-, new, -⟩
    · obtain ⟨n, hn, given⟩ := h.given place old before
      exact ⟨n, Nat.le_trans hn lineage.identities, same.trans given⟩
    · exact ⟨t.identities, Nat.le_refl _, new⟩
  distinct := by
    intro place other o o' stored stored' same
    by_contra differ
    rcases lineage.origin place o stored with ⟨old, before, kept⟩ | ⟨grown, new, rest⟩
    · rcases lineage.origin other o' stored' with ⟨old', before', kept'⟩ | ⟨grown, new, rest⟩
      · exact differ (h.distinct place other old old' before before'
          (kept.symm.trans (same.trans kept')))
      · exact h.ne_newIdentity before grown (kept.symm.trans (same.trans new))
    · -- Only one object is new, so the other one was there before the identity was given out.
      rw [rest other (Ne.symm differ)] at stored'
      exact h.ne_newIdentity stored' grown (same.symm.trans new)

/-! ## Pullers that are to be deleted -/

/-- A puller that is to be deleted has finalizers. -/
def Awaited (s : Cluster) : Prop :=
  ∀ name p, s.pullers.get? name = some p → p.metadata.isTerminating = true →
    p.metadata.finalizerList ≠ []

theorem Awaited.of_pullers (h : s.Awaited) (same : t.pullers = s.pullers) : t.Awaited := by
  intro name p stored
  rw [same] at stored
  exact h name p stored

theorem Awaited.insertPuller (h : s.Awaited) {name : String} {p : Puller}
    (awaited : p.metadata.isTerminating = true → p.metadata.finalizerList ≠ [])
    (same : t.pullers = s.pullers.insert name p) : t.Awaited := by
  intro other q stored
  rw [same] at stored
  exact Dict.forall_insert (P := fun _ q => q.metadata.isTerminating = true →
    q.metadata.finalizerList ≠ []) (fun n p => h n p) awaited other q stored

theorem Awaited.erasePuller (h : s.Awaited) {name : String}
    (same : t.pullers = s.pullers.erase name) : t.Awaited := by
  intro other q stored
  rw [same] at stored
  exact Dict.forall_erase (P := fun _ q => q.metadata.isTerminating = true →
    q.metadata.finalizerList ≠ []) (fun n p => h n p) other q stored

/-- A call keeps the finalizers of marked pullers, or it removes the puller. -/
theorem Awaited.answer (h : s.Awaited) (c : Call) : (s.answer c).2.Awaited := by
  cases c with
  | getPuller | listNamespaces | getSecret | listServiceAccounts | getServiceAccount => exact h
  | replacePuller p =>
    rcases replacePuller_cases p s with ⟨-, same⟩ | ⟨old, version, -, -, stored⟩
    · exact h.of_pullers same.pullers
    · rcases stored with ⟨-, -, same⟩ | ⟨stays, same⟩
      · exact h.erasePuller same.pullers
      · refine h.insertPuller (p := p.inPlaceOf old version) ?_ same.pullers
        exact fun marked none => stays ⟨marked, none⟩
  | replacePullerStatus p =>
    rcases replacePullerStatus_cases p s with ⟨-, same⟩ | ⟨old, version, stored, -, same⟩
    · exact h.of_pullers same.pullers
    · have written : (s.replacePullerStatus p).2.pullers =
          s.pullers.insert p.name ({ old with status := p.status }.stamp version) := same.pullers
      refine h.insertPuller (fun marked => ?_) written
      exact h p.name old stored marked
  | createSecret x =>
    rcases createSecret_cases x s with ⟨-, same⟩ | ⟨_, _, _, -, -, -, same⟩
    · exact h.of_pullers same.pullers
    · exact h.of_pullers same.pullers
  | replaceSecret x =>
    rcases replaceSecret_cases x s with ⟨-, same⟩ | ⟨_, _, _, -, -, -, same⟩
    · exact h.of_pullers same.pullers
    · exact h.of_pullers same.pullers
  | replaceServiceAccount a =>
    rcases replaceServiceAccount_cases a s with ⟨-, same⟩ | ⟨_, _, _, -, -, -, same⟩
    · exact h.of_pullers same.pullers
    · exact h.of_pullers same.pullers

/-- A change from outside marks a puller only if it has finalizers. -/
theorem Awaited.change (h : s.Awaited) {c : Change}
    (unmarked : ∀ p, c = .createPuller p → p.metadata.isTerminating = false) :
    (s.change c).2.Awaited := by
  cases c with
  | createPuller p =>
    refine h.insertPuller (p := (s.createPuller p).1) (fun marked => ?_) rfl
    rw [show (s.createPuller p).1.metadata.isTerminating = p.metadata.isTerminating from rfl,
      unmarked p rfl] at marked
    cases marked
  | editPuller name spec =>
    show (s.editPuller name spec).Awaited
    rw [editPuller]
    dsimp only
    split
    · exact h
    next p stored =>
      refine h.insertPuller (fun marked => ?_) rfl
      exact h name p stored marked
  | deletePuller name time =>
    show (s.deletePuller name time).2.Awaited
    rw [deletePuller]
    dsimp only
    split
    · exact h
    next p stored =>
      split
      · exact h.erasePuller rfl
      next some =>
        refine h.insertPuller (fun _ none => some ?_) rfl
        exact List.isEmpty_iff.2 none
  | addNamespace | addServiceAccount | deleteSecret | breakNamespace | healNamespace | breakLists
  | healLists | injectConflicts => exact h

/-! ## All of it -/

/-- What holds of every cluster: objects are under their own places, versions and identities were
given out and tell objects apart, and a puller that is to be deleted has finalizers. -/
structure Sound (s : Cluster) : Prop where
  filed : s.Filed
  versioned : s.Versioned
  numbered : s.Numbered
  awaited : s.Awaited

/-- A step in which no puller is created that is marked for deletion. -/
def Step.Unmarked (d : Step) : Prop :=
  ∀ p, d = .change (.createPuller p) → p.metadata.isTerminating = false

theorem sound_empty : Cluster.empty.Sound :=
  ⟨filed_empty, versioned_empty, numbered_empty, fun _ _ h => by cases h⟩

theorem Sound.step (h : s.Sound) {d : Step} (unmarked : Step.Unmarked d) : (s.step d).Sound := by
  obtain ⟨place, moved⟩ := s.moved_step d
  refine ⟨?_, h.versioned.moved moved, h.numbered.lineage (s.lineage_step d), ?_⟩
  · cases d with
    | change c => exact h.filed.change c
    | call c => exact h.filed.answer c
  · cases d with
    | change c =>
      apply h.awaited.change
      rintro p rfl
      exact unmarked p rfl
    | call c => exact h.awaited.answer c

theorem Sound.steps (h : s.Sound) {l : List Step} (unmarked : ∀ d ∈ l, Step.Unmarked d) :
    (s.steps l).Sound := by
  induction l generalizing s with
  | nil => exact h
  | cons d l ih =>
    exact ih (h.step (unmarked d List.mem_cons_self)) fun e he =>
      unmarked e (List.mem_cons_of_mem d he)

/-! ## What a replacement leaves alone -/

/-- A replacement changes no identity, neither of what it replaces nor of other objects. -/
theorem uid_of_replaced {c : Call} {copy : Metadata} (replaces : c.copy? = some copy)
    {place : Place} {old new : StoredObject} (before : s.object? place = some old)
    (after : (s.answer c).2.object? place = some new) : new.metadata.uid = old.metadata.uid := by
  rcases (s.lineage_answer c).origin place new after with ⟨o, stored, same⟩ | ⟨grown, -⟩
  · obtain rfl := Option.some.inj (stored.symm.trans before)
    exact same
  · exact absurd (identities_of_copy? replaces s) (Nat.ne_of_gt grown)

/-- A puller that stays has the time of its deletion from before. -/
def SameMarks (s t : Cluster) : Prop :=
  ∀ name p q, s.pullers.get? name = some p → t.pullers.get? name = some q →
    q.metadata.deletionTimestamp = p.metadata.deletionTimestamp

theorem sameMarks_of_pullers (same : t.pullers = s.pullers) : s.SameMarks t := by
  intro name p q before after
  rw [same, before] at after
  cases after
  rfl

theorem sameMarks_insertPuller {name : String} {old p : Puller}
    (found : s.pullers.get? name = some old)
    (marked : p.metadata.deletionTimestamp = old.metadata.deletionTimestamp)
    (same : t.pullers = s.pullers.insert name p) : s.SameMarks t := by
  intro other o q before after
  rw [same, Dict.get?_insert] at after
  split at after
  next here =>
    rw [here, found] at before
    cases before
    cases after
    exact marked
  · exact sameMarks_of_pullers (t := s) rfl other o q before after

theorem sameMarks_erasePuller {name : String} (same : t.pullers = s.pullers.erase name) :
    s.SameMarks t := by
  intro other o q before after
  rw [same, Dict.get?_erase] at after
  split at after
  · cases after
  · exact sameMarks_of_pullers (t := s) rfl other o q before after

/-- A call neither marks a puller for deletion, nor takes the mark away, nor moves its time. -/
theorem sameMarks_answer (s : Cluster) (c : Call) : s.SameMarks (s.answer c).2 := by
  cases c with
  | getPuller | listNamespaces | getSecret | listServiceAccounts | getServiceAccount =>
    exact sameMarks_of_pullers rfl
  | replacePuller p =>
    rcases replacePuller_cases p s with ⟨-, same⟩ | ⟨old, version, found, -, stored⟩
    · exact sameMarks_of_pullers same.pullers
    · rcases stored with ⟨-, -, same⟩ | ⟨-, same⟩
      · exact sameMarks_erasePuller same.pullers
      · exact sameMarks_insertPuller (p := p.inPlaceOf old version) found rfl same.pullers
  | replacePullerStatus p =>
    rcases replacePullerStatus_cases p s with ⟨-, same⟩ | ⟨old, version, found, -, same⟩
    · exact sameMarks_of_pullers same.pullers
    · have written : (s.replacePullerStatus p).2.pullers =
          s.pullers.insert p.name ({ old with status := p.status }.stamp version) := same.pullers
      refine sameMarks_insertPuller found ?_ written
      rfl
  | createSecret x =>
    rcases createSecret_cases x s with ⟨-, same⟩ | ⟨_, _, _, -, -, -, same⟩
    · exact sameMarks_of_pullers same.pullers
    · exact sameMarks_of_pullers same.pullers
  | replaceSecret x =>
    rcases replaceSecret_cases x s with ⟨-, same⟩ | ⟨_, _, _, -, -, -, same⟩
    · exact sameMarks_of_pullers same.pullers
    · exact sameMarks_of_pullers same.pullers
  | replaceServiceAccount a =>
    rcases replaceServiceAccount_cases a s with ⟨-, same⟩ | ⟨_, _, _, -, -, -, same⟩
    · exact sameMarks_of_pullers same.pullers
    · exact sameMarks_of_pullers same.pullers

/-- The invariants of a cluster hold after any steps from the empty one. -/
theorem sound_of_steps {l : List Step}
    (unmarked : ∀ p, .change (.createPuller p) ∈ l → p.metadata.deletionTimestamp = none) :
    let s := Cluster.empty.steps l
    s.Sound ∧ ∀ c copy, Call.copy? c = some copy →
      (∀ place old new, s.object? place = some old → (s.answer c).2.object? place = some new →
        new.metadata.uid = old.metadata.uid) ∧
      ∀ name p q, s.pullers.get? name = some p → (s.answer c).2.pullers.get? name = some q →
        q.metadata.deletionTimestamp = p.metadata.deletionTimestamp := by
  intro s
  refine ⟨sound_empty.steps ?_, fun c copy replaces => ⟨?_, s.sameMarks_answer c⟩⟩
  · rintro d hd p rfl
    rw [Metadata.isTerminating, unmarked p hd]
    rfl
  · exact fun place old new => uid_of_replaced replaces

/-- A puller is created, written back with a finalizer, and marked for deletion; then it is
written back once more, as if it had never been marked. -/
theorem sound_of_steps_sample :
    let guarded := (Puller.sample.withFinalizers [Names.finalizer])
    let copy := { guarded with metadata := { guarded.metadata with resourceVersion := none } }
    let s := Cluster.empty.steps [.change (.createPuller .sample), .call (.replacePuller copy),
      .change (.deletePuller "creds1" ⟨0, false⟩)]
    s.Sound ∧ ∃ p q, s.pullers.get? "creds1" = some p ∧
      (s.answer (.replacePuller copy)).2.pullers.get? "creds1" = some q ∧
      q.metadata.resourceVersion = some "4" ∧
      p.metadata.deletionTimestamp = some ⟨0, false⟩ ∧
      q.metadata.deletionTimestamp = p.metadata.deletionTimestamp := by
  intro guarded copy s
  have unmarked : ∀ p, Step.change (.createPuller p) ∈ [Step.change (.createPuller .sample),
      .call (.replacePuller copy), .change (.deletePuller "creds1" ⟨0, false⟩)] →
      p.metadata.deletionTimestamp = none := by
    intro p hp
    obtain rfl : p = .sample := by simpa using hp
    rfl
  have ended := sound_of_steps unmarked
  -- The cluster is named, so that nothing evaluates it in order to compare it.
  rw [show Cluster.empty.steps _ = s from rfl] at ended
  obtain ⟨sound, kept⟩ := ended
  have before : (s.pullers.get? "creds1").isSome := by decide +kernel
  have after : ((s.answer (.replacePuller copy)).2.pullers.get? "creds1").isSome := by
    decide +kernel
  obtain ⟨p, hp⟩ := Option.isSome_iff_exists.1 before
  obtain ⟨q, hq⟩ := Option.isSome_iff_exists.1 after
  refine ⟨sound, p, q, hp, hq, ?_, ?_, (kept _ _ rfl).2 "creds1" p q hp hq⟩
  · have version : ((s.answer (.replacePuller copy)).2.pullers.get? "creds1").bind
        (·.metadata.resourceVersion) = some "4" := by decide +kernel
    rw [hq] at version
    exact version
  · have marked : (s.pullers.get? "creds1").bind (·.metadata.deletionTimestamp) =
        some ⟨0, false⟩ := by decide +kernel
    rw [hp] at marked
    exact marked

end Cluster

end PullSecrets
