import Mathlib.Data.List.Induction
import PullSecrets.Reconcile.Report

/-!
# The conditions of a status over time

The conditions of a status are set one after the other, in any order of their types. Nobody else's
condition is touched, new types stand behind the old ones in the order in which they came, and the
first condition of a type says what it was last set to. Its time is that of the latest setting that
said something else than the condition did then.

## Main facts

* `PullerStatus.types_put`, `PullerStatus.condition?_put`: what one setting does.
* `PullerStatus.types_after`: the types, in order.
* `PullerStatus.condition?_after`: the first condition of a type.
* `PullerStatus.settled_after`: what a run of settings leaves behind.
-/

namespace PullSecrets

/-! ## Settings -/

/-- What the condition of a type is set to, at a time. -/
structure Setting where
  type : String
  status : ConditionStatus
  reason : String
  message : String
  now : String
  deriving DecidableEq

/-- The condition that says what it was set to, since some time. -/
def Setting.condition (c : Setting) (since : Option String) : Condition :=
  ⟨c.type, c.status, since, some c.reason, some c.message⟩

namespace PullerStatus

/-- The types of the conditions. -/
def types (s : PullerStatus) : List String := s.conditions.map (·.type)

/-- The time of the first condition of a type. -/
def time? (s : PullerStatus) (type : String) : Option String :=
  (s.condition? type).bind (·.lastTransitionTime)

/-- Whether a setting says something else than the first condition of its type. -/
def differs (s : PullerStatus) (c : Setting) : Bool :=
  !(s.condition? c.type).any (·.agrees c.status c.reason c.message)

/-- The status after a setting. -/
def put (s : PullerStatus) (c : Setting) : PullerStatus :=
  s.set c.type c.status c.reason c.message c.now

/-- The status after some settings, one after the other. -/
def after (s : PullerStatus) (cs : List Setting) : PullerStatus := cs.foldl put s

/-- Those of some settings that said something else than the condition did then. -/
def changes (s : PullerStatus) : List Setting → List Setting
  | [] => []
  | c :: cs => (if s.differs c then [c] else []) ++ (s.put c).changes cs

/-- The last setting of a type. -/
def last? (type : String) (cs : List Setting) : Option Setting :=
  (cs.filter (·.type == type)).getLast?

/-! ## One setting -/

section Put

variable (s : PullerStatus) (c : Setting)

/-- Writing a condition leaves those of other types in their order. -/
theorem filter_write (wants : String → Bool) {type : String} (unwanted : wants type = false)
    (status : ConditionStatus) (reason message now : String) (cs : List Condition) :
    (write type status reason message now cs).filter (fun c => wants c.type) =
      cs.filter fun c => wants c.type := by
  induction cs with
  | nil => simp [write, unwanted]
  | cons c cs ih =>
    rw [write]
    split
    next here =>
      split
      · rfl
      · simp [here, unwanted]
    next => rw [List.filter_cons, List.filter_cons, ih]

/-- A new type is put behind the others. -/
theorem types_put : (s.put c).types = s.types ++ if c.type ∈ s.types then [] else [c.type] := by
  obtain ⟨cs⟩ := s
  simp only [types, put, set]
  induction cs with
  | nil => simp [write]
  | cons k cs ih =>
    rw [write]
    split
    next here => split <;> simp [here]
    next other => rw [List.map_cons, ih]; simp [Ne.symm other]

/-- The first condition of a type says what it was set to. It keeps its time if it said so. -/
theorem condition?_put : (s.put c).condition? c.type =
    some (c.condition (if s.differs c then some c.now else s.time? c.type)) := by
  obtain ⟨cs⟩ := s
  simp only [condition?, put, set, differs, time?]
  induction cs with
  | nil => simp [write, Setting.condition]
  | cons k cs ih =>
    rw [write]
    split
    next here =>
      obtain ⟨type, status, time, reason, message⟩ := k
      obtain rfl : type = c.type := here
      split
      next agrees =>
        simp only [Condition.agrees, Bool.and_eq_true, beq_iff_eq] at agrees
        obtain ⟨⟨rfl, rfl⟩, rfl⟩ := agrees
        simp [Setting.condition, Condition.agrees]
      next differs => simp [Setting.condition, differs]
    next other => simpa [List.find?_cons, other] using ih

/-- Setting a condition leaves the first ones of other types alone. -/
theorem condition?_put_of_ne {type : String} (other : c.type ≠ type) :
    (s.put c).condition? type = s.condition? type :=
  condition?_set_of_ne s (Ne.symm other) c.status c.reason c.message c.now

/-- The time of a first condition moves when it is set to something else. -/
theorem time?_put (type : String) : (s.put c).time? type =
    if c.type = type ∧ s.differs c = true then some c.now else s.time? type := by
  rw [time?]
  by_cases own : c.type = type
  · subst own
    rw [condition?_put]
    simp [Setting.condition]
  · rw [condition?_put_of_ne s c own, if_neg fun h => own h.1, time?]

end Put

/-! ## Settings one after the other -/

section After

variable (s : PullerStatus) (cs : List Setting) (c : Setting)

theorem after_concat : s.after (cs ++ [c]) = (s.after cs).put c := by
  rw [after, List.foldl_append]
  rfl

theorem changes_concat :
    s.changes (cs ++ [c]) = s.changes cs ++ if (s.after cs).differs c then [c] else [] := by
  induction cs generalizing s with
  | nil => exact List.append_nil _
  | cons d cs ih =>
    rw [List.cons_append, changes, ih, changes, List.append_assoc]
    rfl

theorem last?_concat (type : String) :
    last? type (cs ++ [c]) = if c.type = type then some c else last? type cs := by
  rw [last?, List.filter_append, List.getLast?_append]
  by_cases own : c.type = type
  · simp [own]
  · simp [own, last?]

/-- Conditions of types that are never set are left alone, in their order. -/
theorem filter_after (wants : String → Bool) (unwanted : ∀ c ∈ cs, wants c.type = false) :
    (s.after cs).conditions.filter (fun k => wants k.type) =
      s.conditions.filter fun k => wants k.type := by
  induction cs generalizing s with
  | nil => rfl
  | cons c cs ih =>
    obtain ⟨first, others⟩ := List.forall_mem_cons.1 unwanted
    exact (ih (s.put c) others).trans (filter_write wants first _ _ _ _ _)

/-- New types stand behind the old ones, in the order in which they came. -/
theorem types_after : (s.after cs).types =
    s.types ++ ((cs.map (·.type)).filter (· ∉ s.types)).eraseDups := by
  induction cs using List.reverseRecOn with
  | nil => simp [after]
  | append_singleton cs c ih =>
    rw [after_concat, types_put, ih, List.append_assoc, List.map_append, List.filter_append,
      List.eraseDups_append]
    congr 2
    show _ = (([c.type].filter (· ∉ s.types)).removeAll _).eraseDups
    generalize cs.map (·.type) = earlier
    by_cases old : c.type ∈ s.types
    · simp [old, List.removeAll]
    · by_cases came : c.type ∈ earlier
      · simp [old, came, List.removeAll]
      · simp [old, came, List.removeAll, List.eraseDups_cons]

/-- No type gets another condition if it has one. -/
theorem count_types_after (type : String) :
    (s.after cs).types.count type ≤ max (s.types.count type) 1 := by
  induction cs using List.reverseRecOn with
  | nil => exact Nat.le_max_left _ _
  | append_singleton cs c ih =>
    rw [after_concat, types_put, List.count_append]
    split
    next => simpa using ih
    next new =>
      by_cases own : c.type = type
      · subst own
        rw [List.count_eq_zero.2 new, List.count_singleton_self, Nat.zero_add]
        exact Nat.le_max_right _ _
      · rw [List.count_singleton, if_neg (by simpa using own)]
        exact ih

/-- The time of a first condition is that of the latest setting that said something else. -/
theorem time?_after (type : String) : (s.after cs).time? type =
    ((last? type (s.changes cs)).map (·.now)).or (s.time? type) := by
  induction cs using List.reverseRecOn with
  | nil => rfl
  | append_singleton cs c ih =>
    rw [after_concat, changes_concat, time?_put, ih]
    by_cases differs : (s.after cs).differs c = true
    · simp only [differs, and_true, if_true, last?_concat]
      split <;> rfl
    · simp [differs]

/-- The first condition of a type says what it was last set to. -/
theorem condition?_after (type : String) : (s.after cs).condition? type =
    (last? type cs).elim (s.condition? type) fun c =>
      some (c.condition (((last? type (s.changes cs)).map (·.now)).or (s.time? type))) := by
  rw [← time?_after]
  induction cs using List.reverseRecOn with
  | nil => rfl
  | append_singleton cs c ih =>
    rw [after_concat, last?_concat, time?_put]
    by_cases own : c.type = type
    · subst own
      rw [condition?_put, if_pos rfl]
      simp
    · rw [condition?_put_of_ne _ _ own, ih, if_neg own, if_neg fun h => own h.1]

end After

/-- Setting the conditions of two types to what they say changes nothing. -/
theorem set_set_again (s : PullerStatus) {type other : String} (differ : type ≠ other)
    (status status' : ConditionStatus) (reason message reason' message' now now' : String)
    (later later' : String) :
    let t := (s.set type status reason message now).set other status' reason' message' now'
    (t.set type status reason message later).set other status' reason' message' later' = t := by
  intro t
  obtain ⟨c, hc, agrees⟩ := condition?_set s type status reason message now
  obtain ⟨d, hd, agrees'⟩ := condition?_set (s.set type status reason message now) other status'
    reason' message' now'
  -- The second condition is set last, and the first one is still there.
  have kept : t.condition? type = some c := (condition?_set_of_ne _ differ _ _ _ _).trans hc
  rw [set_eq_self later kept agrees, set_eq_self later' hd agrees']

end PullerStatus

namespace Report

/-- A status that reports an end is not changed by another end of the same kind. -/
theorem status_again (current : Option PullerStatus) (failure : Option String)
    (readyTime errorTime readyTime' errorTime' : String) :
    status (some (status current failure readyTime errorTime)) failure readyTime' errorTime' =
      status current failure readyTime errorTime := by
  have differ : ready ≠ error := by decide
  cases failure with
  | none => exact PullerStatus.set_set_again _ differ _ _ _ _ _ _ _ _ _ _
  | some message => exact PullerStatus.set_set_again _ differ _ _ _ _ _ _ _ _ _ _

end Report

/-- What a run of settings leaves behind. Conditions of types that are never set are as before. New
types stand behind the old ones in the order in which they came, so that no type gets a second
condition. The first condition of a type that is set says what it was last set to, since the latest
setting that said something else than it did then, or else since as long as before. So a report that
is made twice is the same. -/
theorem PullerStatus.settled_after (s : PullerStatus) (cs : List Setting) :
    (s.after cs).conditions.filter (fun k => k.type ∉ cs.map (·.type)) =
      s.conditions.filter (fun k => k.type ∉ cs.map (·.type)) ∧
    (s.after cs).types = s.types ++ ((cs.map (·.type)).filter (· ∉ s.types)).eraseDups ∧
    (∀ type, (s.after cs).types.count type ≤ max (s.types.count type) 1) ∧
    (∀ type, (s.after cs).condition? type =
      match last? type cs, last? type (s.changes cs) with
      | none, _ => s.condition? type
      | some c, some d => some ⟨type, c.status, some d.now, some c.reason, some c.message⟩
      | some c, none => some ⟨type, c.status, s.time? type, some c.reason, some c.message⟩) ∧
    ∀ current failure readyTime errorTime readyTime' errorTime',
      Report.status (some (Report.status current failure readyTime errorTime)) failure readyTime'
        errorTime' = Report.status current failure readyTime errorTime := by
  refine ⟨?_, s.types_after cs, s.count_types_after cs, fun type => ?_, Report.status_again⟩
  · refine s.filter_after cs (fun type => type ∉ cs.map (·.type)) fun c hc => ?_
    simpa using ⟨c, hc, rfl⟩
  · rw [condition?_after]
    cases last : last? type cs with
    | none => rfl
    | some c =>
      have own : c.type = type := by
        have found := List.mem_of_getLast? last
        simpa using (List.mem_filter.1 found).2
      subst own
      cases last? c.type (s.changes cs) with
      | none => rfl
      | some d => rfl

end PullSecrets
