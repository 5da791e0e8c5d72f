import PullSecrets.Json.Node

/-!
# The status of a puller

A status is a list of conditions, each an observation of some type. Setting a condition writes
the first one of its type, or appends one; its time moves only when what it says changes.

## Main facts

* `PullerStatus.condition?_set`: the condition that has been set says what it was set to.
* `PullerStatus.condition?_set_of_ne`: setting a condition leaves those of other types alone.
* `PullerStatus.set_eq_self`: setting what a condition already says changes nothing.
-/

namespace PullSecrets

/-- Whether a condition holds. -/
inductive ConditionStatus where
  | true
  | false
  | unknown
  deriving DecidableEq, Inhabited

namespace ConditionStatus

/-- The written form. -/
def text : ConditionStatus → String
  | .true => "True"
  | .false => "False"
  | .unknown => "Unknown"

/-- Read the written form. -/
def ofString? (s : String) : Option ConditionStatus :=
  if s = "True" then some .true
  else if s = "False" then some .false
  else if s = "Unknown" then some .unknown
  else none

/-- What is written is read back. -/
theorem ofString?_text (s : ConditionStatus) : ofString? s.text = some s := by
  cases s <;> decide

end ConditionStatus

/-- An observation about a puller. -/
structure Condition where
  type : String
  status : ConditionStatus
  /-- When the condition last changed, as a text. -/
  lastTransitionTime : Option String := none
  reason : Option String := none
  message : Option String := none
  deriving DecidableEq, Inhabited

/-- Whether a condition says this. -/
def Condition.agrees (c : Condition) (status : ConditionStatus) (reason message : String) : Bool :=
  c.status == status && c.reason == some reason && c.message == some message

/-- The observations about a puller. -/
structure PullerStatus where
  conditions : List Condition := []
  deriving DecidableEq, Inhabited

namespace PullerStatus

/-- The first condition of a type. -/
def condition? (s : PullerStatus) (type : String) : Option Condition :=
  s.conditions.find? (·.type == type)

/-- Write the first condition of a type in a list, or append it. -/
def write (type : String) (status : ConditionStatus) (reason message now : String) :
    List Condition → List Condition
  | [] => [⟨type, status, some now, some reason, some message⟩]
  | c :: cs =>
    if c.type = type then
      if c.agrees status reason message then c :: cs
      else ⟨c.type, status, some now, some reason, some message⟩ :: cs
    else c :: write type status reason message now cs

/-- Set the condition of a type. -/
def set (s : PullerStatus) (type : String) (status : ConditionStatus)
    (reason message now : String) : PullerStatus :=
  ⟨write type status reason message now s.conditions⟩

/-- The condition that has been set says what it was set to. -/
theorem condition?_set (s : PullerStatus) (type : String) (status : ConditionStatus)
    (reason message now : String) :
    ∃ c, (s.set type status reason message now).condition? type = some c ∧
      c.agrees status reason message = true := by
  obtain ⟨cs⟩ := s
  simp only [set, condition?]
  induction cs with
  | nil => simp [write, Condition.agrees]
  | cons c cs ih =>
    rw [write]
    split
    · rename_i htype
      split
      · rename_i hagrees
        exact ⟨c, by simp [htype], hagrees⟩
      · exact ⟨⟨c.type, status, some now, some reason, some message⟩, by simp [htype],
          by simp [Condition.agrees]⟩
    · rename_i htype
      simpa [List.find?_cons, htype] using ih

/-- Setting a condition leaves those of other types alone. -/
theorem condition?_set_of_ne (s : PullerStatus) {type other : String} (h : other ≠ type)
    (status : ConditionStatus) (reason message now : String) :
    (s.set type status reason message now).condition? other = s.condition? other := by
  obtain ⟨cs⟩ := s
  simp only [set, condition?]
  induction cs with
  | nil => simp [write, Ne.symm h]
  | cons c cs ih =>
    rw [write]
    split
    next htype =>
      split
      · rfl
      · simp [htype, Ne.symm h]
    next => rw [List.find?_cons, List.find?_cons, ih]

/-- Setting what a condition already says changes nothing. -/
theorem set_eq_self {s : PullerStatus} {type : String} {status : ConditionStatus}
    {reason message : String} (now : String) {c : Condition} (h : s.condition? type = some c)
    (agrees : c.agrees status reason message = true) :
    s.set type status reason message now = s := by
  obtain ⟨cs⟩ := s
  simp only [set, condition?] at *
  congr 1
  induction cs with
  | nil => simp at h
  | cons d cs ih =>
    rw [write]
    by_cases htype : d.type = type
    · simp only [List.find?_cons, htype, beq_self_eq_true, Option.some.injEq] at h
      subst h
      simp [htype, agrees]
    · have other : (d.type == type) = false := by simpa using htype
      simp only [List.find?_cons, other] at h
      simp [htype, ih h]

end PullerStatus

/-! ## Reading and writing -/

open Json (Node)

/-- Read a condition. -/
def Condition.ofNode? (n : Node) : Option Condition := do
  match ← n.record? [["type"], ["status"], ["lastTransitionTime"], ["reason"], ["message"]] with
  | [type, status, time, reason, message] =>
    some {
      type := ← Node.required Node.text? type
      status := ← Node.required (fun n => n.variant?.bind ConditionStatus.ofString?) status
      lastTransitionTime := ← Node.orElse none (Node.optional Node.text?) time
      reason := ← Node.orElse none (Node.optional Node.text?) reason
      message := ← Node.orElse none (Node.optional Node.text?) message }
  | _ => none

/-- Read a status. -/
def PullerStatus.ofNode? (n : Node) : Option PullerStatus := do
  match ← n.record? [["conditions"]] with
  | [conditions] =>
    some { conditions := ← Node.orElse [] (Node.list? Condition.ofNode?) conditions }
  | _ => none

/-- A text, or a null where there is none. -/
def Json.ofOptional (s : Option String) : Json := s.elim .null .string

/-- The object of a condition; what is absent is written as null. -/
def Condition.toJson (c : Condition) : Json :=
  .object [
    ("type", .string c.type),
    ("status", .string c.status.text),
    ("lastTransitionTime", .ofOptional c.lastTransitionTime),
    ("reason", .ofOptional c.reason),
    ("message", .ofOptional c.message)]

/-- The object of a status; an empty list of conditions is not written. -/
def PullerStatus.toJson (s : PullerStatus) : Json :=
  Json.ofFields [
    ("conditions",
      if s.conditions.isEmpty then none else some (.array (s.conditions.map Condition.toJson)))]

end PullSecrets
