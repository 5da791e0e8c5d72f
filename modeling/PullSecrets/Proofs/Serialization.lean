import PullSecrets.Proofs.Renaming
import PullSecrets.Proofs.Rereading
import PullSecrets.Puller.Basic

/-!
# What pullers are written as

Specifications, statuses, conditions and credentials are read back from their texts as they were,
although what is empty or absent is mostly not written. The selector of a specification also goes
by an older name. A text in which one name stands for the other is read in the same way, or it is
wrong in the same way, and what is read from it is written under the newer name alone.

## Main facts

* `PullerSpec.ofNode?_ofValue`, `PullerStatus.ofNode?_ofValue`, ...: what is written is read back.
* `PullerSpec.read?_of_spells`: under either name of the selector the same is read, or nothing.
* `written_read_back`: all that is written is read back, under either name of the selector.
-/

namespace PullSecrets

open Json (Node)

/-! ## Values of single types -/

namespace Json.Node

variable (room : Nat)

/-- A text that is left out when it is empty is read back. -/
@[simp] theorem orElse_ofNonempty (s : String) :
    orElse "" text? ((ofNonempty s).map (ofValue room)) = some s := by
  rw [ofNonempty]
  split
  next empty =>
    rw [String.isEmpty_iff] at empty
    rw [empty]
    rfl
  · rfl

/-- A text that is written as null when it is absent is read back. -/
@[simp] theorem optional_ofOptional (s : Option String) :
    optional text? (ofValue room (ofOptional s)) = some s := by
  cases s <;> rfl

end Json.Node

section Values

variable (room : Nat)

open Json.Node

theorem Registry.ofNode?_ofValue (r : Registry) :
    Registry.ofNode? (ofValue (room + 1) r.toJson) = some r := by
  rw [ofNode?, toJson, record?_ofFields room (by simp)]
  simp

theorem Requirement.ofNode?_ofValue (r : Requirement) :
    Requirement.ofNode? (ofValue (room + 2) r.toJson) = some r := by
  rw [ofNode?, toJson, members?_ofFields, Option.bind_eq_bind, Option.bind_some,
    field_members _ (text?_ofValue _) nofun (some r.key) (by simp),
    field_members _ (text?_ofValue _) nofun (some r.operator) (by simp),
    field_members _ (strings?_ofStrings room) nofun r.values (by simp)]
  rfl

theorem LabelSelector.ofNode?_ofValue (s : LabelSelector) :
    LabelSelector.ofNode? (ofValue (room + 4) s.toJson) = some s := by
  rw [ofNode?, toJson, members?_ofFields, Option.bind_eq_bind, Option.bind_some,
    field_members _ (list?_ofValue _ (Requirement.ofNode?_ofValue room)) nofun s.matchExpressions
      (by simp),
    field_members _ (texts?_ofTexts _) nofun s.matchLabels (by simp)]
  rfl

theorem PullerSpec.ofNode?_ofValue (s : PullerSpec) :
    PullerSpec.ofNode? (ofValue (room + 5) s.toJson) = some s := by
  have registries : orElse [] (list? Registry.ofNode?)
      (some (ofValue (room + 4) (.array (s.registries.map Registry.toJson)))) =
        some s.registries :=
    list?_ofValue _ (Registry.ofNode?_ofValue (room + 2)) s.registries
  have selector := orElse_optional_map _ (LabelSelector.ofNode?_ofValue room) nofun
    s.namespaceSelector
  rw [ofNode?, toJson, record?_ofFields _ (by simp)]
  simp only [List.map_cons, List.map_nil, Option.map_some, Option.bind_eq_bind, Option.bind_some,
    registries, selector]

theorem Condition.ofNode?_ofValue (c : Condition) :
    Condition.ofNode? (ofValue (room + 1) c.toJson) = some c := by
  have object : c.toJson = Json.ofFields [
      ("type", some (.string c.type)),
      ("status", some (.string c.status.text)),
      ("lastTransitionTime", some (.ofOptional c.lastTransitionTime)),
      ("reason", some (.ofOptional c.reason)),
      ("message", some (.ofOptional c.message))] := rfl
  have status : (ofValue room (.string c.status.text)).variant?.bind ConditionStatus.ofString? =
      some c.status := ConditionStatus.ofString?_text c.status
  rw [ofNode?, object, record?_ofFields _ (by simp)]
  simp [required, orElse, status]

theorem PullerStatus.ofNode?_ofValue (s : PullerStatus) :
    PullerStatus.ofNode? (ofValue (room + 3) s.toJson) = some s := by
  obtain ⟨conditions⟩ := s
  rw [ofNode?, toJson, record?_ofFields _ (by simp)]
  cases conditions with
  | nil => rfl
  | cons c cs =>
    have items := list?_ofValue _ (Condition.ofNode?_ofValue room) (c :: cs)
    simp only [List.map_cons] at items
    simp [orElse, items]

end Values

/-- The object of a specification whose selector goes by some name. -/
def PullerSpec.toJsonAs (name : String) (s : PullerSpec) : Json :=
  Json.ofFields [
    ("registries", some (.array (s.registries.map Registry.toJson))),
    (name, s.namespaceSelector.map LabelSelector.toJson)]

/-! ## Values without numbers -/

namespace Json

/-- An object holds no number if none of its fields does. -/
theorem numberless_ofFields {fields : List (String × Option Json)}
    (h : ∀ f ∈ fields, ∀ v, f.2 = some v → v.numberless = true) :
    (ofFields fields).numberless = true := by
  refine numberlessMembers_iff.2 fun m hm => ?_
  obtain ⟨f, hf, written⟩ := List.mem_filterMap.1 hm
  obtain ⟨v, hv, rfl⟩ := Option.map_eq_some_iff.1 written
  exact h f hf v hv

theorem numberless_ofTexts (d : Dict String String) : (ofTexts d).numberless = true := by
  refine numberlessMembers_iff.2 fun m hm => ?_
  obtain ⟨e, -, rfl⟩ := List.mem_map.1 hm
  rfl

section Writers

variable {α : Type} {write : α → Json} (h : ∀ a, (write a).numberless = true)

include h

theorem numberless_array_map (as : List α) : (array (as.map write)).numberless = true := by
  refine numberlessItems_iff.2 fun x hx => ?_
  obtain ⟨a, -, rfl⟩ := List.mem_map.1 hx
  exact h a

theorem numberless_of_map (a : Option α) (v : Json) (written : a.map write = some v) :
    v.numberless = true := by
  obtain ⟨a, -, rfl⟩ := Option.map_eq_some_iff.1 written
  exact h a

end Writers

end Json

section Numberless

open Json

theorem Registry.numberless_toJson (r : Registry) : r.toJson.numberless = true := by
  have nonempty : ∀ s v, ofNonempty s = some v → v.numberless = true := by
    intro s v written
    rw [ofNonempty] at written
    split at written
    · cases written
    · cases written
      rfl
  apply numberless_ofFields
  simp only [List.forall_mem_cons]
  exact ⟨nonempty _, nonempty _, nonempty _, nonempty _, nonempty _, nofun⟩

theorem Requirement.numberless_toJson (r : Requirement) : r.toJson.numberless = true := by
  apply numberless_ofFields
  simp only [List.forall_mem_cons]
  have text : ∀ s v, some (string s) = some v → v.numberless = true := by
    rintro s v ⟨⟩
    rfl
  exact ⟨text r.key, text r.operator,
    numberless_of_map (numberless_array_map fun _ => rfl) r.values, nofun⟩

theorem LabelSelector.numberless_toJson (s : LabelSelector) : s.toJson.numberless = true := by
  apply numberless_ofFields
  simp only [List.forall_mem_cons]
  exact ⟨numberless_of_map (numberless_array_map Requirement.numberless_toJson) s.matchExpressions,
    numberless_of_map numberless_ofTexts s.matchLabels, nofun⟩

theorem PullerSpec.numberless_toJsonAs (name : String) (s : PullerSpec) :
    (s.toJsonAs name).numberless = true := by
  apply numberless_ofFields
  simp only [List.forall_mem_cons]
  exact ⟨numberless_of_map (numberless_array_map Registry.numberless_toJson) (some s.registries),
    numberless_of_map LabelSelector.numberless_toJson s.namespaceSelector, nofun⟩

theorem Condition.numberless_toJson (c : Condition) : c.toJson.numberless = true := by
  obtain ⟨type, status, time, reason, message⟩ := c
  cases time <;> cases reason <;> cases message <;> rfl

theorem PullerStatus.numberless_toJson (s : PullerStatus) : s.toJson.numberless = true := by
  obtain ⟨_ | ⟨c, cs⟩⟩ := s
  · rfl
  · apply numberless_ofFields
    simp only [List.forall_mem_cons]
    exact ⟨numberless_of_map (numberless_array_map Condition.numberless_toJson) (some (c :: cs)),
      nofun⟩

end Numberless

/-! ## Texts -/

/-- What is read from a JSON text. -/
def Json.read? {α : Type} (ofNode? : Node → Option α) (text : String) : Option α :=
  (Tree.ofString? text).bind fun t => ofNode? (Node.whole t)

/-- What can be read from the node of a value is read from its text. -/
theorem Json.read?_render {α : Type} {ofNode? : Node → Option α} {a : α} {v : Json}
    (plain : v.numberless = true) (h : ofNode? (Node.ofValue Tree.maxDepth v) = some a) :
    Json.read? ofNode? v.render = some a := by
  rw [Json.read?, Tree.ofString?_render plain]
  exact h

/-- After the characters `a` of a text, the characters `k` spell a name of its outermost object. -/
def Json.Spells (a k : List Char) (name : String) : Prop :=
  ∃ done closable, Tree.run Tree.start a = some ⟨[.names done], .nameDue closable⟩ ∧
    Tree.run ⟨[.names done], .nameDue closable⟩ k = some ⟨[.value done (some name)], .colonDue⟩

namespace PullerSpec

/-- The two names of the selector stand for one field. -/
theorem ofNode?_of_relabeled {ms ns : List (Option String × Json.Tree)}
    (h : Json.Tree.Relabeled (some "namespaceSelector") (some "namespaceAffinity") ms ns)
    (room : Nat) : ofNode? ⟨room, .object ms⟩ = ofNode? ⟨room, .object ns⟩ := by
  rw [ofNode?, ofNode?, Node.record?_of_relabeled (by simp) h]

/-- A text that gives the selector its older name is read like the one with the newer name. -/
theorem read?_of_spells {a k : List Char} (h : Json.Spells a k "namespaceSelector")
    (b : List Char) :
    Json.read? ofNode? (String.ofList (a ++ k ++ b)) =
      Json.read? ofNode? (String.ofList (a ++ Json.text "namespaceAffinity" ++ b)) := by
  obtain ⟨done, closable, opened, read⟩ := h
  have renamed := Json.Tree.run_name done [] closable "namespaceAffinity"
  simp only [Json.read?, Json.Tree.ofString?, String.toList_ofList]
  rcases Json.Tree.ofChars?_relabeled opened read renamed b with
    same | ⟨ms, ns, relabeled, first, second⟩
  · rw [same]
  · rw [first, second]
    exact ofNode?_of_relabeled relabeled _

/-- A specification is read back when its selector is written under the older name. -/
theorem ofNode?_toJsonAs (room : Nat) (s : PullerSpec) :
    ofNode? (Node.ofValue (room + 5) (s.toJsonAs "namespaceAffinity")) = some s := by
  rw [← ofNode?_ofValue room s]
  obtain ⟨registries, _ | selector⟩ := s
  · rfl
  · exact (ofNode?_of_relabeled ((Json.Tree.Relabeled.head _ []).cons _) _).symm

end PullerSpec

/-! ## What is left out -/

/-- The credentials for a server, under the names they are written with. -/
def Registry.credentials (r : Registry) : List (String × String) :=
  [("username", r.username), ("password", r.password), ("email", r.email), ("auth", r.auth)]

/-- All texts of credentials, under the names they are written with. -/
def Registry.texts (r : Registry) : List (String × String) :=
  ("server", r.server) :: r.credentials

/-- The members of texts that are not empty. -/
def Json.nonempty (texts : List (String × String)) : List (String × Json) :=
  (texts.filter fun f => !f.2.isEmpty).map fun f => (f.1, .string f.2)

theorem Json.present_ofNonempty (texts : List (String × String)) :
    present (texts.map fun f => (f.1, ofNonempty f.2)) = nonempty texts := by
  induction texts with
  | nil => rfl
  | cons f texts ih =>
    obtain ⟨name, s⟩ := f
    simp only [present, nonempty, ofNonempty, List.map_cons, List.filterMap_cons,
      List.filter_cons] at ih ⊢
    cases s.isEmpty with
    | true => exact ih
    | false => exact congrArg _ ih

/-- Of credentials those that are not empty are written. -/
theorem Registry.toJson_eq (r : Registry) : r.toJson = .object (Json.nonempty r.texts) :=
  congrArg Json.object (Json.present_ofNonempty r.texts)

/-- All that is written is read back, although empty texts, an empty list of conditions and an
absent selector are left out. A text that gives the selector its older name is read like the one
with the newer name, under which alone it is written. -/
theorem written_read_back :
    (∀ s : PullerSpec, Json.read? PullerSpec.ofNode? s.toJson.render = some s) ∧
    (∀ s : PullerStatus, Json.read? PullerStatus.ofNode? s.toJson.render = some s) ∧
    (∀ c : Condition, Json.read? Condition.ofNode? c.toJson.render = some c) ∧
    (∀ r : Registry, Json.read? Registry.ofNode? r.toJson.render = some r) ∧
    (∀ r : Registry, r.toJson = .object (Json.nonempty r.texts)) ∧
    PullerStatus.toJson { conditions := [] } = .object [] ∧
    (∀ s : PullerSpec, s.toJson = .object
      (("registries", .array (s.registries.map Registry.toJson)) ::
        (s.namespaceSelector.map fun x => ("namespaceSelector", x.toJson)).toList)) ∧
    (∀ a k b, Json.Spells a k "namespaceSelector" →
      Json.read? PullerSpec.ofNode? (String.ofList (a ++ k ++ b)) =
        Json.read? PullerSpec.ofNode?
          (String.ofList (a ++ Json.text "namespaceAffinity" ++ b))) ∧
    ∀ s : PullerSpec,
      Json.read? PullerSpec.ofNode? (s.toJsonAs "namespaceAffinity").render = some s := by
  refine ⟨fun s => ?_, fun s => ?_, fun c => ?_, fun r => ?_, Registry.toJson_eq, rfl,
    fun s => ?_, fun a k b spelled => PullerSpec.read?_of_spells spelled b, fun s => ?_⟩
  · exact Json.read?_render (s.numberless_toJsonAs "namespaceSelector")
      (PullerSpec.ofNode?_ofValue 122 s)
  · exact Json.read?_render s.numberless_toJson (PullerStatus.ofNode?_ofValue 124 s)
  · exact Json.read?_render c.numberless_toJson (Condition.ofNode?_ofValue 126 c)
  · exact Json.read?_render r.numberless_toJson (Registry.ofNode?_ofValue 126 r)
  · obtain ⟨registries, _ | selector⟩ := s
    · rfl
    · rfl
  · exact Json.read?_render (s.numberless_toJsonAs _) (PullerSpec.ofNode?_toJsonAs 122 s)

/-- A specification without credentials, with a selector under either name. -/
theorem written_read_back_sample :
    let a := "\x7b \"registries\": [], ".toList
    let k := " \"namespaceSelector\"\t".toList
    let b := ": \x7b\"matchLabels\": \x7b\x7d\x7d \x7d".toList
    Json.Spells a k "namespaceSelector" ∧
      Json.read? PullerSpec.ofNode? (String.ofList (a ++ k ++ b)) =
        some { namespaceSelector := some { matchLabels := some .empty } } ∧
      Json.read? PullerSpec.ofNode?
        (String.ofList (a ++ Json.text "namespaceAffinity" ++ b)) =
        some { namespaceSelector := some { matchLabels := some .empty } } := by
  intro a k b
  have spelled : Json.Spells a k "namespaceSelector" := ⟨_, _, rfl, rfl⟩
  have read : Json.read? PullerSpec.ofNode? (String.ofList (a ++ k ++ b)) =
      some { namespaceSelector := some { matchLabels := some .empty } } := by
    decide +kernel
  obtain ⟨-, -, -, -, -, -, -, renamed, -⟩ := written_read_back
  exact ⟨spelled, read, (renamed a k b spelled).symm.trans read⟩

end PullSecrets
