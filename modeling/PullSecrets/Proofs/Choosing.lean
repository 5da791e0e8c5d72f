import Mathlib.Tactic.MkIffOfInductiveProp
import PullSecrets.Proofs.Documents
import PullSecrets.Proofs.Targets

/-!
# What a selector asks for

A selector asks for labels and for expressions, and a namespace meets it when it meets everything
that is asked for. The labels of a namespace without labels are all absent. The targets are the
namespaces that meet the selector. So only what is asked for counts, not in which order and not how
often, and whoever asks for more gets no other namespaces.

## Main facts

* `Requirement.holds_iff_meets`: the condition that an expression means holds when it is met.
* `Namespace.isChosen_iff`: the namespaces that are chosen are those that meet the selector.
* `Target.resolved_of_valid`: the names that a selector is resolved to.
-/

namespace PullSecrets

/-! ## Meeting what is asked for -/

/-- Whether labels meet an expression. -/
@[mk_iff]
structure Requirement.Meets (r : Requirement) (given : Dict String String) : Prop where
  oneOf : r.operator = "In" → ∃ v, given.get? r.key = some v ∧ v ∈ r.values.getD []
  noneOf : r.operator = "NotIn" → ∀ v, given.get? r.key = some v → v ∉ r.values.getD []
  present : r.operator = "Exists" → ∃ v, given.get? r.key = some v
  absent : r.operator = "DoesNotExist" → given.get? r.key = none

/-- Whether labels meet a selector: those that have to be there are, and every expression is met. -/
structure LabelSelector.Meets (l : LabelSelector) (given : Dict String String) : Prop where
  labels : ∀ e ∈ l.labels, given.get? e.1 = some e.2
  requirements : ∀ r ∈ l.requirements, r.Meets given

/-- Whether a namespace meets a selector. Without a selector nothing is asked for. -/
def Namespace.Meets (ns : Namespace) (selector : Option LabelSelector) : Prop :=
  ∀ l ∈ selector, l.Meets (ns.metadata.labels.getD .empty)

/-! ## Asking for the same, and for more -/

/-- Whether an expression asks for the same as another one: the values may come in another order,
and repeatedly. -/
structure Requirement.Alike (r r' : Requirement) : Prop where
  key : r.key = r'.key
  operator : r.operator = r'.operator
  values : ∀ v, v ∈ r.values.getD [] ↔ v ∈ r'.values.getD []

/-- Whether a selector asks for whatever another one asks for. -/
structure LabelSelector.Includes (l l' : LabelSelector) : Prop where
  labels : ∀ e ∈ l'.labels, e ∈ l.labels
  requirements : ∀ r' ∈ l'.requirements, ∃ r ∈ l.requirements, r.Alike r'

/-- Whether a choice asks for whatever another one asks for. -/
def Target.Includes (selector selector' : Option LabelSelector) : Prop :=
  ∀ l' ∈ selector', ∃ l ∈ selector, l.Includes l'

/-! ## Expressions -/

namespace Requirement

variable {r r' : Requirement} {given : Dict String String} {t : Term}

/-- What an expression means by its operator, if that goes with its values. -/
theorem term?_eq_ok_iff : r.term? = .ok t ↔
    r.operator = "In" ∧ r.values.getD [] ≠ [] ∧ t = .oneOf r.key (r.values.getD []) ∨
    r.operator = "NotIn" ∧ r.values.getD [] ≠ [] ∧ t = .noneOf r.key (r.values.getD []) ∨
    r.operator = "Exists" ∧ r.values.getD [] = [] ∧ t = .present r.key ∨
    r.operator = "DoesNotExist" ∧ r.values.getD [] = [] ∧ t = .absent r.key := by
  rw [term?]
  grind

/-- The condition that an expression means holds when the expression is met. -/
theorem holds_iff_meets (meant : r.term? = .ok t) : t.holds given = true ↔ r.Meets given := by
  rw [meets_iff]
  rcases term?_eq_ok_iff.1 meant with
    ⟨is, -, rfl⟩ | ⟨is, -, rfl⟩ | ⟨is, -, rfl⟩ | ⟨is, -, rfl⟩
  · cases found : given.get? r.key <;> simp [Term.holds, is, found]
  · cases found : given.get? r.key <;> simp [Term.holds, is, found]
  · cases found : given.get? r.key <;> simp [Term.holds, Dict.contains, is, found]
  · cases found : given.get? r.key <;> simp [Term.holds, Dict.contains, is, found]

namespace Alike

theorem meets (alike : r.Alike r') (h : r.Meets given) : r'.Meets given := by
  rw [meets_iff] at h ⊢
  simp only [← alike.key, ← alike.operator, ← alike.values]
  exact h

/-- Expressions that ask for the same mean something both or neither. -/
theorem exists_term (alike : r.Alike r') (meant : ∃ t, r.term? = .ok t) :
    ∃ t, r'.term? = .ok t := by
  have empty : r.values.getD [] = [] ↔ r'.values.getD [] = [] := by
    simp only [List.eq_nil_iff_forall_not_mem, alike.values]
  obtain ⟨t, meant⟩ := meant
  simp only [term?_eq_ok_iff, alike.operator, ne_eq, empty] at meant ⊢
  rcases meant with ⟨is, goes, -⟩ | ⟨is, goes, -⟩ | ⟨is, goes, -⟩ | ⟨is, goes, -⟩
  · exact ⟨_, .inl ⟨is, goes, rfl⟩⟩
  · exact ⟨_, .inr (.inl ⟨is, goes, rfl⟩)⟩
  · exact ⟨_, .inr (.inr (.inl ⟨is, goes, rfl⟩))⟩
  · exact ⟨_, .inr (.inr (.inr ⟨is, goes, rfl⟩))⟩

end Alike

/-- Expressions mean something one after the other when each of them does, and then their conditions
hold when they are all met. -/
theorem mapM_term?_cases (rs : List Requirement) :
    (∃ ts, rs.mapM term? = .ok ts ∧ (∀ r ∈ rs, ∃ t, r.term? = .ok t) ∧
      ∀ given, ts.all (Term.holds given) = true ↔ ∀ r ∈ rs, r.Meets given) ∨
    (∃ e, rs.mapM term? = .error e) ∧ ∃ r ∈ rs, ∀ t, r.term? ≠ .ok t := by
  induction rs with
  | nil => exact .inl ⟨[], rfl, by simp, by simp⟩
  | cons r rs ih =>
    rw [List.mapM_cons]
    cases first : r.term? with
    | error e => exact .inr ⟨⟨e, rfl⟩, r, List.mem_cons_self, fun t => by rw [first]; nofun⟩
    | ok t =>
      rcases ih with ⟨ts, others, proper, holds⟩ | ⟨⟨e, others⟩, r', hr', improper⟩
      · refine .inl ⟨t :: ts, by rw [others]; rfl, ?_, fun given => ?_⟩
        · exact List.forall_mem_cons.2 ⟨⟨t, first⟩, proper⟩
        · rw [List.all_cons, Bool.and_eq_true, List.forall_mem_cons, holds_iff_meets first,
            holds given]
      · exact .inr ⟨⟨e, by rw [others]; rfl⟩, r', List.mem_cons_of_mem r hr', improper⟩

end Requirement

/-! ## Selectors -/

namespace LabelSelector

variable {l l' : LabelSelector}

/-- A selector means something when each of its expressions does. -/
theorem validate_ok_iff : l.validate = .ok () ↔ ∀ r ∈ l.requirements, ∃ t, r.term? = .ok t := by
  rw [validate, terms?]
  rcases Requirement.mapM_term?_cases l.requirements with
    ⟨ts, meant, proper, -⟩ | ⟨⟨e, meant⟩, r, hr, improper⟩
  · rw [meant]
    exact iff_of_true rfl proper
  · rw [meant]
    refine iff_of_false (by simp [Except.map]) fun proper => ?_
    obtain ⟨t, ht⟩ := proper r hr
    exact improper t ht

/-- A selector that means something selects the labels that meet it. -/
theorem selects_true_iff (labels : Option (Dict String String)) :
    l.selects labels = .ok true ↔ l.validate = .ok () ∧ l.Meets (labels.getD .empty) := by
  rw [selects, validate, terms?]
  rcases Requirement.mapM_term?_cases l.requirements with
    ⟨ts, meant, -, holds⟩ | ⟨⟨e, meant⟩, -⟩
  · have placed : (l.labels.map fun e => Term.equals e.1 e.2).all
        (Term.holds (labels.getD .empty)) = true ↔
        ∀ e ∈ l.labels, (labels.getD .empty).get? e.1 = some e.2 := by
      simp [Term.holds]
    rw [meant]
    simp only [Except.map, Except.ok.injEq, List.all_append, Bool.and_eq_true, placed, holds,
      true_and]
    exact ⟨fun h => ⟨h.1, h.2⟩, fun h => ⟨h.labels, h.requirements⟩⟩
  · rw [meant]
    exact iff_of_false (by simp [Except.map]) (by simp [Except.map])

namespace Includes

theorem meets {given : Dict String String} (more : l.Includes l') (h : l.Meets given) :
    l'.Meets given := by
  constructor
  · intro e he
    exact h.labels e (more.labels e he)
  · intro r' hr'
    obtain ⟨r, hr, alike⟩ := more.requirements r' hr'
    exact alike.meets (h.requirements r hr)

/-- What is included in a selector that means something means something. -/
theorem validate (more : l.Includes l') (valid : l.validate = .ok ()) : l'.validate = .ok () := by
  rw [validate_ok_iff] at valid ⊢
  intro r' hr'
  obtain ⟨r, hr, alike⟩ := more.requirements r' hr'
  exact alike.exists_term (valid r hr)

end Includes

end LabelSelector

/-! ## Namespaces -/

/-- The namespaces that are chosen are those that meet a selector that means something. -/
theorem Namespace.isChosen_iff {ns : Namespace} {selector : Option LabelSelector} :
    ns.isChosen selector = true ↔ LabelSelector.Valid selector ∧ ns.Meets selector := by
  cases selector with
  | none => simp [LabelSelector.Valid, Meets]
  | some l =>
    rw [isChosen_some_iff, LabelSelector.selects_true_iff]
    simp [LabelSelector.Valid, Meets]

namespace Target

variable {selector selector' : Option LabelSelector}

/-- What is included in a choice that means something means something. -/
theorem Includes.valid (more : Includes selector selector')
    (valid : LabelSelector.Valid selector) : LabelSelector.Valid selector' := by
  intro l' hl'
  obtain ⟨l, hl, more⟩ := more l' hl'
  exact more.validate (valid l hl)

/-- Whoever asks for more chooses no other namespaces. -/
theorem Includes.isChosen (more : Includes selector selector') {ns : Namespace}
    (chosen : ns.isChosen selector = true) : ns.isChosen selector' = true := by
  obtain ⟨valid, meets⟩ := Namespace.isChosen_iff.1 chosen
  rw [Namespace.isChosen_iff]
  refine ⟨more.valid valid, ?_⟩
  intro l' hl'
  obtain ⟨l, hl, more⟩ := more l' hl'
  exact more.meets (meets l hl)

theorem mem_names {namespaces : List Namespace} {n : String} :
    n ∈ names namespaces ↔ ∃ ns ∈ namespaces, ns.metadata.effectiveName = n := by
  rw [names, ← Dict.contains_iff_mem_keys, Dict.contains_ofList]
  simp

/-- Where lists work, a selector that means something is resolved to the names of the namespaces
that meet it, in the order of their bytes and each one once. A selector that asks for the same, in
another order or more than once, is resolved to the same names, and one that asks for more to no
other names. -/
theorem resolved_of_valid {σ : Type} (w : Surroundings σ) {x : σ}
    (lists : (w.cluster x).listsFail = false) (valid : LabelSelector.Valid selector) :
    let run := fun selector => (resolve selector).run w.toHandler x
    ∃ names, (run selector).1 = .ok names ∧ w.cluster (run selector).2 = w.cluster x ∧
      (names.map Text.bytes).Pairwise (· < ·) ∧
      (∀ n, n ∈ names ↔ ∃ ns ∈ (w.cluster x).namespaces.values,
        ns.metadata.effectiveName = n ∧ ns.Meets selector) ∧
      (∀ other, Includes other selector → Includes selector other →
        (run other).1 = .ok names) ∧
      ∀ other found, Includes other selector → (run other).1 = .ok found → found ⊆ names := by
  intro run
  have resolved := fun selector => (resolve_cases (w.cluster x) selector).run
  have found : ∀ {selector}, LabelSelector.Valid selector → (run selector).1 =
      .ok (names ((w.cluster x).namespaces.values.filter (·.isChosen selector))) := by
    intro selector valid
    rcases (resolved selector).2 with fine | ⟨-, fails | invalid⟩
    · exact fine
    · rw [lists] at fails
      cases fails
    · exact absurd valid invalid
  refine ⟨_, found valid, (resolved selector).1, ?_, fun n => ?_, ?_, ?_⟩
  · exact List.pairwise_map.2 ((ascending_names _).imp Text.bytes_lt)
  · simp only [mem_names, List.mem_filter, Namespace.isChosen_iff, valid, true_and]
    exact exists_congr fun ns => by rw [and_assoc, and_comm (a := ns.Meets selector)]
  · intro other more less
    have valid' : LabelSelector.Valid other := less.valid valid
    have same : ∀ ns : Namespace, ns.isChosen other = ns.isChosen selector := fun ns =>
      Bool.eq_iff_iff.2 ⟨more.isChosen, less.isChosen⟩
    rw [found valid']
    simp only [same]
  · intro other found more ended n hn
    rcases (resolved other).2 with fine | ⟨⟨e, failed⟩, -⟩
    · obtain rfl := Except.ok.inj (ended.symm.trans fine)
      obtain ⟨ns, hns, named⟩ := mem_names.1 hn
      obtain ⟨there, chosen⟩ := List.mem_filter.1 hns
      exact mem_names.2 ⟨ns, List.mem_filter.2 ⟨there, more.isChosen chosen⟩, named⟩
    · cases ended.symm.trans failed

/-- Three namespaces, one of them without labels, and a selector that is written in another order
and with repetitions as well. -/
theorem resolved_of_valid_sample :
    let s := Cluster.empty.changes [.addNamespace "web" (.ofList [("tier", "web")]),
      .addNamespace "api" (.ofList [("old", "yes"), ("tier", "api")]), .addNamespace "bare" .empty]
    let tier := fun values => Requirement.mk "tier" "In" (some values)
    let old := fun values => Requirement.mk "old" "NotIn" (some values)
    let selector : LabelSelector := ⟨some [tier ["web", "api"], old ["yes", "no"]], none⟩
    let other : LabelSelector :=
      ⟨some [old ["no", "yes", "no"], tier ["api", "web"], old ["yes", "no"]], some .empty⟩
    let run := fun selector => ((resolve selector).run (Cluster.alone "").toHandler s).1
    s.listsFail = false ∧ LabelSelector.Valid (some selector) ∧
      run (some selector) = .ok ["web"] ∧ run (some other) = .ok ["web"] := by
  intro s tier old selector other run
  have lists : s.listsFail = false := by decide +kernel
  have valid : LabelSelector.Valid (some selector) := by
    rintro _ ⟨⟩
    rfl
  have tiers : ∀ v, v ∈ ["web", "api"] ↔ v ∈ ["api", "web"] := by grind
  have olds : ∀ v, v ∈ ["yes", "no"] ↔ v ∈ ["no", "yes", "no"] := by grind
  have less : Includes (some selector) (some other) := by
    rintro _ ⟨⟩
    refine ⟨selector, rfl, nofun, List.forall_mem_cons.2 ⟨?_, List.forall_mem_cons.2 ⟨?_, ?_⟩⟩⟩
    · exact ⟨old ["yes", "no"], .tail _ (.head _), rfl, rfl, olds⟩
    · exact ⟨tier ["web", "api"], .head _, rfl, rfl, tiers⟩
    · exact List.forall_mem_singleton.2
        ⟨old ["yes", "no"], .tail _ (.head _), rfl, rfl, fun _ => Iff.rfl⟩
  have more : Includes (some other) (some selector) := by
    rintro _ ⟨⟩
    refine ⟨other, rfl, nofun, List.forall_mem_cons.2 ⟨?_, List.forall_mem_singleton.2 ?_⟩⟩
    · exact ⟨tier ["api", "web"], .tail _ (.head _), rfl, rfl, fun v => (tiers v).symm⟩
    · exact ⟨old ["no", "yes", "no"], .head _, rfl, rfl, fun v => (olds v).symm⟩
  obtain ⟨names, found, -, -, -, same, -⟩ :=
    resolved_of_valid (Cluster.alone "") (x := s) lists valid
  have computed : (run (some selector)).toOption = some ["web"] := by decide +kernel
  obtain rfl : names = ["web"] := Except.ok.inj (found.symm.trans (eq_ok_of_toOption computed))
  exact ⟨lists, valid, found, same (some other) more less⟩

end Target

end PullSecrets
