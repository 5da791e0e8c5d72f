import PullSecrets.Proofs.History
import PullSecrets.Reconcile.Target

/-!
# The target namespaces of a selector

The namespaces of a cluster are listed in ascending order of their names, and a selector only
leaves some of them out. So the names that are worked on are those of the chosen namespaces, in
the order of the cluster.

## Main facts

* `Cluster.mem_targets`, `Cluster.ascending_targets`: which namespaces are worked on, and in which
  order.
* `Target.resolve_ends`: resolving a selector finds them, or it fails because of the listing or
  the selector.
-/

namespace PullSecrets

open Program (ask Ends Leads)

/-! ## Chosen namespaces -/

/-- Whether a selector chooses a namespace; without a selector every namespace is chosen. -/
def Namespace.isChosen (selector : Option LabelSelector) (ns : Namespace) : Bool :=
  selector.all fun s => (s.selects ns.metadata.labels).toOption == some true

@[simp] theorem Namespace.isChosen_none (ns : Namespace) : ns.isChosen none = true := rfl

theorem Namespace.isChosen_some_iff {selector : LabelSelector} {ns : Namespace} :
    ns.isChosen (some selector) = true ↔ selector.selects ns.metadata.labels = .ok true := by
  rw [isChosen, Option.all_some]
  cases selector.selects ns.metadata.labels with
  | error e => simp [Except.toOption]
  | ok b => simp [Except.toOption]

/-- Whether a selector means something; no selector does. -/
def LabelSelector.Valid (selector : Option LabelSelector) : Prop :=
  ∀ l ∈ selector, l.validate = .ok ()

namespace Cluster

variable {s : Cluster} {selector : Option LabelSelector}

/-- The names of the namespaces that a selector chooses, in ascending order. -/
def targets (s : Cluster) (selector : Option LabelSelector) : List String :=
  (s.namespaces.entries.filter fun e => e.2.isChosen selector).map (·.1)

/-- The targets are the chosen namespaces. -/
theorem mem_targets {n : String} :
    n ∈ s.targets selector ↔
      ∃ ns, s.namespaces.get? n = some ns ∧ ns.isChosen selector = true := by
  simp only [targets, List.mem_map, List.mem_filter]
  constructor
  · rintro ⟨⟨name, ns⟩, ⟨hmem, chosen⟩, rfl⟩
    exact ⟨ns, Dict.get?_eq_some_iff.2 hmem, chosen⟩
  · rintro ⟨ns, hget, chosen⟩
    exact ⟨(n, ns), ⟨Dict.get?_eq_some_iff.1 hget, chosen⟩, rfl⟩

theorem ascending_targets (s : Cluster) (selector : Option LabelSelector) :
    (s.targets selector).Pairwise fun a b => compare a b = .lt :=
  List.pairwise_map.2 (s.namespaces.ascending.filter _)

theorem nodup_targets (s : Cluster) (selector : Option LabelSelector) :
    (s.targets selector).Nodup :=
  Dict.nodup_of_ascending (s.ascending_targets selector)

theorem contains_of_mem_targets {n : String} (h : n ∈ s.targets selector) :
    s.namespaces.contains n = true := by
  obtain ⟨ns, hget, -⟩ := mem_targets.1 h
  rw [Dict.contains, hget]
  rfl

/-- Choosing goes through the whole list, or it ends with the failure of the selector. -/
theorem choose_cases (l : LabelSelector) (namespaces : List Namespace) :
    (∃ e, choose l namespaces = .error e ∧ l.validate = .error e) ∨
      choose l namespaces = .ok (namespaces.filter (·.isChosen (some l))) := by
  induction namespaces with
  | nil => exact .inr rfl
  | cons ns rest ih =>
    cases selected : l.selects ns.metadata.labels with
    | error e =>
      refine .inl ⟨e, ?_, (l.selects_error_iff _ e).1 selected⟩
      rw [choose, selected]
      rfl
    | ok b =>
      rcases ih with ⟨e, he, invalid⟩ | hrest
      · refine .inl ⟨e, ?_, invalid⟩
        rw [choose, selected, he]
        rfl
      · right
        have chosen : ns.isChosen (some l) = b := by
          simp [Namespace.isChosen, selected, Except.toOption]
        rw [choose, selected, hrest, List.filter_cons, chosen]
        rfl

/-- Listing the namespaces that a selector chooses. -/
theorem listNamespaces_cases (s : Cluster) (selector : Option LabelSelector) :
    ((∃ e, s.listNamespaces selector = .error e) ∧
      (s.listsFail = true ∨ ¬ LabelSelector.Valid selector)) ∨
    s.listNamespaces selector = .ok (s.namespaces.values.filter (·.isChosen selector)) := by
  unfold listNamespaces list
  by_cases lists : s.listsFail = true
  · exact .inl ⟨⟨_, if_pos lists⟩, .inl lists⟩
  · rw [if_neg lists]
    cases selector with
    | none =>
      right
      simp
    | some l =>
      rcases choose_cases l s.namespaces.values with ⟨e, he, invalid⟩ | h
      · refine .inl ⟨⟨.selector e, by simp only [he]; rfl⟩, .inr ?_⟩
        intro valid
        rw [valid l rfl] at invalid
        cases invalid
      · right
        simp only [h]
        rfl

/-- Namespaces are listed where lists work. -/
theorem listsFail_of_listNamespaces {found : List Namespace}
    (h : s.listNamespaces selector = .ok found) : s.listsFail = false := by
  by_contra fails
  rw [Bool.not_eq_false] at fails
  unfold listNamespaces list at h
  rw [if_pos fails] at h
  cases h

end Cluster

/-! ## Resolving -/

namespace Target

variable {s : Cluster}

/-- The names of the chosen namespaces are the targets, in the same order. -/
theorem names_filter (filed : s.Filed) (selector : Option LabelSelector) :
    names (s.namespaces.values.filter (·.isChosen selector)) = s.targets selector := by
  have named : ((s.namespaces.values.filter (·.isChosen selector)).map fun ns =>
      (ns.metadata.effectiveName, ())) = (s.targets selector).map fun n => (n, ()) := by
    rw [Dict.values, Cluster.targets, List.filter_map, List.map_map, List.map_map]
    apply List.map_congr_left
    rintro ⟨name, ns⟩ hmem
    have stored : s.namespaces.get? name = some ns :=
      Dict.get?_eq_some_iff.2 (List.mem_filter.1 hmem).1
    simp [filed.namespaces name ns stored]
  -- The names come in ascending order already, so that sorting them changes nothing.
  have ascending : ((s.targets selector).map fun n => (n, ())).Pairwise
      fun a b => compare a.1 b.1 = .lt :=
    List.pairwise_map.2 (s.ascending_targets selector)
  rw [names, named, Dict.keys, Dict.entries_ofList ascending, List.map_map]
  exact List.map_id _

/-- Resolving a selector finds the names of the chosen namespaces, unless the listing fails or the
selector means nothing. -/
theorem resolve_cases (s : Cluster) (selector : Option LabelSelector) :
    (resolve selector).Ends (fun r t => t = s ∧
      (r = .ok (names (s.namespaces.values.filter (·.isChosen selector))) ∨
        (∃ e, r = .error e) ∧ (s.listsFail = true ∨ ¬ LabelSelector.Valid selector))) s := by
  unfold resolve
  have answered : Cluster.handler.call (.listNamespaces selector) s =
      (s.listNamespaces selector, s) := rfl
  refine Program.leads_bind.2 (Program.leads_ask.2 ⟨trivial, ?_⟩)
  rw [answered]
  rcases s.listNamespaces_cases selector with ⟨⟨e, he⟩, reason⟩ | h
  · rw [he]
    exact ⟨rfl, .inr ⟨⟨e, rfl⟩, reason⟩⟩
  · rw [h]
    exact ⟨rfl, .inl rfl⟩

/-- In a cluster whose objects are filed under their names these are the targets. -/
theorem resolve_ends (filed : s.Filed) (selector : Option LabelSelector) :
    (resolve selector).Ends (fun r t => t = s ∧
      (r = .ok (s.targets selector) ∨
        (∃ e, r = .error e) ∧ (s.listsFail = true ∨ ¬ LabelSelector.Valid selector))) s := by
  rw [← names_filter filed selector]
  exact resolve_cases s selector

end Target

end PullSecrets
