import PullSecrets.Reconcile.Failure

/-!
# Target namespaces

A puller targets the namespaces that its selector chooses. They are worked on in ascending order
of their names, each one once.

## Main facts

* `Target.ascending_names`: the names come in ascending order and without repetition.
-/

namespace PullSecrets.Target

/-- The names of some namespaces in ascending order, each one once. -/
def names (namespaces : List Namespace) : List String :=
  (Dict.ofList (namespaces.map fun ns => (ns.metadata.effectiveName, ()))).keys

/-- The names of the namespaces that a selector chooses, of all without a selector. -/
def resolve (selector : Option LabelSelector) : Program StoreError (List String) := do
  let namespaces ← Program.ask (.listNamespaces selector)
  pure (names namespaces)

/-- The names come in ascending order and without repetition. -/
theorem ascending_names (namespaces : List Namespace) :
    (names namespaces).Pairwise fun a b => compare a b = .lt :=
  List.pairwise_map.2 (Dict.ofList _).ascending

end PullSecrets.Target
