import PullSecrets.Reconcile.Binding

/-!
# The finalizer of a puller

A finalizer keeps a puller from going away before its bindings are gone. It is added before the
first binding is made, and released after the last one has been taken back.

## Main facts

* `Finalizer.hasFinalizer_guarded`, `Finalizer.not_hasFinalizer_released`: adding and releasing do
  what they say.
* `Finalizer.finalizerList_released`: other finalizers keep their order.
-/

namespace PullSecrets.Finalizer

open Program (ask)

/-- The puller with the finalizer after the others. -/
def guarded (p : Puller) : Puller :=
  p.withFinalizers (p.metadata.finalizerList ++ [Names.finalizer])

/-- The puller without the finalizer. -/
def released (p : Puller) : Puller :=
  p.withFinalizers (p.metadata.finalizerList.filter (· != Names.finalizer))

/-- Add the finalizer to a puller, unless the copy or the stored puller has it: the puller that
has it. -/
def ensure (policy : RetryPolicy) (copy : Puller) : Program StoreError Puller :=
  if copy.hasFinalizer then pure copy
  else
    Program.retry policy fun _ => do
      match ← ask (.getPuller copy.name) with
      | none => Program.fail (.notFound .puller copy.name)
      | some latest =>
        if latest.hasFinalizer then pure latest
        else ask (.replacePuller (guarded latest))

/-- Release the finalizer of a puller, if the puller is there and has it. -/
def release (policy : RetryPolicy) (name : String) : Program StoreError Unit :=
  Program.retry policy fun _ => do
    match ← ask (.getPuller name) with
    | none => pure ()
    | some latest =>
      if latest.hasFinalizer then
        let _ ← (ask (.replacePuller (released latest))).unlessMissing
      else pure ()

/-- A puller to which the finalizer was added has it. -/
theorem hasFinalizer_guarded (p : Puller) : (guarded p).hasFinalizer = true := by
  simp [guarded, Puller.withFinalizers, Metadata.finalizerList]

/-- The finalizers that are left keep their order. -/
@[simp] theorem finalizerList_released (p : Puller) :
    (released p).metadata.finalizerList =
      p.metadata.finalizerList.filter (· != Names.finalizer) := rfl

/-- A puller whose finalizer was released has it no more. -/
theorem not_hasFinalizer_released (p : Puller) : (released p).hasFinalizer = false := by
  rw [Bool.eq_false_iff, ne_eq, Puller.hasFinalizer_iff]
  simp

end PullSecrets.Finalizer
