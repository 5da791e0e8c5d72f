import PullSecrets.Program.Note
import PullSecrets.Store.Call

/-!
# Programs over the object store

A program is a tree of what it asks for. It ends with a value or a failure, or it makes a call
and goes on with the answer, or it reads the clock, or it leaves a note. What a call does is
decided by whoever runs the program, so the same program runs against any store, and it can be
stopped between any two calls.

## Main facts

* The instance of `LawfulMonad`: programs may be put one after the other in any grouping.
-/

namespace PullSecrets

/-- A program that ends with a value in `α` or a failure in `ε`. -/
inductive Program (ε α : Type) where
  /-- The end with a value. -/
  | done (a : α)
  /-- The end with a failure. -/
  | fail (e : ε)
  /-- A call, and what to do with its answer. -/
  | call (c : Call) (next : c.Reply → Program ε α)
  /-- A reading of the clock. -/
  | clock (next : String → Program ε α)
  /-- A note. -/
  | note (n : Note) (next : Unit → Program ε α)

namespace Program

variable {ε δ α β γ : Type}

/-- Go on with the value of a program; a failure ends both. -/
def bind : Program ε α → (α → Program ε β) → Program ε β
  | done a, f => f a
  | fail e, _ => fail e
  | call c next, f => call c fun r => (next r).bind f
  | clock next, f => clock fun t => (next t).bind f
  | note n next, f => note n fun u => (next u).bind f

instance : Monad (Program ε) where
  pure := done
  bind := bind

/-- Take a failure as a value. -/
def attempt : Program ε α → Program δ (Except ε α)
  | done a => done (.ok a)
  | fail e => done (.error e)
  | call c next => call c fun r => (next r).attempt
  | clock next => clock fun t => (next t).attempt
  | note n next => note n fun u => (next u).attempt

/-- End with a result. -/
def ofExcept : Except ε α → Program ε α
  | .ok a => done a
  | .error e => fail e

/-- Change the failure. -/
def mapError (f : ε → δ) : Program ε α → Program δ α
  | done a => done a
  | fail e => fail (f e)
  | call c next => call c fun r => (next r).mapError f
  | clock next => clock fun t => (next t).mapError f
  | note n next => note n fun u => (next u).mapError f

/-- Make a call; its failure is the failure of the program. -/
def ask (c : Call) : Program StoreError c.Value := call c ofExcept

/-- Read the clock. -/
def now : Program ε String := clock done

/-- Leave a note. -/
def leave (n : Note) : Program ε Unit := note n done

/-! ## Laws -/

theorem bind_eq (p : Program ε α) (f : α → Program ε β) : p >>= f = p.bind f := rfl

@[simp] theorem done_bind (a : α) (f : α → Program ε β) : (done a : Program ε α).bind f = f a := rfl

@[simp] theorem bind_done (p : Program ε α) : p.bind done = p := by
  induction p with
  | done a => rfl
  | fail e => rfl
  | call c next ih => exact congrArg (call c) (funext ih)
  | clock next ih => exact congrArg clock (funext ih)
  | note n next ih => exact congrArg (note n) (funext ih)

/-- Going on twice is going on once with both. -/
theorem bind_assoc (p : Program ε α) (f : α → Program ε β) (g : β → Program ε γ) :
    (p.bind f).bind g = p.bind fun a => (f a).bind g := by
  induction p with
  | done a => rfl
  | fail e => rfl
  | call c next ih => exact congrArg (call c) (funext ih)
  | clock next ih => exact congrArg clock (funext ih)
  | note n next ih => exact congrArg (note n) (funext ih)

instance : LawfulMonad (Program ε) :=
  LawfulMonad.mk' (Program ε) (fun p => bind_done p) (fun a f => done_bind a f)
    (fun p f g => bind_assoc p f g)

end Program

end PullSecrets
