import PullSecrets.Program.Basic

/-!
# Running a program

A program runs against a handler, which answers the calls, keeps the clock and takes the notes,
and which changes a state of its own while it does so.

## Main facts

* `run_bind`, `run_attempt`, `run_mapError`: running goes along with the ways in which programs
  are put together.
-/

namespace PullSecrets

/-- What a program runs against. -/
structure Handler (σ : Type) where
  /-- Answer a call. -/
  call : (c : Call) → σ → c.Reply × σ
  /-- Read the clock. -/
  clock : σ → String × σ
  /-- Take a note. -/
  note : Note → σ → σ

namespace Program

variable {ε δ α β σ : Type}

/-- Run a program from a state: its result, and the state at its end. -/
def run (h : Handler σ) : Program ε α → σ → Except ε α × σ
  | done a, s => (.ok a, s)
  | fail e, s => (.error e, s)
  | call c next, s =>
    let (reply, s) := h.call c s
    (next reply).run h s
  | clock next, s =>
    let (time, s) := h.clock s
    (next time).run h s
  | note n next, s => (next ()).run h (h.note n s)

variable (h : Handler σ)

/-- Running two programs one after the other. -/
theorem run_bind (p : Program ε α) (f : α → Program ε β) (s : σ) :
    (p.bind f).run h s =
      match p.run h s with
      | (.ok a, s) => (f a).run h s
      | (.error e, s) => (.error e, s) := by
  induction p generalizing s with
  | done a => rfl
  | fail e => rfl
  | call c next ih => exact ih _ _
  | clock next ih => exact ih _ _
  | note n next ih => exact ih _ _

/-- A caught failure changes the result alone. -/
theorem run_attempt (p : Program ε α) (s : σ) :
    (p.attempt : Program δ (Except ε α)).run h s = (.ok (p.run h s).1, (p.run h s).2) := by
  induction p generalizing s with
  | done a => rfl
  | fail e => rfl
  | call c next ih => exact ih _ _
  | clock next ih => exact ih _ _
  | note n next ih => exact ih _ _

/-- A changed failure changes the result alone. -/
theorem run_mapError (f : ε → δ) (p : Program ε α) (s : σ) :
    (p.mapError f).run h s = ((p.run h s).1.mapError f, (p.run h s).2) := by
  induction p generalizing s with
  | done a => rfl
  | fail e => rfl
  | call c next ih => exact ih _ _
  | clock next ih => exact ih _ _
  | note n next ih => exact ih _ _

end Program

end PullSecrets
