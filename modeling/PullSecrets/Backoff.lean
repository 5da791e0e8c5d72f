/-!
# Waiting longer after every failure

The waiting times after failures in a row follow the Fibonacci numbers: the shortest time once,
then again once, then twice, three times, five times, and so on, but never more than the longest
time. Times are counts of seconds of 64 bits; a sum or a product that does not fit stands still
at the largest count.
-/

namespace PullSecrets

/-- The largest count of seconds. -/
def maxSeconds : Nat := UInt64.size - 1

/-- A sequence of waiting times. -/
structure Backoff where
  /-- The shortest time. -/
  least : Nat
  /-- The longest time. -/
  most : Nat
  /-- The Fibonacci number before the current one. -/
  previous : Nat := 0
  /-- The current Fibonacci number. -/
  current : Nat := 1
  deriving DecidableEq, Inhabited

namespace Backoff

/-- A fresh sequence between two times. The shortest time is at least one second, and the longest
time is at least the shortest. -/
def start (least most : Nat) : Backoff :=
  { least := max least 1, most := max most (max least 1) }

/-- The current waiting time. -/
def delay (b : Backoff) : Nat := min (min (b.current * b.least) maxSeconds) b.most

/-- The sequence after the current time; at the longest time it stands still. -/
def advance (b : Backoff) : Backoff :=
  if b.delay < b.most then
    { b with previous := b.current, current := min (b.previous + b.current) maxSeconds }
  else b

/-- The first `count` waiting times. -/
def delays (b : Backoff) : Nat → List Nat
  | 0 => []
  | count + 1 => b.delay :: b.advance.delays count

end Backoff

/-! ## Failures of one object -/

/-- The failures of one object in a row. -/
structure Failures where
  /-- The waiting times to come. -/
  backoff : Backoff
  /-- How many failures there were; the count stands still at its largest value. -/
  count : Nat := 0
  deriving DecidableEq, Inhabited

namespace Failures

/-- The largest count of failures. -/
def maxCount : Nat := UInt32.size - 1

/-- No failures yet. -/
def fresh (least most : Nat) : Failures := { backoff := .start least most }

/-- Count one more failure. -/
def increment (f : Failures) : Failures := { f with count := min (f.count + 1) maxCount }

/-- One more failure: how long to wait now, and the failures including this one. -/
def next (f : Failures) : Nat × Failures :=
  (f.backoff.delay, { f.increment with backoff := f.backoff.advance })

end Failures

end PullSecrets
