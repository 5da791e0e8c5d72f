import PullSecrets.Cli.Arguments
import PullSecrets.Live.Answer

/-!
# Outcomes of command lines

A program that was started from a command line prints lines, sends requests, and ends with a code.
If it failed, it says what it was doing and why that failed.
-/

namespace PullSecrets

/-- How a program failed: what it was doing, and why that failed. -/
structure Outcome.Failure where
  context : String
  cause : String
  deriving DecidableEq, Inhabited

/-- What a program did. -/
structure Outcome where
  /-- The code with which it ended. -/
  exit : Nat := 0
  /-- What it printed, line by line. -/
  lines : List String := []
  /-- The requests that it sent. -/
  requests : List Request := []
  failure : Option Outcome.Failure := none
  deriving DecidableEq, Inhabited

namespace Outcome

/-- A failure after some lines have been printed. -/
def failed (lines : List String) (context cause : String) : Outcome :=
  { exit := 1, lines, failure := some ⟨context, cause⟩ }

/-- A command line that is not followed. -/
def ofStop : Arguments.Stop → Outcome
  | .misused => { exit := 2 }
  | .shown page => { lines := page }

end Outcome

/-- A connection to a server: the answer to a request, if there is one. Without a readable
configuration there is no connection at all. -/
abbrev Connection := Option (Request → Option Response)

end PullSecrets
