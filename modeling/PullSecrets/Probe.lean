import PullSecrets.Address.Basic
import PullSecrets.Metrics.Page

/-!
# Probes

A small server answers three paths: whether it is up, whether the controller is ready, and the
page of metrics. Only the path of an address counts, not its query. The paths can be read only; any
other method is refused, and any other path is not there.
-/

namespace PullSecrets.Probe

/-- What the server shows. -/
structure State where
  /-- Whether the controller is ready. -/
  ready : Bool := false
  counters : Counters := {}
  deriving DecidableEq, Inhabited

/-- The answer to a request. -/
structure Answer where
  status : Nat
  contentType : Option String := none
  /-- The methods that are allowed, if another one was used. -/
  allow : Option String := none
  body : String := ""
  deriving DecidableEq, Inhabited

/-- A short text. -/
def plain (status : Nat) (body : String) : Answer :=
  { status, body, contentType := some "text/plain; charset=utf-8" }

/-- The type of the page of metrics. -/
def pageType : String := "text/plain; version=0.0.4"

/-- What can be read under a path. -/
def content? (s : State) (path : String) : Option Answer :=
  if path = "/healthz" then some (plain 200 "ok")
  else if path = "/readyz" then
    some (if s.ready then plain 200 "ready" else plain 503 "not ready")
  else if path = "/metrics" then
    some { status := 200, contentType := some pageType, body := Metrics.page s.counters }
  else none

/-- The answer to a request about an address. -/
def answer (s : State) (method address : String) : Answer :=
  match (Address.ofString? address).bind fun a => content? s a.path with
  | none => { status := 404 }
  | some content =>
    if method = "GET" then content
    else if method = "HEAD" then { content with body := "" }
    else { status := 405, allow := some "GET,HEAD" }

end PullSecrets.Probe
