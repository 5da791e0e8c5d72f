import PullSecrets.Address.Basic
import PullSecrets.Store.Call

/-!
# Requests to the server of a cluster

Every call to the store is one request to the server. Reading and listing get an object or a
collection, creating posts to the collection, replacing puts the object, and a status is written
as a patch that carries the version of the copy and the status only.

Some calls are refused before anything is sent: a write of an object that names no namespace, a
listing by a selector without a meaning, a call about an object without a name, and a call about a
name that does not give an address. A name is put into the address as it is.

## Main facts

* `Live.request_listNamespaces_selector_iff`: a selector is blamed exactly when it has no meaning.
-/

namespace PullSecrets

/-- The methods that are used. -/
inductive Method where
  | get
  | post
  | put
  | patch
  deriving DecidableEq, Inhabited

/-- The name of a method. -/
def Method.text : Method → String
  | .get => "GET"
  | .post => "POST"
  | .put => "PUT"
  | .patch => "PATCH"

/-- A request to the server. -/
structure Request where
  method : Method
  address : Address
  body : Option Json := none
  deriving DecidableEq, Inhabited

/-- The request of a target with parameters, which has to give an address. -/
def Request.to (method : Method) (target : String) (parameters : List (String × String))
    (body : Option Json) : Except StoreError Request :=
  match Address.withParameters? target parameters with
  | some address => .ok { method, address, body }
  | none => .error (.transport "the name does not give an address")

/-- The request to read what is at a path. -/
def Request.read (path : String) : Except StoreError Request := Request.to .get path [] none

/-- The request about what is at a path, with a question mark behind the path whether there are
parameters or not. -/
def Request.about (method : Method) (path : String) (parameters : List (String × String))
    (body : Option Json) : Except StoreError Request :=
  Request.to method (path ++ "?") parameters body

namespace Live

/-! ## Paths -/

/-- The collection of pullers. -/
def pullersPath : String := "/apis/" ++ Names.apiVersion ++ "/" ++ Names.plural

/-- The collection of namespaces. -/
def namespacesPath : String := "/api/v1/namespaces"

/-- The collection of secrets of a namespace. -/
def secretsPath (inNamespace : String) : String :=
  namespacesPath ++ "/" ++ inNamespace ++ "/secrets"

/-- The collection of service accounts of a namespace, or of the whole cluster. -/
def serviceAccountsPath : Option String → String
  | some inNamespace => namespacesPath ++ "/" ++ inNamespace ++ "/serviceaccounts"
  | none => "/api/v1/serviceaccounts"

/-- The path of an object in a collection; the name may not be empty. -/
def objectPath (collection name : String) : Except StoreError String :=
  if name.isEmpty then .error (.transport "a name is required")
  else .ok (collection ++ "/" ++ name)

/-! ## Requests -/

/-- The patch of a status. The version in it lets the server refuse a stale copy. -/
def statusPatch (p : Puller) : Json :=
  .object [
    ("metadata", .object [("resourceVersion", Json.ofOptional p.metadata.resourceVersion)]),
    ("status", (p.status.map PullerStatus.toJson).getD .null)]

/-- The query of a listing; a selector that selects everything asks for nothing. -/
def listQuery (selector : Option LabelSelector) : Except StoreError (List (String × String)) :=
  match selector with
  | none => .ok []
  | some selector =>
    match selector.query with
    | .error e => .error (.selector e)
    | .ok query => .ok (if query.isEmpty then [] else [("labelSelector", query)])

/-- The request of a call, or why none is sent. -/
def request : Call → Except StoreError Request
  | .getPuller name => do Request.read (← objectPath pullersPath name)
  | .replacePuller p => do Request.about .put (← objectPath pullersPath p.name) [] (some p.toJson)
  | .replacePullerStatus p => do
    Request.about .patch ((← objectPath pullersPath p.name) ++ "/status")
      [("fieldManager", Names.fieldManager)] (some (statusPatch p))
  | .listNamespaces selector => do Request.about .get namespacesPath (← listQuery selector) none
  | .getSecret inNamespace name => do Request.read (← objectPath (secretsPath inNamespace) name)
  | .createSecret x => do
    let key ← x.metadata.key .secret
    Request.about .post (secretsPath key.inNamespace) [] (some x.toJson)
  | .replaceSecret x => do
    let key ← x.metadata.key .secret
    Request.about .put (← objectPath (secretsPath key.inNamespace) key.name) [] (some x.toJson)
  | .listServiceAccounts inNamespace => Request.about .get (serviceAccountsPath inNamespace) [] none
  | .getServiceAccount inNamespace name => do
    Request.read (← objectPath (serviceAccountsPath (some inNamespace)) name)
  | .replaceServiceAccount a => do
    let key ← a.metadata.key .serviceAccount
    let path ← objectPath (serviceAccountsPath (some key.inNamespace)) key.name
    Request.about .put path [] (some a.toJson)

/-- No selector is blamed for a target that gives no address. -/
theorem to_ne_selector (method : Method) (target : String) (parameters : List (String × String))
    (body : Option Json) (f : SelectorError) :
    Request.to method target parameters body ≠ .error (.selector f) := by
  intro h
  rw [Request.to] at h
  split at h <;> cases h

/-- A selector is blamed for a listing exactly when it has no meaning. -/
theorem request_listNamespaces_selector_iff (s : LabelSelector) (f : SelectorError) :
    request (.listNamespaces (some s)) = .error (.selector f) ↔ s.validate = .error f := by
  rw [← s.query_error_iff f]
  cases h : s.query with
  | error g =>
    simp only [request, listQuery, h]
    constructor
    · rintro ⟨⟩
      rfl
    · rintro ⟨⟩
      rfl
  | ok query =>
    simp only [request, listQuery, h]
    constructor
    · intro hf
      exact (to_ne_selector _ _ _ _ f hf).elim
    · rintro ⟨⟩

end Live

end PullSecrets
