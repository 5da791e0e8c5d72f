import PullSecrets.Selector.Term

/-!
# Failures of the object store

A call to the object store can fail for seven reasons. Two of them mean that another client was
faster, so that reading again and writing again may help.
-/

namespace PullSecrets

/-- The kinds of objects that the store holds. -/
inductive ResourceKind where
  | puller
  | namespace
  | secret
  | serviceAccount
  deriving DecidableEq, Inhabited

/-- The name of a kind. -/
def ResourceKind.text : ResourceKind → String
  | .puller => "Puller"
  | .namespace => "Namespace"
  | .secret => "Secret"
  | .serviceAccount => "ServiceAccount"

/-- Why a call to the store failed. -/
inductive StoreError where
  /-- There is no such object. -/
  | notFound (kind : ResourceKind) (name : String)
  /-- The object has been written since it was read. -/
  | conflict (kind : ResourceKind) (name : String)
  /-- An object of that name is there already. -/
  | alreadyExists (kind : ResourceKind) (name : String)
  /-- The server refused for another reason, given by its code. -/
  | api (code : Nat) (message : String)
  /-- There was no proper answer. -/
  | transport (message : String)
  /-- The selector has no meaning. -/
  | selector (error : SelectorError)
  /-- An object could not be written as text, or not be read from it. -/
  | serialization (message : String)
  deriving DecidableEq, Inhabited

namespace StoreError

/-- The text of a failure. -/
def message : StoreError → String
  | notFound kind name => kind.text ++ " " ++ name ++ " not found"
  | conflict kind name =>
    "conflict writing " ++ kind.text ++ " " ++ name ++ ": the object has been modified"
  | alreadyExists kind name => kind.text ++ " " ++ name ++ " already exists"
  | api code message => "API error " ++ toString code ++ ": " ++ message
  | transport message => "transport error: " ++ message
  | selector error => "invalid label selector: " ++ error.message
  | serialization message => "serialization error: " ++ message

/-- Whether another client was faster: a write of a stale copy, or a creation that came second. -/
def isConflict : StoreError → Bool
  | conflict .. | alreadyExists .. => true
  | _ => false

/-- Whether the object is missing. -/
def isNotFound : StoreError → Bool
  | notFound .. => true
  | _ => false

end StoreError

end PullSecrets
