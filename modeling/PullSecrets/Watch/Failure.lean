/-!
# Failures of a watch

A watch that fails says so in a text. The text is searched for the marks of the failures that are
known; the first kind whose mark is found counts.
-/

namespace PullSecrets

/-- The kinds of failures of a watch. -/
inductive WatchFailure where
  /-- The watch is not allowed, or not any more. -/
  | unauthorized
  /-- The version to start from is too old; everything is listed again. -/
  | expired
  /-- The server is busy. -/
  | tooManyRequests
  /-- The object has gone between the event and the look at it. -/
  | notFound
  /-- Anything else. -/
  | other
  deriving DecidableEq, Inhabited

namespace WatchFailure

/-- Whether a text contains another one. -/
def contains (text mark : List Char) : Bool :=
  mark.isPrefixOf text || match text with
    | [] => false
    | _ :: rest => contains rest mark

/-- Whether a text contains one of some marks. -/
def containsAny (text : List Char) (marks : List String) : Bool :=
  marks.any fun mark => contains text mark.toList

/-- The kind of failure that a text tells of. -/
def ofText (message : String) : WatchFailure :=
  let text := message.toList
  if containsAny text ["401", "Unauthorized"] then unauthorized
  else if containsAny text ["410", "too old resource version", "Expired", "Gone"] then expired
  else if containsAny text ["429", "storage is (re)initializing", "TooManyRequests"] then
    tooManyRequests
  else if containsAny text ["ObjectNotFound"]
      || (containsAny text ["404"] && containsAny text ["not found"]) then
    notFound
  else other

end WatchFailure

end PullSecrets
