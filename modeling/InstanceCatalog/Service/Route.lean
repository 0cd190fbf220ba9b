import InstanceCatalog.Http.Redirect

/-! # Routes of the service

The path of a request is looked at after percent decoding, without its query.  The catalog and each
of its records have an address; a slash too many leads to the address without it. -/

namespace InstanceCatalog.Service

open Text Http

inductive Route where
  | list
  | record (name : String)
  /-- The address is the one without slashes at the end. -/
  | moved
  | unknown
deriving DecidableEq, Repr

/-- Why a target is not looked at. -/
inductive TargetFault where
  /-- There is no such address, or none to which it has moved. -/
  | trouble (t : Trouble)
  /-- Only some schemes are served. -/
  | unknownScheme (scheme : List Char)
deriving DecidableEq, Repr

def TargetFault.message : TargetFault → String
  | .trouble t => t.message
  | .unknownScheme scheme => quoted (String.ofList scheme)

namespace Route

def base : List Char := "/instance-types".toList

/-- The route of a path without slashes at its end; a line feed may end the path of the catalog. -/
def plain? (path : List Char) : Option Route :=
  if path = base ∨ path = base ++ ['\n'] then some .list
  else if (base ++ ['/']).isPrefixOf path then
    let name := path.drop (base.length + 1)
    if name.isEmpty ∨ '/' ∈ name then none else some (.record (String.ofList name))
  else none

def withoutSlashes (path : List Char) : List Char :=
  (path.reverse.dropWhile (· == '/')).reverse

def ofPath (path : List Char) : Route :=
  match plain? path with
  | some r => r
  | none =>
    if path.getLast? = some '/' ∧ (plain? (withoutSlashes path)).isSome then .moved else .unknown

/-- The address of the service, to which targets are relative. -/
def home : Url := { scheme := "http".toList, host := "localhost".toList }

/-- The path that an address stands for.  It is decoded on the way in and once more when it is
looked at, so that a percent sign has to be encoded twice. -/
def pathOf (u : Url) : List Char :=
  percentDecode (percentDecode (if u.path.isEmpty then ['/'] else u.path))

/-- The schemes that are served. -/
def schemes : List String := ["http", "https"]

/-- A character that stands as it is in the location of a target that has moved. -/
def isLocationChar (c : Char) : Bool :=
  isAsciiLetter c || isAsciiDigit c || "_.-~:/%#?=@[]!$&'()*+,;".toList.contains c

/-- Where a target that has moved is now. -/
def locationOf (u : Url) : List Char :=
  let moved : Url :=
    { scheme := u.scheme, host := u.host, port := u.port, path := withoutSlashes (pathOf u)
      query := u.query }
  percentEncode isLocationChar moved.toText

/-- The route of a request's target, which has to be an address. -/
def ofTarget (target : String) : Except TargetFault Route := do
  let u ← (Url.meant home target.toList).mapError (.trouble ∘ .mistake)
  u.checkHost.mapError (.trouble ∘ .mistake)
  if !schemes.contains (String.ofList u.scheme) then throw (.unknownScheme u.scheme)
  let route := ofPath (pathOf u)
  if route = .moved then
    let _ ← (u.redirected (locationOf u)).mapError .trouble
  return route

end Route

end InstanceCatalog.Service
