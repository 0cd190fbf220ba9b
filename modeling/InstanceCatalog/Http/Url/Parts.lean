import InstanceCatalog.Http.Url.Fault
import InstanceCatalog.Text.Ascii
import InstanceCatalog.Text.Pieces

/-! # The parts of an address

An address has a scheme before a colon, an authority after two slashes, a path, a query after a
question mark and a fragment after a number sign; only the path is always there.  An authority has
the user before an at sign, the host, and a port after a colon. -/

namespace InstanceCatalog.Http

open Text

/-- The parts of an address as they are written. -/
structure UrlParts where
  scheme : List Char := []
  authority : List Char := []
  path : List Char := []
  query : Option (List Char) := none
  fragment : Option (List Char) := none
deriving DecidableEq, Repr

namespace UrlParts

def isSchemeChar (c : Char) : Bool :=
  isAsciiLetter c || isAsciiDigit c || c == '+' || c == '.' || c == '-'

/-- The scheme before a colon, if the text starts with one, and the text after it.  A colon alone
at the start is passed over. -/
def cutScheme (s : List Char) : List Char × List Char :=
  let name := s.takeWhile isSchemeChar
  match s.dropWhile isSchemeChar with
  | ':' :: rest => if name.head?.all isAsciiLetter then (name, rest) else ([], s)
  | _ => ([], s)

def endsAuthority (c : Char) : Bool := c == '/' || c == '?' || c == '#'

def parse (s : List Char) : UrlParts :=
  let (scheme, s) := cutScheme s
  let (authority, s) :=
    if ['/', '/'].isPrefixOf s then
      ((s.drop 2).takeWhile (!endsAuthority ·), (s.drop 2).dropWhile (!endsAuthority ·))
    else ([], s)
  let (s, fragment) := cutAt (· == '#') s
  let (path, query) := cutAt (· == '?') s
  { scheme, authority, path, query, fragment }

/-- The longest text of an address, or of a part of one. -/
def lengthLimit : Nat := 65536

def isControl (c : Char) : Bool := c.toNat < 0x20 || c.toNat == 0x7F

/-- The first control character of a text, with its place. -/
def control? (s : List Char) : Option (Char × Nat) :=
  (s.find? isControl).map fun c ↦ (c, (s.takeWhile (!isControl ·)).length)

/-- The parts of a text that can be an address. -/
def ofText (s : List Char) : Except UrlFault UrlParts := do
  if lengthLimit < s.length then throw .tooLong
  if let some (c, place) := control? s then throw (.control c place)
  return parse s

def checkPart (part : String) (s : List Char) : Except UrlFault Unit := do
  if lengthLimit < s.length then throw (.longPart part)
  if let some (c, place) := control? s then throw (.controlInPart part c place)

/-- Checks parts that do not come from one text. -/
def check (p : UrlParts) : Except UrlFault Unit := do
  checkPart "scheme" p.scheme
  checkPart "authority" p.authority
  checkPart "path" p.path
  checkPart "query" (p.query.getD [])
  checkPart "fragment" (p.fragment.getD [])

end UrlParts

/-- The parts of an authority as they are written. -/
structure Authority where
  user : List Char
  host : List Char
  port : List Char
deriving DecidableEq, Repr

namespace Authority

/-- The text before the last of some characters, and the text after it; without one, nothing and the
whole text. -/
def cutLast (mark : Char) (s : List Char) : List Char × List Char :=
  let after := (s.reverse.takeWhile (· != mark)).reverse
  (s.take (s.length - after.length - 1), after)

def parse (s : List Char) : Authority :=
  let (user, s) := cutLast '@' s
  let (host, s) :=
    if s.head? = some '[' ∧ ']' ∈ s then
      let (inner, after) := cutLast ']' s
      (inner ++ [']'], after)
    else (s.takeWhile (· != ':'), s.dropWhile (· != ':'))
  { user, host, port := if s.head? = some ':' then s.drop 1 else s }

end Authority

end InstanceCatalog.Http
