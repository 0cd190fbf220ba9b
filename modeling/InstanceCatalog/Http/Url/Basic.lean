import InstanceCatalog.Http.Host
import InstanceCatalog.Http.Url.Parts
import InstanceCatalog.Numeral.Integer

/-! # Addresses

An address is kept as it is sent: each part is escaped, the host in small letters, without a port
that the scheme implies, and with the dots of the path worked off. -/

namespace InstanceCatalog.Http

open Text

structure Url where
  /-- Empty if the address has none. -/
  scheme : List Char := []
  user : List Char := []
  /-- Empty if the address has none. -/
  host : List Char := []
  port : Option Int := none
  path : List Char := []
  query : Option (List Char) := none
  fragment : Option (List Char) := none
deriving DecidableEq, Repr

namespace Url

/-! ## Writing -/

/-- The host, between brackets if it has colons, and the port. -/
def server (u : Url) : List Char :=
  (if ':' ∈ u.host then '[' :: u.host ++ [']'] else u.host)
    ++ match u.port with
      | some n => ':' :: Numeral.signed n
      | none => []

def authority (u : Url) : List Char :=
  (if u.user.isEmpty then [] else u.user ++ ['@']) ++ u.server

def toText (u : Url) : List Char :=
  (if u.scheme.isEmpty then [] else u.scheme ++ [':'])
    ++ (if u.authority.isEmpty then [] else '/' :: '/' :: u.authority)
    ++ u.path
    ++ (match u.query with
      | some q => '?' :: q
      | none => [])
    ++ match u.fragment with
      | some f => '#' :: f
      | none => []

def parts (u : Url) : UrlParts := ⟨u.scheme, u.authority, u.path, u.query, u.fragment⟩

/-- Whether the address says where to connect to. -/
def isAbsolute (u : Url) : Bool := !u.scheme.isEmpty && !u.host.isEmpty

/-! ## Escaping -/

/-- The printable characters of ASCII but for some. -/
def isPlainBut (others : String) (c : Char) : Bool :=
  0x20 < c.toNat && c.toNat < 0x7F && !others.toList.contains c

def isUserChar : Char → Bool := isPlainBut "\"#<>?`\x7b\x7d/;=@[\\]^|"

def isPathChar : Char → Bool := isPlainBut "\"#<>?`\x7b\x7d"

def isQueryChar : Char → Bool := isPlainBut "\"#<>"

def isFragmentChar : Char → Bool := isPlainBut "\"<>`"

/-! ## Paths -/

/-- The segments left when a single dot stays and a double one goes up; `done` is in reverse.  The
slash at the start of a path stays. -/
def dropDots (done : List (List Char)) : List (List Char) → List (List Char)
  | [] => done.reverse
  | ['.'] :: segs => dropDots done segs
  | ['.', '.'] :: segs => dropDots (if done = [[]] then done else done.drop 1) segs
  | seg :: segs => dropDots (seg :: done) segs

/-- A path with its dots worked off. -/
def plainPath (path : List Char) : List Char :=
  joinWith '/' (dropDots [] (splitAt (· == '/') path))

/-! ## Reading -/

/-- The ports that schemes imply. -/
def impliedPorts : List (String × Int) :=
  [("ftp", 21), ("http", 80), ("https", 443), ("ws", 80), ("wss", 443)]

/-- The port that a text names, unless the scheme implies it. -/
def portOf (scheme port : List Char) : Except UrlFault (Option Int) :=
  if port.isEmpty then .ok none
  else match Numeral.lenientInteger port with
    | .ok n => .ok (if impliedPorts.lookup (String.ofList scheme) = some n then none else some n)
    | .error _ => .error (.badPort port)

/-- The address of some parts and the parts of its authority. -/
def ofParts (p : UrlParts) (a : Authority) : Except UrlFault Url := do
  let user := percentEncode isUserChar a.user
  let host ← Host.normal a.host
  let port ← portOf p.scheme a.port
  let rooted := !user.isEmpty || !host.isEmpty || port.isSome
  if rooted then
    if p.path.head?.any (· != '/') then throw .noSlash
  else if p.scheme.isEmpty then
    if ['/', '/'].isPrefixOf p.path then throw .twoSlashes
    if p.path.head? = some ':' then throw .colon
  let path := if rooted || !p.scheme.isEmpty then plainPath p.path else p.path
  return {
    scheme := p.scheme.map Char.toLower
    user, host, port
    path := percentEncode isPathChar path
    query := p.query.map (percentEncode isQueryChar)
    fragment := p.fragment.map (percentEncode isFragmentChar)
  }

/-- The address that a text writes. -/
def ofText (s : List Char) : Except UrlFault Url := do
  let p ← UrlParts.ofText s
  ofParts p (.parse p.authority)

/-- The address of parts that are put together. -/
def rebuild (p : UrlParts) : Except UrlFault Url := do
  p.check
  ofParts p (.parse p.authority)

/-- The address on another host. -/
def onHost (u : Url) (host : List Char) : Except UrlFault Url := do
  let host := if ':' ∈ host then '[' :: host ++ [']'] else host
  u.parts.check
  UrlParts.checkPart "host" host
  ofParts u.parts { Authority.parse u.authority with host }

/-- The text that a fragment stands for. -/
def fragmentText (u : Url) : List Char := percentDecode (u.fragment.getD [])

/-- An address that is not absolute is looked for below a base. -/
def below (base u : Url) : Except UrlFault Url :=
  if u.isAbsolute then .ok u
  else
    let root := if base.path.getLast? = some '/' then base.path else base.path ++ ['/']
    rebuild { base.parts with path := root ++ u.path.dropWhile (· == '/'), query := u.query }

end Url

end InstanceCatalog.Http
