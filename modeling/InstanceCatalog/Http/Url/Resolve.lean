import InstanceCatalog.Http.Host.Ip
import InstanceCatalog.Http.Url.Parts

/-! # References

A reference on a page takes from the address of the page what it leaves out.  Parts that are empty
are left out, and the last segment of a path may have parameters after a semicolon.  Brackets in an
authority come in a pair around a numeric host. -/

namespace InstanceCatalog.Http

open Text

/-- Why a text is no reference: the brackets in its authority are wrong. -/
inductive ReferenceFault where
  | loneBracket
  | badFutureHost
  | notNumeric (host : List Char)
  /-- A number in four parts stands between brackets. -/
  | fourParts
deriving DecidableEq, Repr

def ReferenceFault.message : ReferenceFault → String
  | .loneBracket => "Invalid IPv6 URL"
  | .badFutureHost => "IPvFuture address is invalid"
  | .notNumeric host => UrlFault.shown host ++ " does not appear to be an IPv4 or IPv6 address"
  | .fourParts => "An IPv4 address cannot be in brackets"

structure Reference where
  scheme : List Char
  authority : List Char
  path : List Char
  params : List Char
  query : List Char
  fragment : List Char
deriving DecidableEq, Repr

namespace Reference

/-- The schemes in which references can be relative. -/
def hierarchical : List String :=
  ["", "ftp", "http", "gopher", "nntp", "imap", "wais", "file", "https", "shttp", "mms",
    "prospero", "rtsp", "rtspu", "sftp", "svn", "svn+ssh", "ws", "wss"]

/-- Those of them whose paths have parameters. -/
def parametric : List String :=
  ["", "ftp", "prospero", "http", "imap", "https", "shttp", "rtsp", "rtspu", "mms", "sftp"]

/-- The path before the parameters of its last segment, and the parameters. -/
def cutParams (path : List Char) : List Char × List Char :=
  let segment := (path.reverse.takeWhile (· != '/')).reverse
  let (name, params) := cutAt (· == ';') segment
  (path.take (path.length - segment.length) ++ name, params.getD [])

/-- A host of a later version has that version before a point, and something after it. -/
def isFutureHost (host : List Char) : Bool :=
  let (version, rest) := cutAt (· == '.') (host.drop 1)
  !version.isEmpty && version.all isHexDigit && rest.any (!·.isEmpty)

/-- Checks what stands between brackets. -/
def checkBracketed (host : List Char) : Except ReferenceFault Unit :=
  if host.head? = some 'v' then
    if isFutureHost host then .ok () else .error .badFutureHost
  else if Host.isIpv4 host then .error .fourParts
  else if Host.isIpv6 host then .ok ()
  else .error (.notNumeric host)

/-- Checks the brackets of an authority. -/
def checkBrackets (authority : List Char) : Except ReferenceFault Unit :=
  match authority.contains '[', authority.contains ']' with
  | false, false => .ok ()
  | true, true =>
    let after := (cutAt (· == '[') authority).2.getD []
    checkBracketed (cutAt (· == ']') after).1
  | _, _ => .error .loneBracket

/-- The parts of a text, with a scheme for a text that has none. -/
def parse (scheme s : List Char) : Except ReferenceFault Reference := do
  let p := UrlParts.parse s
  checkBrackets p.authority
  let scheme := if p.scheme.isEmpty then scheme else p.scheme.map Char.toLower
  let (path, params) :=
    if parametric.contains (String.ofList scheme) then cutParams p.path else (p.path, [])
  return ⟨scheme, p.authority, path, params, p.query.getD [], p.fragment.getD []⟩

/-- The authority and the path after it, which starts with a slash there.  With a scheme there is an
authority even if it is empty, unless the path starts with two slashes. -/
def place (r : Reference) (path : List Char) : List Char :=
  if !r.authority.isEmpty || !r.scheme.isEmpty && !(['/', '/'].isPrefixOf path) then
    '/' :: '/' :: r.authority
      ++ if path.isEmpty ∨ path.head? = some '/' then path else '/' :: path
  else path

def toText (r : Reference) : List Char :=
  let after (mark : Char) (s : List Char) : List Char := if s.isEmpty then [] else mark :: s
  (if r.scheme.isEmpty then [] else r.scheme ++ [':']) ++ r.place (r.path ++ after ';' r.params)
    ++ after '?' r.query ++ after '#' r.fragment

/-- The segments left when a single dot stays and a double one goes up; `done` is in reverse. -/
def goUp (done : List (List Char)) : List (List Char) → List (List Char)
  | [] => done.reverse
  | ['.'] :: segs => goUp done segs
  | ['.', '.'] :: segs => goUp (done.drop 1) segs
  | seg :: segs => goUp (seg :: done) segs

/-- Segments without the empty ones but for the first and the last. -/
def closeGaps (segs : List (List Char)) : List (List Char) :=
  match segs with
  | first :: seg :: rest =>
    first :: (seg :: rest).dropLast.filter (!·.isEmpty) ++ [(seg :: rest).getLast (by simp)]
  | segs => segs

/-- The segments of a path beside the last segment of another. -/
def beside (base path : List Char) : List (List Char) :=
  let segs := splitAt (· == '/') base
  closeGaps ((if segs.getLast? = some [] then segs else segs.dropLast) ++ splitAt (· == '/') path)

/-- The path that a reference's path means on a page. -/
def resolvePath (base path : List Char) : List Char :=
  let segs := if path.head? = some '/' then splitAt (· == '/') path else beside base path
  let ends := segs.getLast? == some ['.'] || segs.getLast? == some ['.', '.']
  let joined := joinWith '/' (goUp [] segs ++ if ends then [[]] else [])
  if joined.isEmpty then ['/'] else joined

/-- What a reference means on a page, both in the same scheme. -/
def resolve (base ref : Reference) : Reference :=
  if !ref.authority.isEmpty then ref
  else if ref.path.isEmpty && ref.params.isEmpty then
    { base with
      query := if ref.query.isEmpty then base.query else ref.query
      fragment := ref.fragment }
  else { ref with authority := base.authority, path := resolvePath base.path ref.path }

/-- The text of the address that a reference means on a page. -/
def resolveText (base ref : List Char) : Except ReferenceFault (List Char) := do
  if base.isEmpty then return ref
  if ref.isEmpty then return base
  let b ← parse [] base
  let r ← parse b.scheme ref
  return if r.scheme = b.scheme ∧ hierarchical.contains (String.ofList r.scheme) then
      (resolve b r).toText
    else ref

end Reference

end InstanceCatalog.Http
