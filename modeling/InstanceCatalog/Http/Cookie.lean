import InstanceCatalog.Http.Cookie.Header
import InstanceCatalog.Http.Date
import InstanceCatalog.Http.Url.Basic

/-! # Cookies

A response sets cookies, and takes back those that it sets with a time in the past.  A client keeps
them in a jar by their domain, path and name. -/

namespace InstanceCatalog.Http

open Text Numeral

/-- What tells a cookie from others. -/
structure Cookie where
  domain : List Char
  path : List Char
  name : List Char
deriving DecidableEq, Repr

abbrev CookieJar := List Cookie

namespace Cookie

/-! ## Attributes -/

/-- How far a mistake in an attribute reaches. -/
inductive Loss where
  /-- The cookie is not set. -/
  | cookie
  /-- No cookie of the headers is set. -/
  | headers
deriving DecidableEq, Repr

/-- A text without a quotation mark at either end. -/
def unquote (s : List Char) : List Char :=
  let s := if s.head? = some '"' then s.drop 1 else s
  if s.getLast? = some '"' then s.dropLast else s

/-- The end of a cookie's time. -/
inductive End where
  /-- In seconds. -/
  | time (t : Int)
  /-- A date that is not read. -/
  | unread
deriving DecidableEq, Repr

/-- The attributes of a cookie that matter. -/
structure Attributes where
  domain : Option (List Char) := none
  path : Option (List Char) := none
  /-- The ports; a port without a value is that of the page. -/
  port : Option (Option (List Char)) := none
  version : Option (List Char) := none
  ends : Option End := none
  /-- Whether the end is given by an age, which comes before a date. -/
  aged : Bool := false

/-- From here on a number of seconds is no floating point number. -/
def timeLimit : Nat := Nat.pow 2 1024 - Nat.pow 2 970

namespace Attributes

/-- The date at which a cookie ends, if it is a date.  It is read in the plain form only. -/
def endDate (now : Int) : Form → List Char → Except Loss (Option End)
  | .worded, _ => .ok (some .unread)
  | .plain, value =>
    match Date.read now (unquote value) with
    | .noMonth => .error .headers
    | .noDate => .ok none
    | .date t => .ok (some (.time t))

/-- The time at which a cookie of some age ends. -/
def endOfAge (now : Int) : Option (List Char) → Except Loss Int
  | none => .error .headers
  | some value =>
    match lenientInteger value with
    | .error _ => .error .cookie
    | .ok age => .ok (now + age)

/-- A value that has to be there. -/
def needed : Option (List Char) → Except Loss (List Char)
  | none => .error .cookie
  | some value => .ok value

/-- The attributes with one more.  Of two with the same name the first counts, and of two ages the
second. -/
def add (now : Int) (form : Form) (a : Attributes) (t : Attribute) : Except Loss Attributes :=
  match String.ofList (t.name.map Char.toLower) with
  | "domain" =>
    if a.domain.isSome then .ok a
    else (needed t.value).map fun v ↦ { a with domain := some (v.map Char.toLower) }
  | "path" =>
    if a.path.isSome then .ok a else (needed t.value).map fun v ↦ { a with path := some v }
  | "version" =>
    if a.version.isSome then .ok a
    else (needed t.value).map fun v ↦
      { a with version := some (if form = .plain then unquote v else v) }
  | "port" => .ok (if a.port.isSome then a else { a with port := some t.value })
  | "expires" =>
    if a.ends.isSome ∨ a.aged then .ok a
    else match t.value with
      | none => .ok a
      | some v => (endDate now form v).map fun e ↦ { a with ends := e }
  | "max-age" => (endOfAge now t.value).map fun e ↦ { a with ends := some (.time e), aged := true }
  | _ => .ok a

/-- The attributes after the name of a cookie. -/
def ofList (now : Int) (form : Form) (ts : List Attribute) : Except Loss Attributes :=
  ts.foldlM (add now form) {}

/-- Checks the dates among attributes, which are read before anything else. -/
def checkDates (now : Int) (form : Form) (ts : List Attribute) : Except Loss Unit :=
  ts.forM fun t ↦ do
    if t.name.map Char.toLower = "expires".toList then
      let _ ← endDate now form (t.value.getD [])

end Attributes

/-! ## Pages -/

/-- The host of a page as cookies have it, without a port; one without a dot is local. -/
def hostOf (page : Url) : List Char :=
  let authority := page.authority
  let digits := (authority.reverse.takeWhile isAsciiDigit).length
  let before := authority.take (authority.length - digits)
  let host := if 0 < digits ∧ before.getLast? = some ':' then before.dropLast else authority
  let host := host.map Char.toLower
  if '.' ∈ host then host else host ++ ".local".toList

/-- The port of a page as cookies have it. -/
def portOf (page : Url) : List Char :=
  match (cutAt (· == ':') page.authority).2 with
  | none => "80".toList
  | some port => if (lenientInteger port).toBool then port else "80".toList

/-- The characters that stand as they are in the path of a cookie. -/
def isPathChar (c : Char) : Bool :=
  isAsciiLetter c || isAsciiDigit c || "_.-~%/;:@&=+$,!*'()".toList.contains c

/-- A path with the digits after percent signs in capital letters. -/
def capitalCodes : List Char → List Char
  | '%' :: a :: b :: s =>
    if isHexDigit a && isHexDigit b then '%' :: a.toUpper :: b.toUpper :: capitalCodes s
    else '%' :: capitalCodes (a :: b :: s)
  | c :: s => c :: capitalCodes s
  | [] => []

def escapePath (path : List Char) : List Char := capitalCodes (percentEncode isPathChar path)

/-- The path of the folder that a page is in, with a slash at its end unless it is for the first
version. -/
def folderOf (page : Url) (version : Option Int) : List Char :=
  let path := escapePath page.path
  let path := if path.head? = some '/' then path else '/' :: path
  let folder := (path.reverse.dropWhile (· != '/')).reverse
  let folder := if version = some 0 then folder.dropLast else folder
  if folder.isEmpty then ['/'] else folder

/-! ## Setting -/

/-- Whether a page may set a cookie for a domain.  In the first versions the host of the page has
to end with it. -/
def domainAllowed (page : Url) (version : Int) (domain : List Char) : Bool :=
  let host := hostOf page
  let bare := domain.drop 1
  ('.' ∈ bare || ".local".toList.isSuffixOf host)
    && (version < 0 || domain.isSuffixOf host || (bare ++ ".local".toList).isSuffixOf host
      || host.head? == some '.' || domain.isSuffixOf ('.' :: host))

/-- Whether a list of ports has that of a page before anything that is no number. -/
def portAllowed (page : Url) (ports : List Char) : Bool :=
  let listed := splitAt (· == ',') (ports.filter (!isBlank ·))
  (listed.takeWhile fun p ↦ (lenientInteger p).toBool).contains (portOf page)

/-- The version of a cookie, which is the first if none is given in the plain form. -/
def version? (form : Form) (a : Attributes) : Except Loss (Option Int) :=
  match a.version with
  | some v =>
    match lenientInteger v with
    | .ok n => .ok (some n)
    | .error _ => .error .cookie
  | none => .ok (if form = .plain then some 0 else none)

/-- The last version that is set. -/
def lastVersion : Form → Int
  | .plain => 1
  | .worded => 0

/-- What a cookie in a header does to a jar. -/
inductive Order where
  | put (c : Cookie)
  | takeBack (c : Cookie)
  /-- The time of the cookie has no end that can be kept, so no cookie of the headers is set. -/
  | stop
deriving DecidableEq, Repr

/-- What the attributes of a named cookie come to on a page. -/
def order? (now : Int) (page : Url) (form : Form) (name : List Char) (a : Attributes) :
    Option Order := do
  let version ← (version? form a).toOption
  let path := match a.path with
    | some (c :: p) => escapePath (c :: p)
    | _ => folderOf page version
  let domain := match a.domain with
    | some d => if d.head? = some '.' then d else '.' :: d
    | none => hostOf page
  let cookie : Cookie := ⟨domain, path, name⟩
  match a.ends with
  | some .unread => return .stop
  | some (.time t) =>
    if t ≤ now then return .takeBack cookie
    if Int.ofNat timeLimit ≤ t then return .stop
  | none => pure ()
  let version ← version
  guard (version ≤ lastVersion form)
  guard (a.domain.isNone || domainAllowed page version domain)
  guard (a.port.join.all (portAllowed page))
  return .put cookie

/-- What cookies come to on a page, each by its attributes. -/
def ordersOf (now : Int) (page : Url) (form : Form) :
    List (List Attribute) → Except Loss (List Order)
  | [] => .ok []
  | [] :: cookies => ordersOf now page form cookies
  | (first :: rest) :: cookies =>
    match Attributes.ofList now form rest with
    | .error .headers => .error .headers
    | .error .cookie => ordersOf now page form cookies
    | .ok a =>
      (ordersOf now page form cookies).map ((order? now page form first.name a).toList ++ ·)

/-- What headers of a form come to on a page; nothing, if a mistake in them reaches all. -/
def orders (now : Int) (page : Url) (form : Form) (headers : List (List Char)) : List Order :=
  let cookies := form.cookies headers
  match cookies.forM (Attributes.checkDates now form <| ·.drop 1) with
  | .error _ => []
  | .ok _ => ((ordersOf now page form cookies).toOption).getD []

end Cookie

namespace CookieJar

/-- A jar without what is taken back before a stop. -/
def takeBack (jar : CookieJar) (orders : List Cookie.Order) : CookieJar :=
  let done := orders.takeWhile (· != .stop)
  jar.filter fun c ↦ !done.contains (.takeBack c)

/-- The cookies to set, all or none. -/
def put (orders : List Cookie.Order) : CookieJar :=
  if orders.contains .stop then []
  else orders.filterMap fun
    | .put c => some c
    | _ => none

/-- A jar after a response from a page with headers of either form.  The worded ones count beside
plain ones only.  All is taken back before anything is set. -/
def receive (jar : CookieJar) (now : Int) (page : Url) (plain worded : List (List Char)) :
    CookieJar :=
  if plain.isEmpty then jar
  else
    let worded := Cookie.orders now page .worded worded
    let plain := Cookie.orders now page .plain plain
    (jar.takeBack worded).takeBack plain ++ put worded ++ put plain

end CookieJar

end InstanceCatalog.Http
