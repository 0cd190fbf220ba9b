import InstanceCatalog.Numeral.Digits
import InstanceCatalog.Text.Quoted

/-! # Texts that are no address -/

namespace InstanceCatalog.Http

open Text

inductive UrlFault where
  | tooLong
  /-- A part that is too long once it is escaped. -/
  | longPart (part : String)
  | control (c : Char) (place : Nat)
  | controlInPart (part : String) (c : Char) (place : Nat)
  | badIpv4 (host : List Char)
  | badIpv6 (host : List Char)
  | badName (host : List Char)
  | badPort (port : List Char)
  /-- A path beside a host that does not start with a slash. -/
  | noSlash
  /-- A path on its own that looks like a host. -/
  | twoSlashes
  /-- A path on its own that looks like the end of a scheme. -/
  | colon
deriving DecidableEq, Repr

namespace UrlFault

def shown (s : List Char) : String := quoted (String.ofList s)

def shownPlace (c : Char) (place : Nat) : String :=
  shown [c] ++ " at position " ++ Numeral.decimal place ++ "."

def message : UrlFault → String
  | .tooLong => "URL too long"
  | .longPart part => "URL component '" ++ part ++ "' too long"
  | .control c place => "Invalid non-printable ASCII character in URL, " ++ shownPlace c place
  | .controlInPart part c place =>
    "Invalid non-printable ASCII character in URL " ++ part ++ " component, " ++ shownPlace c place
  | .badIpv4 host => "Invalid IPv4 address: " ++ shown host
  | .badIpv6 host => "Invalid IPv6 address: " ++ shown host
  | .badName host => "Invalid IDNA hostname: " ++ shown host
  | .badPort port => "Invalid port: " ++ shown port
  | .noSlash => "For absolute URLs, path must be empty or begin with '/'"
  | .twoSlashes => "Relative URLs cannot have a path starting with '//'"
  | .colon => "Relative URLs cannot have a path starting with ':'"

end UrlFault

end InstanceCatalog.Http
