import InstanceCatalog.Http.Host.Ip
import InstanceCatalog.Http.Host.Label
import InstanceCatalog.Http.Url.Fault
import InstanceCatalog.Text.Case
import InstanceCatalog.Text.Percent

/-! # Hosts

A host is a number in four parts, a number of hexadecimal parts between brackets, or a name.  A name
beyond ASCII is sent with its labels encoded. -/

namespace InstanceCatalog.Http.Host

open Text

/-- The dots that stand between labels. -/
def isDot (c : Char) : Bool := c == '.' || c == '。' || c == '．' || c == '｡'

/-- The longest name, with a dot at its end. -/
def nameLimit : Nat := 254

/-- Changes each label of a name, which may end in a dot. -/
def mapLabels (f : List Char → Except HostFault (List Char)) (name : List Char) :
    Except HostFault (List Char) := do
  if nameLimit < name.length then throw .longName
  let labels := splitAt isDot name
  let dotted := labels.getLast? == some []
  let done ← (if dotted then labels.dropLast else labels).mapM f
  return joinWith '.' (if dotted then done ++ [[]] else done)

/-- A name as it is sent. -/
def encodeName (name : List Char) : Except HostFault (List Char) := do
  let sent ← mapLabels encodeLabel name
  let limit := if sent.getLast? = some '.' then nameLimit else nameLimit - 1
  if limit < sent.length then throw .longName
  return sent

/-- A name as it is read. -/
def decodeName (name : List Char) : Except HostFault (List Char) := mapLabels decodeLabel name

/-- The ASCII characters that a name holds as they are. -/
def isNameChar (c : Char) : Bool :=
  isAsciiLetter c || isAsciiDigit c || "-._~!$&'()*+,;=\"`\x7b\x7d%|\\".toList.contains c

def isBracketed (host : List Char) : Bool :=
  1 < host.length && host.head? == some '[' && host.getLast? == some ']'

/-- A host as it is sent, without brackets. -/
def normal (host : List Char) : Except UrlFault (List Char) :=
  if looksNumeric host then if isIpv4 host then .ok host else .error (.badIpv4 host)
  else if isBracketed host then
    let inner := (host.drop 1).dropLast
    if isIpv6 inner then .ok inner else .error (.badIpv6 host)
  else if host.all isAscii then .ok (percentEncode isNameChar (lower host))
  else match encodeName (lower host) with
    | .ok name => .ok name
    | .error _ => .error (.badName host)

/-- A host as it is read; one that starts with an encoded label has its labels decoded. -/
def read (host : List Char) : Except HostFault (List Char) :=
  if encodedMark.isPrefixOf host then decodeName host else .ok host

end InstanceCatalog.Http.Host
