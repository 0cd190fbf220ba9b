import InstanceCatalog.Http.ContentCoding
import InstanceCatalog.Http.ContentType
import InstanceCatalog.Text.AsciiOnly

/-! # Responses

A response has a status, headers and a body.  The body is coded as the headers say, and a content
type names the character set of its text. -/

namespace InstanceCatalog.Http

open Text

/-- Why the text of a body cannot be read. -/
inductive TextFault where
  | contentType (f : ContentType.Fault)
  | charset (f : CharsetFault)
deriving DecidableEq, Repr

def TextFault.message : TextFault → String
  | .contentType f => f.message
  | .charset f => f.message

structure Response where
  status : Int
  headers : List (String × String) := []
  body : Bytes := []
deriving DecidableEq, Repr

namespace Response

/-- The values of the headers with a name in small letters, which may be sent in capital ones. -/
def header (r : Response) (name : String) : List (List Char) :=
  (r.headers.filter fun h ↦ h.1.toList.map Char.toLower == name.toList).map (·.2.toList)

/-- The values of the headers with a name, as one. -/
def header? (r : Response) (name : String) : Option (List Char) :=
  match r.header name with
  | [] => none
  | values => some ([',', ' '].intercalate values)

/-- The names and the values of headers are ASCII. -/
def checkHeaders (r : Response) : Except NotAscii Unit :=
  r.headers.forM fun h ↦ do
    NotAscii.check h.1.toList
    NotAscii.check h.2.toList

/-- The response with its body decoded. -/
def decoded (r : Response) : Except Deflate.Fault Response :=
  (ContentCoding.decodeAll (ContentCoding.listed (r.header "content-encoding")) r.body).map
    fun body ↦ { r with body }

def isSuccess (r : Response) : Bool := 200 ≤ r.status && r.status ≤ 299

/-- Where the response sends the client instead. -/
def redirect? (r : Response) : Option (List Char) :=
  if [301, 302, 303, 307, 308].contains r.status then r.header? "location" else none

/-- The character set of the body. -/
def charset (r : Response) : Except ContentType.Fault Charset :=
  match r.header? "content-type" with
  | some contentType => ContentType.charset contentType
  | none => .ok .utf8

/-- The body as text.  Nothing is read for no bytes. -/
def text (r : Response) : Except TextFault String := do
  if r.body.isEmpty then return ""
  let charset ← r.charset.mapError .contentType
  let text ← (charset.text r.body).mapError .charset
  return String.ofList text

end Response

end InstanceCatalog.Http
