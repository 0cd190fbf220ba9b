import InstanceCatalog.Deflate.Wrapped
import InstanceCatalog.Text.Blank
import InstanceCatalog.Text.Pieces

/-! # Content codings

A body is sent in some codings, one applied after the other.  Codings that are not known leave it as
it is. -/

namespace InstanceCatalog.Http

open Text

inductive ContentCoding where
  | identity
  | gzip
  | deflate
deriving DecidableEq, Repr

namespace ContentCoding

/-- A coding by its name in letters of either case. -/
def ofName? (name : List Char) : Option ContentCoding :=
  match String.ofList ((trim isBlank name).map Char.toLower) with
  | "identity" => some .identity
  | "gzip" => some .gzip
  | "deflate" => some .deflate
  | _ => none

/-- The known codings among those that the values of headers list between commas. -/
def listed (values : List (List Char)) : List ContentCoding :=
  (values.flatMap (splitAt (· == ','))).filterMap ofName?

/-- The bytes that were coded.  Streams are sent with and without their wrapper. -/
def decode : ContentCoding → Bytes → Except Deflate.Fault Bytes
  | .identity, bs => .ok bs
  | .gzip, bs => Deflate.File.decode bs
  | .deflate, bs =>
    match Deflate.Stream.decode bs with
    | .ok done => .ok done
    | .error _ => Deflate.decodeBare bs

/-- The bytes to which codings were applied in their order. -/
def decodeAll (codings : List ContentCoding) (bs : Bytes) : Except Deflate.Fault Bytes :=
  codings.reverse.foldlM (fun bs c ↦ c.decode bs) bs

end ContentCoding

end InstanceCatalog.Http
