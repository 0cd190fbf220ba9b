import InstanceCatalog.Numeral.Integer
import InstanceCatalog.Text.Blank
import InstanceCatalog.Text.Charset
import InstanceCatalog.Text.Percent
import InstanceCatalog.Text.Pieces

/-! # Content types

A content type has parameters after semicolons.  The value of a parameter may stand in quotes, it
may be spread over numbered pieces, and an extended piece is percent-encoded.  One of the parameters
names the character set of a text. -/

namespace InstanceCatalog.Http.ContentType

open Text

/-- Why a content type cannot be read. -/
inductive Fault where
  /-- The number of a piece has more digits than are converted. -/
  | tooManyDigits (count : Nat)
  /-- Of the pieces of a value some have numbers; `numberedFirst` says whether the first has. -/
  | mixedPieces (numberedFirst : Bool)
  /-- The name of a character set holds a character that ends names. -/
  | nameEnds
  /-- The text of a value cannot be read in the character set with some name. -/
  | value (charset : List Char) (f : CharsetFault)
deriving DecidableEq, Repr

def Fault.message : Fault → String
  | .tooManyDigits n => Numeral.tooManyDigitsMessage n
  | .mixedPieces true => "'<' not supported between instances of 'NoneType' and 'int'"
  | .mixedPieces false => "'<' not supported between instances of 'int' and 'NoneType'"
  | .nameEnds => "embedded null character"
  | .value charset f =>
    "decoding with '" ++ String.ofList charset ++ "' codec failed (RuntimeError: " ++ f.message
      ++ ")"

/-- A parameter; one without an equals sign has an empty value. -/
structure Param where
  name : List Char
  value : List Char

/-- The fields between semicolons outside quotes.  `quoted` says whether a quote is open, and
`escaped` whether a backslash stands before. -/
def fieldsFrom (quoted escaped : Bool) : List Char → List (List Char)
  | [] => [[]]
  | c :: s =>
    if c = ';' ∧ !quoted then [] :: fieldsFrom false false s
    else (fieldsFrom (if c = '"' ∧ !escaped then !quoted else quoted) (c == '\\') s).modifyHead
      (c :: ·)

/-- A name before an equals sign is in small letters. -/
def param (field : List Char) : Param :=
  match cutAt (· == '=') field with
  | (name, some value) => ⟨(trim isBlank name).map Char.toLower, trim isBlank value⟩
  | (name, none) => ⟨trim isBlank name, []⟩

def params (contentType : List Char) : List Param := (fieldsFrom false false contentType).map param

/-- Text in quotes without the backslashes that escape. -/
def unescape : List Char → List Char
  | '\\' :: '\\' :: s => '\\' :: unescape s
  | c :: s => c :: unescape s
  | [] => []

/-- Text in which a quote needs no backslash. -/
def bareQuotes : List Char → List Char
  | '\\' :: '"' :: s => '"' :: bareQuotes s
  | c :: s => c :: bareQuotes s
  | [] => []

/-- A value without the quotes or the angles around it. -/
def unquote (s : List Char) : List Char :=
  let inner := (s.drop 1).dropLast
  if s.length < 2 then s
  else if s.head? = some '"' ∧ s.getLast? = some '"' then bareQuotes (unescape inner)
  else if s.head? = some '<' ∧ s.getLast? = some '>' then inner
  else s

/-! ## Pieces -/

/-- A piece of a value: its number if it has one, its text, and whether that is encoded. -/
structure Piece where
  number : Option Nat
  text : List Char
  extended : Bool

def isWordChar (c : Char) : Bool := isAsciiLetter c || isAsciiDigit c || c == '_'

/-- The name and the piece that a parameter stands for, if there is a star in its name. -/
def piece? (p : Param) : Except Fault (Option (List Char × Piece)) :=
  let word := p.name.takeWhile isWordChar
  match p.name.dropWhile isWordChar with
  | '*' :: rest =>
    let digits := rest.takeWhile isAsciiDigit
    let rest := rest.dropWhile isAsciiDigit
    if word.isEmpty then .ok none
    else if digits.isEmpty then
      .ok (if rest.isEmpty then some (word, ⟨none, unquote p.value, true⟩) else none)
    else if rest = [] ∨ rest = ['*'] then
      if Numeral.digitLimit < digits.length then .error (.tooManyDigits digits.length)
      else .ok (some (word, ⟨some (Numeral.ofDigits digits), unquote p.value, !rest.isEmpty⟩))
    else .ok none
  | _ => .ok none

namespace Piece

/-- Pieces go by their numbers, then by their texts. -/
def precedes (p q : Piece) : Bool :=
  let m := p.number.getD 0
  let n := q.number.getD 0
  m < n || (m == n && (String.ofList p.text < String.ofList q.text
    || (p.text == q.text && (!p.extended || q.extended))))

/-- The text of a piece, in which an encoded byte is the character of its number. -/
def decoded (p : Piece) : List Char :=
  if p.extended then (percentBytes p.text).map fun b ↦ Char.ofNat b.toNat else p.text

end Piece

/-! ## Values -/

/-- A value is a text, or the bytes of a text in a character set, as the characters of their
numbers. -/
inductive Value where
  | plain (text : List Char)
  | coded (charset : List Char) (bytes : List Char)

/-- The value that an extended text writes.  A character set and a language stand before it, each
with a tick behind it, or there is neither. -/
def extendedValue (s : List Char) : Value :=
  match cutAt (· == '\'') s with
  | (charset, some t) =>
    match cutAt (· == '\'') t with
    | (_, some bytes) => .coded charset bytes
    | _ => .coded [] s
  | _ => .coded [] s

/-- The value that pieces make up; all of them have numbers, or none. -/
def joined (pieces : List Piece) : Except Fault Value :=
  let numbered := pieces.map (·.number.isSome)
  let first := numbered.head?.getD false
  if numbered.contains (!first) then .error (.mixedPieces first)
  else
    let text := (pieces.mergeSort Piece.precedes).flatMap Piece.decoded
    .ok (if pieces.any (·.extended) then extendedValue text else .plain text)

/-- The values of a content type by their names.  The first field comes first, and values in pieces
come last. -/
def values (contentType : List Char) : Except Fault (List (List Char × Value)) := do
  let whole (p : Param) : List Char × Value := (p.name, .plain (unquote p.value))
  let first := (params contentType).take 1
  let rest ← ((params contentType).drop 1).mapM fun p ↦ return (p, ← piece? p)
  let pieces := rest.filterMap (·.2)
  let inPieces ← (pieces.map (·.1)).eraseDups.mapM fun name ↦
    return (name, ← joined ((pieces.filter (·.1 == name)).map (·.2)))
  return first.map whole ++ (rest.filter (·.2.isNone)).map (whole ·.1) ++ inPieces

/-- The text that a value stands for.  Bytes that are no text in their set are left as they are. -/
def Value.text : Value → Except Fault (List Char)
  | .plain s => .ok s
  | .coded charset bytes =>
    if '\x00' ∈ charset then .error .nameEnds
    else
      match if charset.isEmpty then some (.page Charset.ascii) else Charset.ofName? charset with
      | none => .ok bytes
      | some known =>
        ((known.wholeText? (bytes.map fun c ↦ c.toNat.toUInt8)).mapError (.value charset)).map
          (·.getD bytes)

/-- The character set that a content type names, or UTF-8. -/
def charset (contentType : List Char) : Except Fault Charset := do
  let found := (← values contentType).find? fun v ↦ v.1.map Char.toLower == "charset".toList
  match found with
  | none => return .utf8
  | some (_, value) =>
    let name ← value.text
    if !name.all isAscii then return .utf8
    if '\x00' ∈ name then throw .nameEnds
    return (Charset.ofName? name).getD .utf8

end InstanceCatalog.Http.ContentType
