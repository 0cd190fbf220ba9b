import InstanceCatalog.Text.Charset.Console
import InstanceCatalog.Text.Charset.Desktop
import InstanceCatalog.Text.Charset.EastAsian
import InstanceCatalog.Text.Charset.Escaped
import InstanceCatalog.Text.Charset.Iso
import InstanceCatalog.Text.Charset.Mainframe
import InstanceCatalog.Text.Charset.Regional
import InstanceCatalog.Text.Charset.Utf7
import InstanceCatalog.Text.Pieces
import InstanceCatalog.Text.Punycode

/-! # Character sets

A set has several names, which are written in letters of either case and with signs of any kind
between the words.  A text is read from bytes in one of two ways: exactly, or with a replacement
character for what has no character. -/

namespace InstanceCatalog.Text

/-- Why bytes in a set are not text, even with replacement characters. -/
inductive CharsetFault where
  /-- Nothing tells the order of the bytes of a unit. -/
  | noMark (w : UnitWidth)
  /-- The set codes bytes, not text. -/
  | ofBytes
  /-- The set codes text as other text. -/
  | ofText
  /-- The set knows no replacement characters. -/
  | exactOnly
  /-- The set codes nothing. -/
  | ofNothing
  /-- More bytes wait for their rest than there is room for. -/
  | unfinished
  /-- The set has no rule for some bytes. -/
  | stuck
  /-- A byte that is not ASCII stands where only ASCII can. -/
  | notAscii (byte : UInt8) (position : Nat)
deriving DecidableEq, Repr

def CharsetFault.message : CharsetFault → String
  | .noMark .two => "UTF-16 stream does not start with BOM"
  | .noMark .four => "UTF-32 stream does not start with BOM"
  | .ofBytes => ""
  | .ofText => "descriptor 'translate' for 'str' objects doesn't apply to a 'bytes' object"
  | .exactOnly => "Unsupported error handling replace"
  | .ofNothing => "undefined encoding"
  | .unfinished => "pending buffer overflow"
  | .stuck => "internal codec error"
  | .notAscii b n =>
    "'ascii' codec can't decode byte 0x" ++ String.ofList (Quoted.hex 2 b.toNat) ++ " in position "
      ++ Numeral.decimal n ++ ": ordinal not in range(128)"

inductive Charset where
  | utf8
  /-- UTF-8 after a mark, which is no part of the text. -/
  | utf8Marked
  /-- Units whose bytes come in an order of their own, or in the one that a mark tells. -/
  | units (w : UnitWidth) (order : Option ByteOrder)
  | page (p : CodePage)
  | utf7
  /-- Bytes with escapes. -/
  | escaped
  /-- Bytes with escapes for code points only. -/
  | rawEscaped
  | punycode
  | eastAsian (k : Charset.EastAsian)
  /-- A set of which bytes are not read as text. -/
  | textless (f : CharsetFault)
deriving DecidableEq, Repr

namespace Charset

/-- The code page on which each byte stands for the character of its number. -/
def latin1 : CodePage where
  names := ["latin_1", "8859", "cp819", "csisolatin1", "ibm819", "iso8859", "iso8859_1",
    "iso_8859_1", "iso_8859_1_1987", "iso_ir_100", "l1", "latin", "latin1"]
  listed := ""

def ascii : CodePage where
  names := ["ascii", "646", "ansi_x3.4_1968", "ansi_x3_4_1968", "ansi_x3.4_1986", "cp367",
    "csascii", "ibm367", "iso646_us", "iso_646.irv_1991", "iso_ir_6", "us", "us_ascii"]
  listed := "".pushn '\ufffd' 0x80

def pages : List CodePage :=
  latin1 :: { latin1 with names := ["charmap"] } :: ascii :: CodePage.isoPages
    ++ CodePage.windowsPages ++ CodePage.consolePages ++ CodePage.desktopPages
    ++ CodePage.mainframePages ++ CodePage.regionalPages

/-- The sets by their names, in small letters with underscores between the words.  The first name of
a set is its own. -/
def named : List (List String × Charset) :=
  [(["utf_8", "u8", "utf", "utf8", "utf8_ucs2", "utf8_ucs4", "cp65001"], .utf8),
    (["utf_8_sig"], .utf8Marked),
    (["utf_16", "u16", "utf16"], .units .two none),
    (["utf_16_le", "unicodelittleunmarked", "utf_16le"], .units .two (some .little)),
    (["utf_16_be", "unicodebigunmarked", "utf_16be"], .units .two (some .big)),
    (["utf_32", "u32", "utf32"], .units .four none),
    (["utf_32_le", "utf_32le"], .units .four (some .little)),
    (["utf_32_be", "utf_32be"], .units .four (some .big)),
    (["utf_7", "u7", "unicode_1_1_utf_7", "utf7"], .utf7),
    (["unicode_escape"], .escaped),
    (["raw_unicode_escape"], .rawEscaped),
    (["punycode"], .punycode),
    (["base64_codec", "base64", "base_64"], .textless .ofBytes),
    (["bz2_codec", "bz2"], .textless .ofBytes),
    (["hex_codec", "hex"], .textless .ofBytes),
    (["quopri_codec", "quopri", "quoted_printable", "quotedprintable"], .textless .ofBytes),
    (["uu_codec", "uu"], .textless .ofBytes),
    (["zlib_codec", "zip", "zlib"], .textless .ofBytes),
    (["rot_13", "rot13"], .textless .ofText),
    (["idna"], .textless .exactOnly),
    (["undefined"], .textless .ofNothing)]
    ++ (EastAsian.named.map fun n ↦ (n.1, .eastAsian n.2)) ++ pages.map fun p ↦ (p.names, .page p)

/-- A character of a word in a name. -/
def isWordChar (c : Char) : Bool := isAsciiLetter c || isAsciiDigit c || c == '.'

/-- A name in small letters with underscores between its words. -/
def plainName (s : List Char) : List Char :=
  joinWith '_' ((splitAt (!isWordChar ·) (s.map Char.toLower)).filter (!·.isEmpty))

/-- The set with a name.  In another name than its own, a point may stand for an underscore. -/
def ofName? (s : List Char) : Option Charset :=
  let plain := String.ofList (plainName s)
  let pointless := plain.map fun c ↦ if c = '.' then '_' else c
  (named.find? fun n ↦ n.1.contains plain || (n.1.drop 1).contains pointless).map (·.2)

/-- Bytes without the mark of UTF-8, or what there is of it. -/
def withoutMark (bs : Bytes) : Bytes :=
  let mark := Utf8.encodeChar '\ufeff'
  if mark.isPrefixOf bs then bs.drop mark.length else if bs.isPrefixOf mark then [] else bs

def withReplacements (cs : List (Option Char)) : List Char := cs.map (·.getD '\ufffd')

/-- How many bytes may wait for their rest. -/
def waitingLimit : Nat := 8

/-- The characters of bytes by a rule for code points, with a gap for bytes that wait for their
rest. -/
def charsBy (rule : UInt8 → Bytes → Reading Nat) (bs : Bytes) : List (Option Char) :=
  let (points, ending) := readBy rule bs
  Utf16.joined (if ending = .whole then points else points ++ [none])

/-- The text of a code of which only the second part has to be ASCII. -/
def punycodeText (bs : Bytes) : Except CharsetFault (List Char) :=
  let chars := bs.map fun b ↦ if b < 0x80 then Char.ofNat b.toNat else '\ufffd'
  let other := bs.drop (bs.length - (Punycode.parts chars).2.length)
  match other.find? (0x80 ≤ ·) with
  | some b => .error (.notAscii b (other.idxOf b))
  | none => .ok (withReplacements (Utf16.joined ((Punycode.decodeLossy chars).map some)))

/-- The text of some bytes, with replacement characters. -/
def text : Charset → Bytes → Except CharsetFault (List Char)
  | .utf8, bs => .ok (Utf8.decodeLossy bs)
  | .utf8Marked, bs => .ok (Utf8.decodeLossy (withoutMark bs))
  | .units w (some o), bs => .ok (withReplacements (w.decode o bs))
  | .units w none, bs =>
    match w.marked? bs with
    | some (o, bs) => .ok (withReplacements (w.decode o bs))
    | none =>
      if w.bytes ≤ bs.length then .error (.noMark w)
      else .ok (withReplacements (w.decode .little bs))
  | .page p, bs => .ok (withReplacements (p.decode bs))
  | .utf7, bs => .ok (withReplacements (Utf16.joined (Utf7.decode bs)))
  | .escaped, bs => .ok (withReplacements (charsBy Escaped.fullRule bs))
  | .rawEscaped, bs => .ok (withReplacements (charsBy Escaped.rawRule bs))
  | .punycode, bs => punycodeText bs
  | .eastAsian k, bs =>
    match k.read bs with
    | (_, .stuck) => .error .stuck
    | (cs, .unfinished left) =>
      if waitingLimit < left then .error .unfinished else .ok (withReplacements (cs ++ [none]))
    | (cs, .whole) => .ok (withReplacements cs)
  | .textless f, _ => .error f

/-- The text of some bytes, if all of them are text.  A set that has no rule for some bytes fails,
unless other bytes before are no text. -/
def wholeText? : Charset → Bytes → Except CharsetFault (Option (List Char))
  | .utf8, bs => .ok (Utf8.decode bs).toOption
  | .utf8Marked, bs =>
    let mark := Utf8.encodeChar '\ufeff'
    .ok (Utf8.decode (if mark.isPrefixOf bs then bs.drop mark.length else bs)).toOption
  | .units w (some o), bs => .ok ((w.decode o bs).mapM id)
  | .units w none, bs =>
    let (o, bs) := (w.marked? bs).getD (.little, bs)
    .ok ((w.decode o bs).mapM id)
  | .page p, bs => .ok ((p.decode bs).mapM id)
  | .utf7, bs => .ok ((Utf16.joined (Utf7.decode bs)).mapM id)
  | .escaped, bs => .ok ((charsBy Escaped.fullRule bs).mapM id)
  | .rawEscaped, bs => .ok ((charsBy Escaped.rawRule bs).mapM id)
  | .punycode, bs =>
    .ok (if bs.all (· < 0x80) then
        (Punycode.decode? (bs.map fun b ↦ Char.ofNat b.toNat)).bind fun ns ↦
          (Utf16.joined (ns.map some)).mapM id
      else none)
  | .eastAsian k, bs =>
    let (cs, ending) := k.read bs
    match cs.mapM id, ending with
    | some _, .stuck => .error .stuck
    | some cs, .whole => .ok (some cs)
    | _, _ => .ok none
  | .textless _, _ => .ok none

end Charset

end InstanceCatalog.Text
