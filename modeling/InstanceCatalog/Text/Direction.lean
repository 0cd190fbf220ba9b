import InstanceCatalog.Text.Mark
import InstanceCatalog.Text.Printable

/-! # Directions of writing

The direction of the characters that names are made of.  A letter is written from left to right
unless it is listed; a character without a direction is one that is not assigned. -/

namespace InstanceCatalog.Text

inductive Direction where
  | left
  | right
  /-- From right to left, and digits beside it are taken as Arabic ones. -/
  | arabic
  | number
  | arabicNumber
  /-- A sign that joins numbers. -/
  | separator
  | neutral
  /-- A joiner, which does not show. -/
  | joiner
  | mark
deriving DecidableEq, Repr

namespace Direction

def rightLetters : List Span :=
  [(0x5D0, 0x5EA), (0x5EF, 0x5F4), (0x7C0, 0x7EA), (0x7F4, 0x7F5), (0x800, 0x815), (0x81A, 0x81A),
   (0x824, 0x824), (0x828, 0x828), (0x840, 0x858), (0x10800, 0x10805), (0x10808, 0x10808),
   (0x1080A, 0x10835), (0x10837, 0x10838), (0x1083C, 0x1083C), (0x1083F, 0x10855),
   (0x10860, 0x10876), (0x10880, 0x1089E), (0x108E0, 0x108F2), (0x108F4, 0x108F5),
   (0x10900, 0x10915), (0x10920, 0x10939), (0x10980, 0x109B7), (0x109BE, 0x109BF),
   (0x10A00, 0x10A00), (0x10A10, 0x10A13), (0x10A15, 0x10A17), (0x10A19, 0x10A35),
   (0x10A60, 0x10A7C), (0x10A80, 0x10A9C), (0x10AC0, 0x10AC7), (0x10AC9, 0x10AE4),
   (0x10B00, 0x10B35), (0x10B40, 0x10B55), (0x10B60, 0x10B72), (0x10B80, 0x10B91),
   (0x10C00, 0x10C48), (0x10CC0, 0x10CF2), (0x10E80, 0x10EA9), (0x10EB0, 0x10EB1),
   (0x10F00, 0x10F1C), (0x10F27, 0x10F27), (0x10F70, 0x10F81), (0x10FB0, 0x10FC4),
   (0x10FE0, 0x10FF6), (0x1E800, 0x1E8C4), (0x1E922, 0x1E943), (0x1E94B, 0x1E94B),
   (0x1E950, 0x1E959)]

def arabicLetters : List Span :=
  [(0x620, 0x63F), (0x641, 0x64A), (0x66E, 0x66F), (0x671, 0x674), (0x679, 0x6D3), (0x6D5, 0x6D5),
   (0x6E5, 0x6E6), (0x6EE, 0x6EF), (0x6FA, 0x6FF), (0x710, 0x710), (0x712, 0x72F), (0x74D, 0x7A5),
   (0x7B1, 0x7B1), (0x860, 0x86A), (0x870, 0x887), (0x889, 0x88E), (0x8A0, 0x8C9), (0xFE73, 0xFE73),
   (0x10D00, 0x10D23), (0x10F30, 0x10F45)]

def arabicNumbers : List Span :=
  [(0x660, 0x669), (0x10D30, 0x10D39)]

def europeanNumbers : List Span :=
  [(0x30, 0x39), (0x6F0, 0x6F9)]

def neutralSigns : List Span :=
  [(0xB7, 0xB7), (0x2B9, 0x2BA), (0x2C6, 0x2CF), (0x2EC, 0x2EC), (0x375, 0x375), (0x2E2F, 0x2E2F),
   (0x30FB, 0x30FB), (0xA67F, 0xA67F), (0xA717, 0xA71F), (0xA788, 0xA788)]

/-- Marks that are read from left to right like letters. -/
def leftMarks : List Span :=
  [(0xCBF, 0xCBF), (0xCC6, 0xCC6), (0x11A07, 0x11A08), (0x11C3F, 0x11C3F)]

end Direction

def isJoiner (c : Char) : Bool := c == '\u200c' || c == '\u200d'

/-- Whether a character of names is assigned and has a name of its own, which the ideographs of
Tangut have not. -/
def isNamed (c : Char) : Bool :=
  isJoiner c || (isPrintable c && !Span.covers [(0x17000, 0x187F7), (0x18D00, 0x18D08)] c)

open Direction in
def direction? (c : Char) : Option Direction :=
  if isJoiner c then some .joiner
  else if !isPrintable c then none
  else if Span.covers rightLetters c then some .right
  else if Span.covers arabicLetters c then some .arabic
  else if Span.covers arabicNumbers c then some .arabicNumber
  else if Span.covers europeanNumbers c then some .number
  else if c = '-' then some .separator
  else if Span.covers neutralSigns c then some .neutral
  else if isNonspacing c && !Span.covers leftMarks c then some .mark
  else some .left

end InstanceCatalog.Text
