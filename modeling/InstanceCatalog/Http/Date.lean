import InstanceCatalog.Numeral.Integer
import InstanceCatalog.Text.Pieces

/-! # Dates in headers

A date is a day, a month and a year, perhaps with a time of the day and a zone.  It is written in
one strict form, or loosely: with marks of several kinds between its parts, and a year of two
digits. -/

namespace InstanceCatalog.Http

open Text Numeral

/-- A moment by the calendar. -/
structure Moment where
  year : Nat
  month : Nat
  day : Nat
  hour : Nat := 0
  minute : Nat := 0
  second : Nat := 0
deriving DecidableEq, Repr

namespace Moment

/-- The leap years up to a year. -/
def leaps (year : Nat) : Nat := year / 4 - year / 100 + year / 400

def isLeap (year : Nat) : Bool := year % 4 == 0 && (year % 100 != 0 || year % 400 == 0)

/-- The days of a year before each month of it. -/
def daysBefore (year month : Nat) : Nat :=
  [0, 31, 59, 90, 120, 151, 181, 212, 243, 273, 304, 334].getD (month - 1) 0
    + if isLeap year && 2 < month then 1 else 0

/-- The days from the start of 1970. -/
def days (m : Moment) : Nat :=
  365 * (m.year - 1970) + (leaps (m.year - 1) - leaps 1969) + daysBefore m.year m.month
    + (m.day - 1)

/-- The seconds from the start of 1970, for a moment since then.  A month can be written with 31
days, and a day can end at 24 hours. -/
def seconds? (m : Moment) : Option Int :=
  if 1970 ≤ m.year ∧ 1 ≤ m.month ∧ m.month ≤ 12 ∧ 1 ≤ m.day ∧ m.day ≤ 31 ∧ m.hour ≤ 24
      ∧ m.minute ≤ 59 ∧ m.second ≤ 61 then
    some (((m.days * 24 + m.hour) * 60 + m.minute) * 60 + m.second : Nat)
  else none

end Moment

namespace Date

/-- What a text says as a date. -/
inductive Reading where
  /-- It has the strict form and no month. -/
  | noMonth
  | noDate
  | date (seconds : Int)
deriving DecidableEq, Repr

def Reading.ofOption : Option Int → Reading
  | none => .noDate
  | some t => .date t

def months : List String :=
  ["jan", "feb", "mar", "apr", "may", "jun", "jul", "aug", "sep", "oct", "nov", "dec"]

/-- A month by the three letters of its name. -/
def month? (name : List Char) : Option Nat :=
  (months.findIdx? (· == String.ofList (name.map Char.toLower))).map (· + 1)

/-! ## The strict form -/

/-- Whether a text has the form of another, in which a letter stands for a small letter, a figure
for a digit, and every other character for itself. -/
def hasForm : List Char → List Char → Bool
  | [], [] => true
  | f :: form, c :: s =>
    (if f = 'a' then 'a' ≤ c && c ≤ 'z' else if f = '0' then isAsciiDigit c else c == f)
      && hasForm form s
  | _, _ => false

def isStrict (s : List Char) : Bool :=
  hasForm "aa, 00 ".toList (s.drop 1 |>.take 7) && hasForm "aa 0000 00:00:00 GMT".toList (s.drop 9)
    && s.head?.any ("SMTWF".toList.contains ·) && s[8]?.any ("JFMASOND".toList.contains ·)

/-- The number in some places of a text. -/
def field (s : List Char) (start length : Nat) : Nat := ofDigits ((s.drop start).take length)

def ofStrict (s : List Char) : Reading :=
  match month? ((s.drop 8).take 3) with
  | none => .noMonth
  | some month =>
    .ofOption (Moment.seconds? {
      year := field s 12 4, month, day := field s 5 2
      hour := field s 17 2, minute := field s 20 2, second := field s 23 2 })

/-! ## Loose forms -/

def isSpace (c : Char) : Bool := c == ' ' || (0x09 ≤ c.toNat && c.toNat ≤ 0x0D)

def isWordChar (c : Char) : Bool := isAsciiLetter c || isAsciiDigit c || c == '_'

/-- The text after some spaces. -/
def skipSpaces (s : List Char) : List Char := s.dropWhile isSpace

/-- At most `n` digits, and the text after them. -/
def digits (n : Nat) (s : List Char) : List Char × List Char :=
  let ds := (s.takeWhile isAsciiDigit).take n
  (ds, s.drop ds.length)

/-- The text after a mark between the parts of a day: spaces, a dash or a slash. -/
def afterMark? (s : List Char) : Option (List Char) :=
  match s with
  | [] => none
  | c :: t => if isSpace c then some (skipSpaces t) else if c = '-' ∨ c = '/' then some t else none

/-- The text after a name of a day of the week, a comma and spaces. -/
def skipWeekday (s : List Char) : List Char :=
  if ["sun", "mon", "tue", "wed", "thu", "fri", "sat"].contains
      (String.ofList ((s.take 3).map Char.toLower)) then
    let s := (s.drop 3).dropWhile isAsciiLetter
    skipSpaces (if s.head? = some ',' then s.drop 1 else s)
  else s

/-- The seconds after a colon and two digits, if there are any, and the text after them. -/
def second (s : List Char) : Nat × List Char :=
  match s with
  | ':' :: t =>
    let (ds, rest) := digits 2 t
    if ds.length = 2 then (ofDigits ds, rest) else (0, s)
  | _ => (0, s)

/-- A time of the day after spaces or a colon: hour, minute, second and the text after them. -/
def clock? (s : List Char) : Option (Nat × Nat × Nat × List Char) :=
  let start := match s with
    | ':' :: t => some t
    | c :: t => if isSpace c then some (skipSpaces t) else none
    | [] => none
  match start.map (digits 2) with
  | some (hour, ':' :: t) =>
    let (minute, t) := digits 2 t
    if hour.isEmpty ∨ minute.length ≠ 2 then none
    else
      let (second, t) := second t
      some (ofDigits hour, ofDigits minute, second, t)
  | _ => none

/-- A zone and the text after it: two to four digits with or without a sign, or a word that does not
say which half of a day is meant. -/
def zone (s : List Char) : List Char × List Char :=
  let sign := (s.take 1).filter fun c ↦ c == '-' || c == '+'
  let (ds, rest) := digits 4 (s.drop sign.length)
  if 2 ≤ ds.length then (sign ++ ds, rest)
  else
    let word := s.takeWhile isAsciiLetter
    let rest := s.drop word.length
    let isHalf := ["am", "pm"].contains (String.ofList ((s.take 2).map Char.toLower))
      && !((s.drop 2).head?.any isWordChar)
    if isHalf then ([], s) else (word, rest)

/-- The seconds by which a zone is ahead. -/
def offset? (zone : List Char) : Option Int :=
  if ["", "GMT", "UTC", "UT", "Z"].contains (String.ofList (zone.map Char.toUpper)) then some 0
  else
    let ds := zone.filter isAsciiDigit
    let hours := if ds.length = 3 then ds.take 1 else ds.take 2
    let ahead : Int := 3600 * ofDigits hours + 60 * ofDigits (ds.drop hours.length)
    if ds.isEmpty then none else some (if zone.head? = some '-' then -ahead else ahead)

/-- The text after a note in parentheses and spaces, if there is one. -/
def skipNote (s : List Char) : List Char :=
  match s with
  | '(' :: t =>
    let note := t.takeWhile isWordChar
    match t.drop note.length with
    | ')' :: u => if note.isEmpty then s else skipSpaces u
    | _ => s
  | s => s

/-- A year of less than four digits is the one that is nearest to the present. -/
def fullYear (present year : Nat) : Nat :=
  if 1000 ≤ year then year
  else
    let near := year + present - present % 100
    if year + 50 < present % 100 then near + 100
    else if present % 100 + 50 < year then near - 100
    else near

/-- The year of a moment that is given in seconds. -/
def yearOf (now : Int) : Nat := 1970 + (now / 31556952).toNat

def ofLoose (now : Int) (s : List Char) : Reading :=
  let s := skipWeekday (s.dropWhile isBlankMargin)
  let parts := do
    let (day, s) := digits 2 s
    let s ← afterMark? s
    let name := s.takeWhile isWordChar
    let s ← afterMark? (s.drop name.length)
    let year := s.takeWhile isAsciiDigit
    guard (!day.isEmpty && !name.isEmpty && !year.isEmpty)
    let s := s.drop year.length
    let (hour, minute, second, s) := (clock? s).getD (0, 0, 0, s)
    let (zone, s) := zone (skipSpaces s)
    guard (skipNote (skipSpaces s)).isEmpty
    let month ← month? name <|> (lenientInteger name).toOption.map Int.toNat
    guard (ofDigits year ≤ 9999)
    let seconds ← Moment.seconds? {
      year := fullYear (yearOf now) (ofDigits year), month, day := ofDigits day
      hour, minute, second }
    return seconds - (← offset? zone)
  .ofOption parts
where
  isBlankMargin (c : Char) : Bool := isSpace c || (0x1C ≤ c.toNat && c.toNat ≤ 0x1F)

/-- What a text says as a date, looked at in a moment. -/
def read (now : Int) (s : List Char) : Reading := if isStrict s then ofStrict s else ofLoose now s

end Date

end InstanceCatalog.Http
