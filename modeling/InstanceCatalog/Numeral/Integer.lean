import InstanceCatalog.Numeral.Lenient
import InstanceCatalog.Text.Quoted

/-! # Integer numerals

A plain integer numeral is an optional sign and one or more ASCII digits.  A lenient one also has
white space around it, digits of any script and underscores between digits.  Neither is converted
beyond `digitLimit` digits. -/

namespace InstanceCatalog.Numeral

open Text

/-- The most digits that are converted; leading zeros count. -/
def digitLimit : Nat := 4300

/-- The length to which a text that is no integer is shown. -/
def shownLength : Nat := 200

def malformedMessage (s : String) : String :=
  "invalid literal for int() with base 10: "
    ++ String.ofList ((Text.quoted s).toList.take shownLength)

def tooManyDigitsMessage (count : Nat) : String :=
  "Exceeds the limit (4300 digits) for integer string conversion: value has "
    ++ decimal count ++ " digits; use sys.set_int_max_str_digits() to increase the limit"

inductive IntegerError where
  | malformed
  | tooManyDigits (count : Nat)
deriving DecidableEq, Repr

/-- A run of ASCII digits, within the limit. -/
def convert (negative : Bool) (ds : List Char) : Except IntegerError Int :=
  if digitLimit < ds.length then .error (.tooManyDigits ds.length)
  else .ok (applySign negative (ofDigits ds))

def isPlainInteger (s : List Char) : Bool := isDigits (splitSign s).2

/-- The value of a plain integer numeral. -/
def plainInteger (s : List Char) : Except IntegerError Int :=
  let (negative, ds) := splitSign s
  if isDigits ds then convert negative ds else .error .malformed

theorem plainInteger_of_not_isPlainInteger {s : List Char} (h : isPlainInteger s = false) :
    plainInteger s = .error .malformed := by
  simp_all [plainInteger, isPlainInteger]

/-- The value of a lenient integer numeral.  A run of digits beyond the limit is reported even when
more follows it. -/
def lenientInteger (s : List Char) : Except IntegerError Int :=
  let (negative, body) := splitSign ((Text.trim isMargin s).map asciiDigit)
  let run := body.takeWhile fun c ↦ isAsciiDigit c || c == '_'
  match dropUnderscores? false run with
  | none => .error .malformed
  | some [] => .error .malformed
  | some ds => do
    let value ← convert negative ds
    if run.length = body.length then return value else throw .malformed

end InstanceCatalog.Numeral
