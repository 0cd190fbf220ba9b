import InstanceCatalog.Detail

/-! # What can be wrong with a page, or with getting it

An error has a message and a context: the values needed to see from one line what broke.  Its text
is the message, followed by the context in parentheses unless that is empty. -/

namespace InstanceCatalog

/-- The families of errors: of the page as a document, of its layout, of a row, or of none of
these. -/
inductive ErrorFamily where
  | general
  | document
  | layout
  | row
deriving DecidableEq, Repr

inductive ScrapeError where
  /-- No response came. -/
  | fetch (url reason : String)
  /-- The response is not a success. -/
  | badStatus (status : Int) (url : String)
  /-- The page is not markup that can be read. -/
  | rejectedMarkup (reason : String)
  /-- No element has the id that marks the section. -/
  | anchorNotFound (anchor : String)
  /-- The anchor is not inside a section header. -/
  | headerNotFound (anchor : String) (classes : List String)
  /-- No table block follows the section header. -/
  | tableNotFound (classes : List String)
  /-- The table has too few rows. -/
  | tableTooSmall (least actual : Int)
  /-- A row has too few or too many cells. -/
  | columnCount (expected actual : Int)
  /-- A cell is not the number it should be. -/
  | notANumber (field text : String)
  /-- A cell that may not be empty is. -/
  | emptyField (field : String)
  /-- An error of a family with a message and a context of its own. -/
  | other (family : ErrorFamily) (message : String) (context : List (String × Detail))

namespace ScrapeError

def family : ScrapeError → ErrorFamily
  | .fetch .. | .badStatus .. => .general
  | .rejectedMarkup _ => .document
  | .anchorNotFound _ | .headerNotFound .. | .tableNotFound _ | .tableTooSmall .. => .layout
  | .columnCount .. | .notANumber .. | .emptyField _ => .row
  | .other f .. => f

def message : ScrapeError → String
  | .fetch .. => "Failed to fetch instance types page"
  | .badStatus .. => "Bad response from AWS"
  | .rejectedMarkup _ => "Could not parse page markup"
  | .anchorNotFound _ => "No node with the anchor id"
  | .headerNotFound .. => "Malformed HTML: no ancestor of the anchor carries the header classes"
  | .tableNotFound _ => "Malformed HTML: no sibling after the header carries the table classes"
  | .tableTooSmall .. => "Malformed HTML: could not find the instance type table"
  | .columnCount e a =>
    "Expected " ++ Numeral.decimal e ++ " columns, got " ++ Numeral.decimal a
  | .notANumber f t => "Expected number for " ++ f ++ ", got '" ++ t ++ "'"
  | .emptyField f => "Expected a value for " ++ f ++ ", got an empty cell"
  | .other _ m _ => m

def context : ScrapeError → List (String × Detail)
  | .fetch u r => [("url", .text u), ("reason", .text r)]
  | .badStatus s u => [("status_code", .number s), ("url", .text u)]
  | .rejectedMarkup r => [("reason", .text r)]
  | .anchorNotFound a => [("anchor_id", .text a)]
  | .headerNotFound a cs => [("anchor_id", .text a), ("classes", .text (" ".intercalate cs))]
  | .tableNotFound cs => [("classes", .text (" ".intercalate cs))]
  | .tableTooSmall e a => [("expected_min", .number e), ("actual", .number a)]
  | .columnCount e a => [("expected", .number e), ("actual", .number a)]
  | .notANumber f t => [("field", .text f), ("text", .text t)]
  | .emptyField f => [("field", .text f)]
  | .other _ _ c => c

/-- Keys and values in order, with commas between. -/
def shownContext (c : List (String × Detail)) : String :=
  ", ".intercalate (c.map fun (k, v) ↦ k ++ "=" ++ v.shown)

/-- The error on one line of a log. -/
def text (e : ScrapeError) : String :=
  if e.context.isEmpty then e.message else e.message ++ " (" ++ shownContext e.context ++ ")"

theorem text_of_context_ne_nil {e : ScrapeError} (h : e.context ≠ []) :
    e.text = e.message ++ " (" ++ shownContext e.context ++ ")" := by
  simp [text, h]

end ScrapeError

end InstanceCatalog
