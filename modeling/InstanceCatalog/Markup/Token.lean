/-! # Markup as a sequence of tokens -/

namespace InstanceCatalog.Markup

inductive Token where
  | text (s : String)
  /-- A start tag, `closed` if it ends in a slash. -/
  | start (tag : String) (attrs : List (String × String)) (closed : Bool)
  | finish (tag : String)
  /-- A comment, a declaration or an instruction, of which only the place matters. -/
  | hidden
deriving DecidableEq, Repr

/-- The elements whose content is not read as markup. -/
inductive Raw where
  | script
  | style
deriving DecidableEq, Repr

namespace Raw

def tag : Raw → String
  | .script => "script"
  | .style => "style"

def ofTag? (s : String) : Option Raw :=
  if s = "script" then some .script else if s = "style" then some .style else none

end Raw

/-- What a construct at the start of a text comes to: its tokens, the element whose content it opens
to raw text, and the text after it. -/
structure Reading where
  tokens : List Token
  raw : Option Raw := none
  rest : List Char

end InstanceCatalog.Markup
