import InstanceCatalog.Markup.Forest
import InstanceCatalog.Markup.Token

/-! # Nesting tokens into a forest

Start tags open elements, and nothing closes an element but an end tag of its name, which closes all
elements inside it too, or the end of the page.  Text grows until a tag or a comment ends it. -/

namespace InstanceCatalog.Markup

/-- An open element, with the trees before it in reverse order. -/
structure Open where
  tag : String
  attrs : List (String × String)
  before : Forest

structure Nesting where
  /-- The open elements, the innermost first. -/
  stack : List Open := []
  /-- The finished trees inside the innermost, in reverse order. -/
  inside : Forest := .nil
  /-- The text since the last tag. -/
  run : String := ""
  /-- The names of empty elements that were closed where they were opened, and whose end tags may
  still come. -/
  settled : List String := []

namespace Nesting

/-- The elements that never hold anything. -/
def isEmptyElement (tag : String) : Bool :=
  ["area", "base", "br", "col", "embed", "hr", "img", "input", "keygen", "link", "menuitem", "meta",
    "param", "source", "track", "wbr", "basefont", "bgsound", "command", "frame", "image",
    "isindex", "nextid", "spacer"].contains tag

/-- The elements inside which blanks are kept as they are. -/
def keepsBlanks (tag : String) : Bool := tag == "pre" || tag == "textarea"

/-- The blanks that a run is reduced from. -/
def isLayout (c : Char) : Bool := c == ' ' || c == '\n' || c == '\t' || c == '\x0c' || c == '\r'

/-- A run of nothing but blanks as one of them: a line break if it holds one. -/
def collapse (run : String) : String :=
  if run.toList.all isLayout then (if '\n' ∈ run.toList then "\n" else " ") else run

/-- The text so far becomes a tree, unless there is none. -/
def flush (n : Nesting) : Nesting :=
  if n.run.isEmpty then n
  else
    let data := if n.stack.any (keepsBlanks ·.tag) then n.run else collapse n.run
    { n with inside := .text data n.inside, run := "" }

/-- Opens an element. -/
def push (tag : String) (attrs : List (String × String)) (n : Nesting) : Nesting :=
  { n with stack := ⟨tag, attrs, n.inside⟩ :: n.stack, inside := .nil }

/-- Closes the innermost element. -/
def pop (n : Nesting) : Nesting :=
  match n.stack with
  | [] => n
  | o :: stack => { n with stack, inside := .element o.tag o.attrs n.inside.reverse o.before }

/-- Closes the innermost elements up to one of a name. -/
def popTo (tag : String) : List Open → Nesting → Nesting
  | [], n => n
  | o :: os, n => if o.tag = tag then n.pop else popTo tag os n.pop

/-- Closes the innermost element of a name, if one is open. -/
def close (tag : String) (n : Nesting) : Nesting :=
  let n := n.flush
  if n.stack.any (·.tag == tag) then popTo tag n.stack n else n

def start (tag : String) (attrs : List (String × String)) (closed : Bool) (n : Nesting) :
    Nesting :=
  let n := n.flush.push tag attrs
  if closed then n.close tag
  else if isEmptyElement tag then
    let n := n.close tag
    { n with settled := tag :: n.settled }
  else n

/-- An end tag; one that an empty element still had to come does nothing at all. -/
def finish (tag : String) (n : Nesting) : Nesting :=
  if n.settled.contains tag then { n with settled := n.settled.erase tag } else n.close tag

def token (n : Nesting) : Token → Nesting
  | .text s => { n with run := n.run ++ s }
  | .start tag attrs closed => n.start tag attrs closed
  | .finish tag => n.finish tag
  | .hidden =>
    let n := n.flush
    { n with inside := .hidden n.inside }

/-- Closes all elements. -/
def popAll : List Open → Nesting → Nesting
  | [], n => n
  | _ :: os, n => popAll os n.pop

end Nesting

/-- The forest that tokens make. -/
def Forest.ofTokens (ts : List Token) : Forest :=
  let n := (ts.foldl Nesting.token {}).flush
  (Nesting.popAll n.stack n).inside.reverse

end InstanceCatalog.Markup
