import InstanceCatalog.Text.Pieces
import InstanceCatalog.Text.Utf8

/-! # Paths, and the folder a command runs in

A path is its steps between slashes, without the empty ones and the single dots.  A folder knows the
files and the folders below it.  Neither a path nor a step of it can be of any length. -/

namespace InstanceCatalog.Command

open Text

structure Path where
  /-- The slashes that the path starts with: none, one, or exactly two. -/
  root : List Char
  steps : List String
deriving DecidableEq, Repr

namespace Path

def parse (s : String) : Path :=
  let slashes := (s.toList.takeWhile (· == '/')).length
  let steps := (splitAt (· == '/') s.toList).map String.ofList
  { root := if slashes = 0 then [] else if slashes = 2 then ['/', '/'] else ['/']
    steps := steps.filter fun t ↦ t != "" && t != "." }

def text (p : Path) : String :=
  if p.root.isEmpty && p.steps.isEmpty then "."
  else String.ofList p.root ++ "/".intercalate p.steps

/-- The bytes that a path has to stay below. -/
def lengthLimit : Nat := 4096

/-- The most bytes of a step. -/
def stepLimit : Nat := 255

def isLong (p : Path) : Bool := lengthLimit ≤ p.text.utf8ByteSize

def isLongStep (step : String) : Bool := stepLimit < step.utf8ByteSize

end Path

/-- Why a path leads to no file. -/
inductive PathFault where
  | missing
  | nameTooLong
deriving DecidableEq, Repr

/-- The files at hand, by what reading a path comes to. -/
abbrev Files := Path → Except PathFault Bytes

inductive FolderEntry where
  | file (content : Bytes)
  | folder

/-- What stands below a folder, by the steps that lead there. -/
structure Folder where
  entries : List (List String × FolderEntry)

namespace Folder

/-- Where the folder is: below the one for files that do not last, under a name that no path
writes. -/
def home : List String := ["tmp", ""]

/-- The folders around it that a path can count on. -/
def surroundings : List (List String) :=
  [[], ["bin"], ["boot"], ["dev"], ["etc"], ["home"], ["lib"], ["media"], ["mnt"], ["opt"],
    ["proc"], ["root"], ["run"], ["sbin"], ["srv"], ["sys"], ["tmp"], ["usr"], ["usr", "bin"],
    ["usr", "lib"], ["usr", "local"], ["usr", "sbin"], ["usr", "share"], ["var"], ["var", "log"],
    ["var", "tmp"]]

/-- The entry at some steps below the folder; the way to an entry leads through folders. -/
def below? (f : Folder) (steps : List String) : Option FolderEntry :=
  match f.entries.lookup steps with
  | some e => some e
  | none =>
    if steps.isEmpty || f.entries.any (steps.isPrefixOf ·.1) then some .folder else none

/-- The entry at some steps from where all paths start. -/
def at? (f : Folder) (steps : List String) : Option FolderEntry :=
  if home.isPrefixOf steps then f.below? (steps.drop home.length)
  else if surroundings.contains steps then some .folder
  else none

/-- Follows steps from a place, the last step of which comes first; two dots lead up from a
folder.  The length of a step matters when it is looked for. -/
def walk (f : Folder) (place : List String) : List String → Except PathFault (List String)
  | [] => .ok place
  | step :: steps =>
    match f.at? place.reverse with
    | some .folder =>
      if step = ".." then walk f place.tail steps
      else if Path.isLongStep step then .error .nameTooLong
      else walk f (step :: place) steps
    | _ => .error .missing

/-- The content of the file at a path, if the path leads to a file. -/
def read (f : Folder) : Files := fun p ↦ do
  if p.isLong then throw .nameTooLong
  let place ← f.walk (if p.root.isEmpty then home.reverse else []) p.steps
  match f.at? place.reverse with
  | some (.file content) => return content
  | _ => throw .missing

end Folder

end InstanceCatalog.Command
