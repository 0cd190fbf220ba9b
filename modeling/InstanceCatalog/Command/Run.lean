import InstanceCatalog.Catalog.Fetch
import InstanceCatalog.Catalog.Json
import InstanceCatalog.Catalog.Table
import InstanceCatalog.Command.Arguments
import InstanceCatalog.Command.Folder
import InstanceCatalog.Text.LineBreak
import InstanceCatalog.Text.Terminal

/-! # Running the command line

A run ends with an exit code, what it wrote to both streams, and the level at which it logs.  A
declared failure is one line on the error stream; any other ends the run as a crash. -/

namespace InstanceCatalog.Command

open Text

inductive Crash where
  | unknownLevel (name : String)
  | malformedFile (m : Utf8.Malformed)
  | nameTooLong (path : String)
  | failure (f : Failure)

def Crash.message : Crash → String
  | .unknownLevel name => "Unknown level: " ++ quoted name
  | .malformedFile m => m.message
  | .nameTooLong path => "[Errno 36] File name too long: " ++ quoted path
  | .failure f => f.message

/-- The numbers of the levels that logging can be set to. -/
def levels : List (String × Nat) :=
  [("CRITICAL", 50), ("FATAL", 50), ("ERROR", 40), ("WARNING", 30), ("WARN", 30), ("INFO", 20),
    ("DEBUG", 10), ("NOTSET", 0)]

structure Outcome where
  exit : Nat
  /-- Nothing is said about the streams of a run that was asked for wrongly. -/
  output : Option String
  errors : Option String
  /-- The level that logging was set to, if the run got that far. -/
  level : Option Nat
  crash : Option Crash := none

namespace Outcome

def misused (level : Option Nat) : Outcome := ⟨2, none, none, level, none⟩

def crashed (errors : String) (level : Option Nat) (c : Crash) : Outcome :=
  ⟨1, some "", some errors, level, some c⟩

end Outcome

/-- A line of output; neither stream is taken for a terminal. -/
def printedLine (s : String) : String := Terminal.plain s ++ "\n"

/-- A line about the command. -/
def notice (s : String) : String := printedLine ("[instance-types] " ++ s)

/-- What a successful run prints. -/
def printed (json : Bool) (rs : List Record) : String :=
  if json then printedLine (JsonValue.array (rs.map Record.printedJson)).text
  else String.join (rs.map fun r ↦ printedLine r.line)

/-- The end of a run that got a catalog or a failure, after some lines of errors. -/
def conclude (json : Bool) (errors : String) (level : Nat) :
    Except Failure (List Record) → Outcome
  | .ok rs => ⟨0, some (printed json rs), some errors, some level, none⟩
  | .error (.declared e) =>
    ⟨1, some "", some (errors ++ notice ("Error: " ++ e.text)), some level, none⟩
  | .error f => .crashed errors (some level) (.failure f)

/-- The text of a saved page, in which every line break is a line feed. -/
def pageText (content : Bytes) : Except Utf8.Malformed String :=
  (Utf8.decode content).map fun cs ↦ String.ofList (unifyLineBreaks cs)

/-- A run on a saved page. -/
def runFile (files : Files) (json : Bool) (level : Nat) (file : String) : Outcome :=
  let path := Path.parse file
  match files path with
  | .error .missing =>
    ⟨1, some "", some (notice ("Error: no such file " ++ quoted path.text)), some level, none⟩
  | .error .nameTooLong => .crashed "" (some level) (.nameTooLong path.text)
  | .ok content =>
    match pageText content with
    | .ok page => conclude json "" level (Catalog.ofPage page).result
    | .error m => .crashed "" (some level) (.malformedFile m)

/-- A run on the page at the address of the settings. -/
def runFetch (s : Settings) (script : Http.Script) (json : Bool) (level : Nat) : Outcome :=
  conclude json (notice ("Fetching " ++ quoted s.url ++ " …")) level
    (Catalog.fetch s none none script).logged.result

/-- A run of a task at a log level. -/
def runTask (s : Settings) (files : Files) (script : Http.Script) (level : Nat) (t : Task) :
    Outcome :=
  match t.file with
  | some file => runFile files t.json level file
  | none => runFetch s script t.json level

/-- The level at which a run logs. -/
def levelOf (s : Settings) (verbose : Bool) : Except Crash Nat :=
  if verbose then .ok 10
  else match levels.lookup s.logLevel with
    | some n => .ok n
    | none => .error (.unknownLevel s.logLevel)

def run (s : Settings) (files : Files) (script : Http.Script) (args : List String) : Outcome :=
  match Invocation.ofArguments args with
  | .misused => .misused none
  | .instanceTypes verbose task =>
    match levelOf s verbose with
    | .error c => .crashed "" none c
    | .ok level =>
      match task with
      | none => .misused (some level)
      | some t => runTask s files script level t

end InstanceCatalog.Command
