/-! # Arguments of the command line

The program has options of its own, then the name of a command with the options of that.  Mistakes
before the command is known stop it at once; mistakes after its name are found when logging has been
set up. -/

namespace InstanceCatalog.Command

/-- What the command `instance-types` is asked to do. -/
structure Task where
  /-- A saved page to read instead of fetching one. -/
  file : Option String := none
  json : Bool := false
deriving DecidableEq, Repr

/-- No file has a name with the character that ends names. -/
def Task.isPossible (t : Task) : Bool := t.file.all fun name ↦ !name.toList.contains '\x00'

inductive Invocation where
  /-- No command, or no known one. -/
  | misused
  /-- The command; without a task its own arguments are wrong. -/
  | instanceTypes (verbose : Bool) (task : Option Task)
deriving DecidableEq, Repr

namespace Arguments

/-- Whether an argument is an option and not a plain word. -/
def isOption (arg : String) : Bool := arg.toList.head? == some '-' && arg != "-"

/-- The options of the command, in any order and with nothing else between them. -/
def task (t : Task) : List String → Option Task
  | [] => some t
  | ["--"] => some t
  | "--json" :: args => task { t with json := true } args
  | ["--file"] => none
  | "--file" :: value :: args => task { t with file := some value } args
  | arg :: args =>
    if "--file=".toList.isPrefixOf arg.toList then
      task { t with file := some (String.ofList (arg.toList.drop 7)) } args
    else none

/-- One or more letters `v` after a dash. -/
def isVerbose (arg : String) : Bool :=
  arg == "--verbose" ||
    match arg.toList with
    | '-' :: 'v' :: vs => vs.all (· == 'v')
    | _ => false

/-- A command by name with its arguments. -/
def command (verbose : Bool) : List String → Invocation
  | "instance-types" :: args => .instanceTypes verbose ((task {} args).filter Task.isPossible)
  | _ => .misused

/-- The options of the program, then the command. -/
def parseFrom (verbose : Bool) : List String → Invocation
  | [] => .misused
  | "--" :: args => command verbose args
  | arg :: args =>
    if isVerbose arg then parseFrom true args
    else if isOption arg then .misused
    else command verbose (arg :: args)

end Arguments

def Invocation.ofArguments (args : List String) : Invocation := Arguments.parseFrom false args

end InstanceCatalog.Command
