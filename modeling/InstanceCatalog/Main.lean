import InstanceCatalog.Command.Run

/-! # The program

`Command.run` decides what a run comes to.  Here its inputs are collected, the environment and the
file that was asked for, and its outcome is written to the streams.  No transport is at hand, so a
page has to be saved before it can be read. -/

namespace InstanceCatalog.Program

open Command

/-- The variables of the environment that settings come from. -/
def environment : IO Environment :=
  Settings.variableNames.filterMapM fun name ↦ do return (← IO.getEnv name).map (name, ·)

/-- The path of the file that some arguments ask for. -/
def askedFor? (args : List String) : Option Path :=
  match Invocation.ofArguments args with
  | .instanceTypes _ (some task) => task.file.map Path.parse
  | _ => none

def contentOf (p : Path) : IO (Except PathFault Text.Bytes) := do
  try return .ok (← IO.FS.readBinFile p.text).toList
  catch _ =>
    let long := p.isLong || p.steps.any Path.isLongStep
    return .error (if long then .nameTooLong else .missing)

/-- Reads the file that some arguments ask for, and knows no other. -/
def filesFor (args : List String) : IO Files := do
  match askedFor? args with
  | none => return fun _ ↦ .error .missing
  | some asked =>
    let content ← contentOf asked
    return fun p ↦ if p = asked then content else .error .missing

def usage : String := "Usage: resize [-v] instance-types [--file PATH] [--json]\n"

def finish (o : Outcome) : IO UInt32 := do
  IO.print (o.output.getD "")
  IO.eprint (o.errors.getD usage)
  if let some c := o.crash then IO.eprintln c.message
  return o.exit.toUInt32

end InstanceCatalog.Program

open InstanceCatalog in
def main (args : List String) : IO UInt32 := do
  match Settings.ofEnvironment (← Program.environment) with
  | .error e =>
    IO.eprintln e.message
    return 1
  | .ok s => Program.finish (Command.run s (← Program.filesFor args) [] args)
