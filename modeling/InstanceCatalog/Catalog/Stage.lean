import InstanceCatalog.Log

/-! # The stages of a scrape

Each stage announces itself, and a declared failure is logged with the stage in which it arose. -/

namespace InstanceCatalog

inductive Stage where
  | idle
  | fetching
  | parsing
  | locatingSection
  | enumeratingRows
  | parsingRows
  | done
deriving DecidableEq, Repr

namespace Stage

def name : Stage → String
  | .idle => "idle"
  | .fetching => "fetching"
  | .parsing => "parsing"
  | .locatingSection => "locating_section"
  | .enumeratingRows => "enumerating_rows"
  | .parsingRows => "parsing_rows"
  | .done => "done"

/-- The line that a stage starts with, which may say more about it. -/
def announce (s : Stage) (more : String := "") : Logged Unit :=
  .line .debug ("stage=" ++ s.name ++ more)

/-- The line for a failure in a stage. -/
def failed (s : Stage) (e : ScrapeError) : LogLine :=
  ⟨.warning, "Instance type scrape failed while " ++ s.name ++ ": " ++ e.text⟩

/-- The work of a stage, announced and watched. -/
def perform {α : Type} (s : Stage) (work : Except Failure α) (more : String := "") : Logged α :=
  (do s.announce more; Logged.ofResult work : Logged α).onDeclared s.failed

end Stage

end InstanceCatalog
