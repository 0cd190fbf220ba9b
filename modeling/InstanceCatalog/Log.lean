import InstanceCatalog.Failure

/-! # Logged computations

A computation gives a result, which may be a failure, and the lines it logged on the way.  After a
failure nothing more is computed or logged. -/

namespace InstanceCatalog

inductive LogLevel where
  | debug
  | info
  | warning
  | error
deriving DecidableEq, Repr

structure LogLine where
  level : LogLevel
  message : String
deriving DecidableEq, Repr

structure Logged (α : Type) where
  result : Except Failure α
  log : List LogLine

namespace Logged

variable {α β : Type}

/-- The first computation, and if it succeeds the second with its lines after those of the first. -/
def bind (x : Logged α) (f : α → Logged β) : Logged β :=
  match x.result with
  | .ok a => ⟨(f a).result, x.log ++ (f a).log⟩
  | .error e => ⟨.error e, x.log⟩

instance : Monad Logged where
  pure a := ⟨.ok a, []⟩
  bind := bind

def line (level : LogLevel) (message : String) : Logged Unit := ⟨.ok (), [⟨level, message⟩]⟩

def ofResult (r : Except Failure α) : Logged α := ⟨r, []⟩

@[simp] theorem result_pure (a : α) : (pure a : Logged α).result = .ok a := rfl
@[simp] theorem log_pure (a : α) : (pure a : Logged α).log = [] := rfl

theorem bind_of_ok {x : Logged α} {a : α} (h : x.result = .ok a) (f : α → Logged β) :
    x >>= f = ⟨(f a).result, x.log ++ (f a).log⟩ := by
  simp [Bind.bind, bind, h]

theorem bind_of_error {x : Logged α} {e : Failure} (h : x.result = .error e) (f : α → Logged β) :
    x >>= f = ⟨.error e, x.log⟩ := by
  simp [Bind.bind, bind, h]

/-- A computation that logs one more line if it ends in a declared failure. -/
def onDeclared (x : Logged α) (f : ScrapeError → LogLine) : Logged α :=
  match x.result with
  | .error (.declared e) => ⟨x.result, x.log ++ [f e]⟩
  | _ => x

end Logged

end InstanceCatalog
