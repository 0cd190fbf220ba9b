import InstanceCatalog.Text.Utf8

/-! # Reading bytes step by step

Where characters take different numbers of bytes, a text is read one step after the other.  A rule
says what the bytes at the start stand for, and may change a state in which the next bytes are
read. -/

namespace InstanceCatalog.Text.Charset

/-- What the bytes at the start of a text stand for. -/
inductive Reading (α : Type) where
  /-- Characters, for the first byte and some more. -/
  | chars (cs : List α) (more : Nat)
  /-- Nothing, for the first byte and some more. -/
  | gap (more : Nat)
  /-- The start of something that is not there as a whole. -/
  | unfinished
  /-- Something that cannot be read on. -/
  | stuck
deriving DecidableEq, Repr

namespace Reading

variable {α : Type}

/-- A character for the first byte and some more, or a gap for the first byte. -/
def ofChar? (c : Option α) (more : Nat) : Reading α :=
  match c with
  | some c => .chars [c] more
  | none => .gap 0

/-- What follows from the second byte, if there is one. -/
def withSecond (bs : Bytes) (read : Nat → Reading α) : Reading α :=
  match bs with
  | [] => .unfinished
  | b :: _ => read b.toNat

end Reading

/-- How the reading of a text ends. -/
inductive Ending where
  | whole
  /-- So many bytes are the start of something. -/
  | unfinished (left : Nat)
  | stuck
deriving DecidableEq, Repr

/-- Reads a text by a rule after what is read already, which is in reverse. -/
def readOn {α σ : Type} (rule : σ → UInt8 → Bytes → Reading α × σ) (s : σ)
    (done : List (Option α)) : Bytes → List (Option α) × Ending
  | [] => (done.reverse, .whole)
  | b :: bs =>
    match rule s b bs with
    | (.chars cs more, s) => readOn rule s ((cs.map some).reverse ++ done) (bs.drop more)
    | (.gap more, s) => readOn rule s (none :: done) (bs.drop more)
    | (.unfinished, _) => (done.reverse, .unfinished (bs.length + 1))
    | (.stuck, _) => (done.reverse, .stuck)
termination_by bs => bs.length
decreasing_by all_goals simp only [List.length_drop, List.length_cons]; omega

/-- Reads a text by a rule that has no state. -/
def readBy {α : Type} (rule : UInt8 → Bytes → Reading α) (bs : Bytes) :
    List (Option α) × Ending :=
  readOn (fun (_ : Unit) b bs ↦ (rule b bs, ())) () [] bs

end InstanceCatalog.Text.Charset
