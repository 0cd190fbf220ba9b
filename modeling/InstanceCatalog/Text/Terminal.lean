import InstanceCatalog.Text.Ascii

/-! # Terminal sequences

A terminal takes an escape, a bracket, parameters and a letter as an order to itself.  A text for
any other reader is written without them. -/

namespace InstanceCatalog.Text.Terminal

def isParameter (c : Char) : Bool := isAsciiDigit c || c == ';' || c == '?'

/-- The length of what follows the escape of a sequence, if a text starts with that. -/
def tail? : List Char → Option Nat
  | '[' :: s =>
    match s.dropWhile isParameter with
    | c :: _ => if isAsciiLetter c then some ((s.takeWhile isParameter).length + 2) else none
    | [] => none
  | _ => none

/-- The characters outside sequences; the next `skip` belong to a sequence. -/
def plainFrom : Nat → List Char → List Char
  | _, [] => []
  | skip + 1, _ :: s => plainFrom skip s
  | 0, c :: s =>
    match if c = '\x1b' then tail? s else none with
    | some n => plainFrom n s
    | none => c :: plainFrom 0 s

/-- A text without its terminal sequences. -/
def plain (s : String) : String := String.ofList (plainFrom 0 s.toList)

theorem plainFrom_append {s : List Char} (h : '\x1b' ∉ s) (t : List Char) :
    plainFrom 0 (s ++ t) = s ++ plainFrom 0 t := by
  induction s with
  | nil => rfl
  | cons c s ih =>
    have hc : c ≠ '\x1b' := fun hc ↦ h (hc ▸ List.mem_cons_self)
    rw [List.cons_append, plainFrom, if_neg hc, ih fun hs ↦ h (List.mem_cons_of_mem c hs)]
    rfl

/-- A start without escapes stays as it is. -/
theorem plain_append {s : String} (h : '\x1b' ∉ s.toList) (t : String) :
    plain (s ++ t) = s ++ plain t := by
  rw [plain, String.toList_append, plainFrom_append h, String.ofList_append, String.ofList_toList,
    plain]

end InstanceCatalog.Text.Terminal
