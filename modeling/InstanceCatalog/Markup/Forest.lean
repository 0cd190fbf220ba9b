/-! # Markup as trees

A forest is a row of trees, given by its first tree and the row after it.  An element holds the
forest of its children. -/

namespace InstanceCatalog.Markup

inductive Forest where
  | nil
  | element (tag : String) (attrs : List (String × String)) (children rest : Forest)
  | text (data : String) (rest : Forest)
  /-- A comment or the like, which no document shows. -/
  | hidden (rest : Forest)
deriving DecidableEq, Repr

namespace Forest

/-- The trees of the first row in reverse order, before those of the second. -/
def reverseOnto : Forest → Forest → Forest
  | nil, g => g
  | element t as cs rest, g => reverseOnto rest (element t as cs g)
  | text s rest, g => reverseOnto rest (text s g)
  | hidden rest, g => reverseOnto rest (hidden g)

/-- The trees of a row in reverse order; their children keep theirs. -/
def reverse (f : Forest) : Forest := reverseOnto f nil

@[simp] theorem reverse_nil : reverse nil = nil := rfl

/-- Two rows as one. -/
def append : Forest → Forest → Forest
  | nil, g => g
  | element t as cs rest, g => element t as cs (append rest g)
  | text s rest, g => text s (append rest g)
  | hidden rest, g => hidden (append rest g)

instance : Append Forest := ⟨append⟩

@[simp] theorem nil_append (g : Forest) : nil ++ g = g := rfl
@[simp] theorem element_append (t : String) (as : List (String × String)) (cs f g : Forest) :
    element t as cs f ++ g = element t as cs (f ++ g) := rfl
@[simp] theorem text_append (s : String) (f g : Forest) : text s f ++ g = text s (f ++ g) := rfl
@[simp] theorem hidden_append (f g : Forest) : hidden f ++ g = hidden (f ++ g) := rfl

@[simp] theorem append_nil (f : Forest) : f ++ nil = f := by
  induction f <;> simp_all

theorem append_assoc (f g h : Forest) : f ++ g ++ h = f ++ (g ++ h) := by
  induction f <;> simp_all

end Forest

end InstanceCatalog.Markup
