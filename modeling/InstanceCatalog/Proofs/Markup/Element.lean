import InstanceCatalog.Document.Search
import InstanceCatalog.Markup.Forest

/-! # What a forest holds

Elements and texts of a forest in the order of the page, at any depth, without handles. -/

namespace InstanceCatalog.Markup

/-- An element with what it holds, but not what stands beside it. -/
structure Element where
  tag : String
  attrs : List (String × String)
  children : Forest

namespace Forest

/-- All elements, each before those that it holds. -/
def elements : Forest → List Element
  | nil => []
  | element tag attrs children rest =>
    ⟨tag, attrs, children⟩ :: (elements children ++ elements rest)
  | text _ rest => elements rest
  | hidden rest => elements rest

/-- The elements of the row itself. -/
def row : Forest → List Element
  | nil => []
  | element tag attrs children rest => ⟨tag, attrs, children⟩ :: row rest
  | text _ rest => row rest
  | hidden rest => row rest

/-- All texts. -/
def leaves : Forest → List String
  | nil => []
  | element _ _ children rest => leaves children ++ leaves rest
  | text data rest => data :: leaves rest
  | hidden rest => leaves rest

end Forest

namespace Element

/-- The element and all elements that it holds. -/
def subtree (e : Element) : List Element := e :: e.children.elements

/-- Whether this is an element with a tag, which is compared in small letters. -/
def hasTag (tag : String) (e : Element) : Bool :=
  String.ofList (Text.lower e.tag.toList) == String.ofList (Text.lower tag.toList)

/-- The elements with a tag among the element and those that it holds. -/
def tagged (tag : String) (e : Element) : List Element := e.subtree.filter (hasTag tag)

/-- All text in the element on one line. -/
def text (e : Element) : String := Text.oneLine (" ".intercalate e.children.leaves)

def hasAttr (key value : String) (e : Element) : Bool := e.attrs.lookup key == some value

def classWords (e : Element) : List String :=
  (Text.words ((e.attrs.lookup "class").getD "").toList).map String.ofList

def hasClasses (wanted : List String) (e : Element) : Bool := wanted.all (e.classWords.contains ·)

section Parts

variable {tag : String} {attrs : List (String × String)} {children : Forest} {b : Bool}

/-- Only the tag of an element matters for whether it has a tag. -/
theorem hasTag_of_tag {wanted : String} (h : hasTag wanted ⟨tag, [], .nil⟩ = b) :
    hasTag wanted ⟨tag, attrs, children⟩ = b := h

/-- Only the attributes of an element matter for its classes. -/
theorem hasClasses_of_attrs {wanted : List String} (h : hasClasses wanted ⟨"", attrs, .nil⟩ = b) :
    hasClasses wanted ⟨tag, attrs, children⟩ = b := h

end Parts

end Element

/-- An element with the row after it. -/
structure Place where
  element : Element
  after : Forest

/-- The place of the first element that passes a test, then those of the elements around it, the
innermost first. -/
def Forest.trail (q : Element → Bool) : Forest → Option (List Place)
  | nil => none
  | element tag attrs children rest =>
    let here : Place := ⟨⟨tag, attrs, children⟩, rest⟩
    if q here.element then some [here]
    else match trail q children with
      | some places => some (places ++ [here])
      | none => trail q rest
  | text _ rest => trail q rest
  | hidden rest => trail q rest

/-! ## Counting elements

An element is told from the others by how many elements stand before it. -/

namespace Forest

variable {q : Element → Bool}

/-- The elements of the row itself with their numbers, if `i` elements stand before the row. -/
def rowFrom (i : Nat) : Forest → List (Nat × Element)
  | nil => []
  | element tag attrs children rest =>
    (i, ⟨tag, attrs, children⟩) :: rowFrom (i + 1 + children.elements.length) rest
  | text _ rest => rowFrom i rest
  | hidden rest => rowFrom i rest

/-- The trail to the first element that passes a test, with the numbers of its elements. -/
def trailFrom (q : Element → Bool) (i : Nat) : Forest → Option (List (Nat × Place))
  | nil => none
  | element tag attrs children rest =>
    let here : Place := ⟨⟨tag, attrs, children⟩, rest⟩
    if q here.element then some [(i, here)]
    else match trailFrom q (i + 1) children with
      | some places => some (places ++ [(i, here)])
      | none => trailFrom q (i + 1 + children.elements.length) rest
  | text _ rest => trailFrom q i rest
  | hidden rest => trailFrom q i rest

theorem map_snd_rowFrom (i : Nat) (f : Forest) : (f.rowFrom i).map Prod.snd = f.row := by
  induction f generalizing i with
  | nil => rfl
  | element t as cs rest _ ih => rw [rowFrom, List.map_cons, ih, row]
  | text s rest ih => exact ih i
  | hidden rest ih => exact ih i

theorem map_snd_trailFrom (q : Element → Bool) (i : Nat) (f : Forest) :
    (f.trailFrom q i).map (·.map Prod.snd) = f.trail q := by
  induction f generalizing i with
  | nil => rfl
  | element t as cs rest ihc ihr =>
    rw [trailFrom, trail, ← ihc (i + 1), ← ihr (i + 1 + cs.elements.length)]
    split
    · rfl
    · cases cs.trailFrom q (i + 1) with
      | none => rfl
      | some places => simp
  | text s rest ih => exact ih i
  | hidden rest ih => exact ih i

end Forest

end InstanceCatalog.Markup
