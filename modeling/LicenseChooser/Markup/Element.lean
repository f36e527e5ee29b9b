import LicenseChooser.Text.Blank

/-!
Elements and what they contain. Content is one inductive type, a sequence in which an element
carries its own content, so that structural recursion reaches every depth. The elements of a tree
are listed twice: by a loop over a list into which it puts them, and by recursion.
-/

namespace LicenseChooser.Markup

/-- What stands inside an element, in order. -/
inductive Content where
  | nil
  | text (characters : String) (rest : Content)
  | element (name : String) (attributes : List (String × String)) (inside rest : Content)
  deriving DecidableEq, Repr

/-- An element; its name and the names of its attributes are without prefix. -/
structure Element where
  name : String
  attributes : List (String × String)
  content : Content
  deriving DecidableEq, Repr

namespace Content

/-- The child elements. -/
def elements : Content → List Element
  | nil => []
  | text _ rest => rest.elements
  | element name attributes inside rest => ⟨name, attributes, inside⟩ :: rest.elements

/-- All character data, at every depth, as it was written. -/
def characters : Content → String
  | nil => ""
  | text s rest => s ++ rest.characters
  | element _ _ inside rest => inside.characters ++ rest.characters

/-- Every element at every depth in document order. -/
def preorder : Content → List Element
  | nil => []
  | text _ rest => rest.preorder
  | element name attributes inside rest =>
      ⟨name, attributes, inside⟩ :: (inside.preorder ++ rest.preorder)

/-- The number of elements at every depth. -/
def size : Content → Nat
  | nil => 0
  | text _ rest => rest.size
  | element _ _ inside rest => inside.size + 1 + rest.size

/-- The items in opposite order, followed by `after`; elements keep their own content. -/
def reverseOnto : Content → Content → Content
  | nil, after => after
  | text s rest, after => rest.reverseOnto (text s after)
  | element name attributes inside rest, after =>
      rest.reverseOnto (element name attributes inside after)

/-- Adds an element in front. -/
def cons (e : Element) (rest : Content) : Content := element e.name e.attributes e.content rest

end Content

namespace Element

/-- The value of the first attribute with this name. -/
def attribute? (e : Element) (name : String) : Option String := e.attributes.lookup name

def children (e : Element) : List Element := e.content.elements

def childrenNamed (e : Element) (name : String) : List Element :=
  e.children.filter (·.name == name)

def child? (e : Element) (name : String) : Option Element := e.children.find? (·.name == name)

def text (e : Element) : String := e.content.characters

def childText? (e : Element) (name : String) : Option String := (e.child? name).map text

/-- The number of elements in the trees of a list. -/
def total : List Element → Nat
  | [] => 0
  | e :: rest => e.content.size + 1 + total rest

theorem total_append (xs ys : List Element) : total (xs ++ ys) = total xs + total ys := by
  induction xs with
  | nil => simp [total]
  | cons e rest ih => simp only [List.cons_append, total, ih, Nat.add_assoc]

theorem total_elements (c : Content) : total c.elements = c.size := by
  induction c with
  | nil => rfl
  | text s rest ih => exact ih
  | element name attributes inside rest _ ih => simp only [Content.elements, total, Content.size, ih]

/-- A turn of the loop below: the children of the element at position `i` are put right behind it. -/
def spliceAt (out : List Element) (i : Nat) : List Element :=
  out.take (i + 1) ++ ((out[i]?.elim [] children) ++ out.drop (i + 1))

theorem drop_spliceAt {out : List Element} {i : Nat} (h : i < out.length) :
    (spliceAt out i).drop (i + 1) = out[i].children ++ out.drop (i + 1) := by
  rw [spliceAt, List.drop_left' (by rw [List.length_take]; omega), List.getElem?_eq_getElem h]
  rfl

/-- Takes turns from position `i` on. The list grows meanwhile; its end is reached when every element
in it has had its turn. -/
def splice (i : Nat) (out : List Element) : List Element :=
  if i < out.length then splice (i + 1) (spliceAt out i) else out
  termination_by total (out.drop i)
  decreasing_by
    rename_i h
    rw [drop_spliceAt h, List.drop_eq_getElem_cons h, total_append, children, total_elements, total]
    omega

/-- This element and every element below it. -/
def descendants (e : Element) : List Element := splice 0 [e]

end Element

end LicenseChooser.Markup
