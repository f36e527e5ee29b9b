import LicenseChooser.Markup.Element
import LicenseChooser.Markup.Event

/-!
Documents: one complete element and nothing left open. They are built from events with a stack of
the elements still open, each holding what stood before the point reached, in opposite order. The
first event that fails, or that completes a second top-level element, decides the error.
-/

namespace LicenseChooser.Markup

open Text

structure Document where
  root : Element
  deriving DecidableEq, Repr

/-- An open element and its content so far, last item first. -/
structure Frame where
  name : String
  attributes : List (String × String)
  before : Content

namespace Frame

/-- The element that the end tag completes. -/
def close (f : Frame) : Element := ⟨f.name, f.attributes, f.before.reverseOnto .nil⟩

def addText (f : Frame) (s : String) : Frame := { f with before := .text s f.before }

def addElement (f : Frame) (e : Element) : Frame := { f with before := .cons e f.before }

end Frame

/-- The open elements, innermost first, and the top-level element once it is complete. -/
structure Progress where
  opened : List Frame
  root : Option Element

namespace Progress

def start : Progress := ⟨[], none⟩

/-- Puts a completed element where it belongs. -/
def complete (p : Progress) (e : Element) : Except DocumentError Progress :=
  match p.opened, p.root with
  | f :: outer, root => .ok ⟨f.addElement e :: outer, root⟩
  | [], none => .ok ⟨[], some e⟩
  | [], some _ => .error (.secondRoot e.name)

/-- Character data outside the root is dropped. -/
def addText (p : Progress) (s : String) : Progress :=
  match p.opened with
  | f :: outer => { p with opened := f.addText s :: outer }
  | [] => p

def step (p : Progress) : Event → Except DocumentError Progress
  | .open name attributes => .ok { p with opened := ⟨name, attributes, .nil⟩ :: p.opened }
  | .single name attributes => p.complete ⟨name, attributes, .nil⟩
  | .close =>
      match p.opened with
      | f :: outer => complete { p with opened := outer } f.close
      | [] => .ok p
  | .text s => .ok (if allBlank s.toList then p else p.addText s)
  | .cdata s => .ok (p.addText s)
  | .aside => .ok p
  | .failed e => .error (.malformed e)

def finish (p : Progress) : Except DocumentError Document :=
  match p.opened, p.root with
  | f :: _, _ => .error (.unclosed f.name)
  | [], some root => .ok ⟨root⟩
  | [], none => .error .noRoot

end Progress

namespace Document

def ofEvents (es : List Event) : Except DocumentError Document :=
  (es.foldlM Progress.step .start).bind Progress.finish

def parse (s : String) : Except DocumentError Document := ofEvents (read s.toList)

def descendants (d : Document) : List Element := d.root.descendants

/-- The first element with this name in document order. -/
def find? (d : Document) (name : String) : Option Element :=
  d.descendants.find? (·.name == name)

/-- The children named `child` of each element named `parent`, those of an outer parent before
those of the parents inside it. -/
def select (d : Document) (parent child : String) : List Element :=
  (d.descendants.filter (·.name == parent)).flatMap (·.childrenNamed child)

end Document

end LicenseChooser.Markup
