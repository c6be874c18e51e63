import HtmlComponents.Drawing
import HtmlComponents.Text.Outline

/-!
# Containers

The elements that hold other components: the division, which is a block of them, and
the label, which is the caption of a form control and names it by the control's id. What
a child is, is left open here, since components are made of containers among other
things.

Both bear classes. Those of an element are a list without repetitions, in the order in
which they were first added, and are written with a space between two of them.
-/

namespace HtmlComponents.Element

open HtmlComponents.Text

namespace Classes

/-- The list with one more class at its end, unless it is there already. -/
def add (classes : List String) (name : String) : List String :=
  if classes.contains name then classes else classes ++ [name]

/-- The value of the class attribute. Without classes there is no attribute. -/
def attribute? (classes : List String) : Option String :=
  if classes.isEmpty then none else some (" ".intercalate classes)

end Classes

/-- A division with its children. -/
structure Division (γ : Type) where
  children : List γ := []
  id : Option String := none
  classes : List String := []

namespace Division

variable {γ : Type}

/-- What can be set on a division or put into it. -/
inductive Setting (γ : Type) where
  | id (text : String)
  | addClass (name : String)
  | child (child : γ)
  | children (children : List γ)

/-- Set one thing or add children at the end. -/
def set (division : Division γ) : Setting γ → Division γ
  | .id text => { division with id := some text }
  | .addClass name => { division with classes := Classes.add division.classes name }
  | .child child => { division with children := division.children ++ [child] }
  | .children children => { division with children := division.children ++ children }

/-- The division on which the settings were made in order. -/
def ofSettings (settings : List (Setting γ)) : Division γ := settings.foldl set {}

def childCount (division : Division γ) : Nat := division.children.length

/-- The attributes of a division, in their order. -/
def fields (id : Option String) (classes : List String) : List Field :=
  [.text "id" id, .text "class" (Classes.attribute? classes)]

def outline (child : γ → Outline) (division : Division γ) : Outline :=
  .record "Div"
    [("children", .list (division.children.map child)),
      ("id", .ofText? division.id),
      ("classes", .ofTexts division.classes)]

end Division

/-- A label with its children. -/
structure Label (γ : Type) where
  children : List γ := []
  target : Option String := none
  id : Option String := none
  classes : List String := []

namespace Label

variable {γ : Type}

/-- What can be set on a label or put into it. -/
inductive Setting (γ : Type) where
  | target (text : String)
  | id (text : String)
  | addClass (name : String)
  | child (child : γ)

/-- Set one thing or add a child at the end. -/
def set (label : Label γ) : Setting γ → Label γ
  | .target text => { label with target := some text }
  | .id text => { label with id := some text }
  | .addClass name => { label with classes := Classes.add label.classes name }
  | .child child => { label with children := label.children ++ [child] }

/-- The label on which the settings were made in order. -/
def ofSettings (settings : List (Setting γ)) : Label γ := settings.foldl set {}

/-- The attributes of a label, in their order. -/
def fields (target id : Option String) (classes : List String) : List Field :=
  [.text "for" target, .text "id" id, .text "class" (Classes.attribute? classes)]

def outline (child : γ → Outline) (label : Label γ) : Outline :=
  .record "Label"
    [("children", .list (label.children.map child)),
      ("for_id", .ofText? label.target),
      ("id", .ofText? label.id),
      ("classes", .ofTexts label.classes)]

end Label

end HtmlComponents.Element
