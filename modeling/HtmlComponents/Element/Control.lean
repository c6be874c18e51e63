import HtmlComponents.Element.Checkbox
import HtmlComponents.Element.Radio
import HtmlComponents.Element.TextField

/-!
# Form controls

The controls are inputs that differ in their type and their table of attributes.
Drawing one is the same for all of them.
-/

namespace HtmlComponents.Element

open HtmlComponents.Markup

/-- A form control. -/
inductive Control where
  | radio (radio : Radio)
  | checkbox (box : Checkbox)
  | textField (field : TextField)
  deriving DecidableEq

namespace Control

/-- The name of the control's kind of component. -/
def componentType : Control → String
  | radio _ => "Radio"
  | checkbox _ => "Checkbox"
  | textField _ => "TextField"

/-- The value of the input's type. -/
def inputType : Control → String
  | radio _ => "radio"
  | checkbox _ => "checkbox"
  | textField _ => "text"

/-- The attributes after the type. -/
def fields (control : Control) (formDisabled : Bool) : List Field :=
  match control with
  | radio r => r.fields formDisabled
  | checkbox b => b.fields formDisabled
  | textField f => f.fields formDisabled

def outline : Control → Text.Outline
  | radio r => r.outline
  | checkbox b => b.outline
  | textField f => f.outline

/-- Append the control's input with its attributes. -/
def draw (control : Control) (formDisabled : Bool) (parent : NodeId) : Drawing Unit := do
  let input ← Drawing.appendInput parent control.inputType
  Drawing.emit input (control.fields formDisabled)

end Control

end HtmlComponents.Element
