import HtmlComponents.Drawing
import HtmlComponents.Text.Outline

/-!
# Checkboxes

A box that is ticked or not, whatever the boxes around it are.
-/

namespace HtmlComponents.Element

open HtmlComponents.Text

/-- A checkbox. -/
structure Checkbox where
  name : Option String := none
  value : Option String := none
  id : Option String := none
  checked : Bool := false
  required : Bool := false
  autofocus : Bool := false
  disabled : Bool := false
  deriving DecidableEq

namespace Checkbox

/-- What can be set on a checkbox. -/
inductive Setting where
  | name (text : String)
  | value (text : String)
  | id (text : String)
  | checked (on : Bool)
  | required (on : Bool)
  | autofocus (on : Bool)
  | disabled (on : Bool)
  deriving DecidableEq

/-- Set one thing; what was set before in its place is forgotten. -/
def set (box : Checkbox) : Setting → Checkbox
  | .name text => { box with name := some text }
  | .value text => { box with value := some text }
  | .id text => { box with id := some text }
  | .checked on => { box with checked := on }
  | .required on => { box with required := on }
  | .autofocus on => { box with autofocus := on }
  | .disabled on => { box with disabled := on }

/-- The checkbox on which the settings were made in order. -/
def ofSettings (settings : List Setting) : Checkbox := settings.foldl set {}

/-- The attributes after the type, in their order. -/
def fields (box : Checkbox) (formDisabled : Bool) : List Field :=
  [.text "name" box.name,
    .text "value" box.value,
    .text "id" box.id,
    .flag "checked" box.checked,
    .flag "required" box.required,
    .flag "autofocus" box.autofocus,
    .flag "disabled" (box.disabled || formDisabled)]

def outline (box : Checkbox) : Outline :=
  .record "Checkbox"
    [("name", .ofText? box.name),
      ("value", .ofText? box.value),
      ("id", .ofText? box.id),
      ("checked", .ofBool box.checked),
      ("required", .ofBool box.required),
      ("autofocus", .ofBool box.autofocus),
      ("disabled", .ofBool box.disabled)]

end Checkbox

end HtmlComponents.Element
