import HtmlComponents.Drawing
import HtmlComponents.Text.Outline

/-!
# Radio buttons

One button of a group that shares a name, of which one at a time is chosen.
-/

namespace HtmlComponents.Element

open HtmlComponents.Text

/-- A radio button. -/
structure Radio where
  name : Option String := none
  value : Option String := none
  id : Option String := none
  checked : Bool := false
  required : Bool := false
  autofocus : Bool := false
  disabled : Bool := false
  deriving DecidableEq

namespace Radio

/-- What can be set on a radio button. -/
inductive Setting where
  | name (text : String)
  | value (text : String)
  | id (text : String)
  | checked (on : Bool)
  | required (on : Bool)
  | autofocus (on : Bool)
  | disabled (on : Bool)
  deriving DecidableEq

/-- Set one thing; what was set before in its place is forgotten. -/
def set (radio : Radio) : Setting → Radio
  | .name text => { radio with name := some text }
  | .value text => { radio with value := some text }
  | .id text => { radio with id := some text }
  | .checked on => { radio with checked := on }
  | .required on => { radio with required := on }
  | .autofocus on => { radio with autofocus := on }
  | .disabled on => { radio with disabled := on }

/-- The radio button on which the settings were made in order. -/
def ofSettings (settings : List Setting) : Radio := settings.foldl set {}

/-- The attributes after the type, in their order. A control is disabled by
itself or by the form around it. -/
def fields (radio : Radio) (formDisabled : Bool) : List Field :=
  [.text "name" radio.name,
    .text "value" radio.value,
    .text "id" radio.id,
    .flag "checked" radio.checked,
    .flag "required" radio.required,
    .flag "autofocus" radio.autofocus,
    .flag "disabled" (radio.disabled || formDisabled)]

def outline (radio : Radio) : Outline :=
  .record "Radio"
    [("name", .ofText? radio.name),
      ("value", .ofText? radio.value),
      ("id", .ofText? radio.id),
      ("checked", .ofBool radio.checked),
      ("required", .ofBool radio.required),
      ("autofocus", .ofBool radio.autofocus),
      ("disabled", .ofBool radio.disabled)]

end Radio

end HtmlComponents.Element
