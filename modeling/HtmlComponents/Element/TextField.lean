import HtmlComponents.Drawing
import HtmlComponents.Text.Outline

/-!
# Text fields

A field for one line of text.
-/

namespace HtmlComponents.Element

open HtmlComponents.Text

/-- A text field. -/
structure TextField where
  name : Option String := none
  value : Option String := none
  placeholder : Option String := none
  id : Option String := none
  required : Bool := false
  autofocus : Bool := false
  readonly : Bool := false
  disabled : Bool := false
  deriving DecidableEq

namespace TextField

/-- What can be set on a text field. -/
inductive Setting where
  | name (text : String)
  | value (text : String)
  | placeholder (text : String)
  | id (text : String)
  | required (on : Bool)
  | autofocus (on : Bool)
  | readonly (on : Bool)
  | disabled (on : Bool)
  deriving DecidableEq

/-- Set one thing; what was set before in its place is forgotten. -/
def set (field : TextField) : Setting → TextField
  | .name text => { field with name := some text }
  | .value text => { field with value := some text }
  | .placeholder text => { field with placeholder := some text }
  | .id text => { field with id := some text }
  | .required on => { field with required := on }
  | .autofocus on => { field with autofocus := on }
  | .readonly on => { field with readonly := on }
  | .disabled on => { field with disabled := on }

/-- The text field on which the settings were made in order. -/
def ofSettings (settings : List Setting) : TextField := settings.foldl set {}

/-- The attributes after the type, in their order. -/
def fields (field : TextField) (formDisabled : Bool) : List Field :=
  [.text "name" field.name,
    .text "value" field.value,
    .text "placeholder" field.placeholder,
    .text "id" field.id,
    .flag "required" field.required,
    .flag "autofocus" field.autofocus,
    .flag "readonly" field.readonly,
    .flag "disabled" (field.disabled || formDisabled)]

def outline (field : TextField) : Outline :=
  .record "TextField"
    [("name", .ofText? field.name),
      ("value", .ofText? field.value),
      ("placeholder", .ofText? field.placeholder),
      ("id", .ofText? field.id),
      ("required", .ofBool field.required),
      ("autofocus", .ofBool field.autofocus),
      ("readonly", .ofBool field.readonly),
      ("disabled", .ofBool field.disabled)]

end TextField

end HtmlComponents.Element
