import HtmlComponents.Markup.Arena
import HtmlComponents.Trace

/-!
# Drawing on a tree

An element describes its attributes by a table of fields in a fixed order. A
field that is unset or false leaves no trace, so the attributes that do appear
always keep the order of the table.

Drawing is building a tree and reporting it. Each attribute is reported before
it is set, so a report that is last in the record may be of the attribute that
was refused.
-/

namespace HtmlComponents

open HtmlComponents.Markup

/-- An entry of a table of attributes. -/
inductive Field where
  /-- An attribute with a value, if there is one. -/
  | text (name : String) (value : Option String)
  /-- An attribute without a value, if it is on. -/
  | flag (name : String) (on : Bool)
  deriving DecidableEq

namespace Field

/-- The attribute that the field stands for, if any. -/
def attribute? : Field → Option Attribute
  | text name value => value.map (.valued name)
  | flag name on => if on then some (.flag name) else none

/-- Whether the field becomes an attribute. -/
def isEmitted (f : Field) : Bool := f.attribute?.isSome

end Field

/-- A tree and the record of how it is being drawn. -/
structure Canvas where
  markup : Markup
  events : Array RenderEvent

/-- A step of drawing. What was drawn and reported stays when the step fails. -/
abbrev Drawing := ExceptT Markup.Error (StateM Canvas)

namespace Drawing

/-- A step of building the canvas's tree. -/
def build {α : Type} (step : Construction α) : Drawing α := fun canvas =>
  let (answer, markup) := step canvas.markup
  (answer, { canvas with markup := markup })

/-- Report an event. -/
def report (event : RenderEvent) : Drawing Unit := fun canvas =>
  (.ok (), { canvas with events := canvas.events.push event })

/-- The report of an attribute that is about to be set. -/
def attributeEvent (a : Attribute) : RenderEvent :=
  match a.value with
  | some value => .emitAttribute a.name value
  | none => .emitFlag a.name

/-- Set an attribute, after reporting it. -/
def emitAttribute (node : NodeId) (a : Attribute) : Drawing Unit := do
  report (attributeEvent a)
  build (setAttribute node a.name a.value)

/-- Set the attributes of a table in order. The first one that is refused ends it. -/
def emit (node : NodeId) : List Field → Drawing Unit
  | [] => pure ()
  | field :: fields => do
    match field.attribute? with
    | none => pure ()
    | some a => emitAttribute node a
    emit node fields

/-- Append an input of the given kind. Its type is its first attribute. -/
def appendInput (parent : NodeId) (kind : String) : Drawing NodeId := do
  let input ← build (appendElement parent "input")
  emit input [.text "type" (some kind)]
  return input

end Drawing

end HtmlComponents
