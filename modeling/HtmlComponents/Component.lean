import HtmlComponents.Element.Container
import HtmlComponents.Element.Control
import HtmlComponents.Environment

/-!
# Components

A component is what a page is written in. Leaves draw: the built-in elements, and
custom leaves, each of which brings the program by which it draws. A composing
component draws nothing; it derives an environment and stands for a body, which it
makes when it is reached. A group is its members in order.

Composing components may hide state, a counter for instance, that changes whenever one
of them derives its environment or makes its body. The state's type is a parameter, so
that a component without state is one for every type of state.

A render ends early when a leaf gives up, be it because a tree operation was refused.
-/

namespace HtmlComponents

open HtmlComponents.Element HtmlComponents.Markup HtmlComponents.Text

/-- Why a render ended early. -/
inductive RenderError where
  /-- A tree operation was refused. -/
  | markup (error : Markup.Error)
  /-- A component gave up, and says so in its own name. -/
  | component (component message : String)
  deriving DecidableEq

/-- The text that reports the error. -/
def RenderError.message : RenderError → String
  | markup error => "markup construction failed: " ++ error.message
  | component name reason => "component `" ++ name ++ "` failed to render: " ++ reason

/-- A place where a leaf can draw: the node that it is given, or one of the nodes that it
has appended, which are numbered from zero in the order of their creation. -/
inductive Place where
  | here
  | own (index : Nat)
  deriving DecidableEq

mutual

/-- What a page is written in. -/
inductive Component (κ σ : Type) [KeyFamily κ] where
  | control (control : Control)
  /-- A run of text. -/
  | text (content : String)
  | division (division : Division (Component κ σ))
  | label (label : Label (Component κ σ))
  /-- A leaf that draws by the program it chooses for the environment. -/
  | leaf (componentType : String) (draw : Environment κ → Program κ σ)
  /-- A component that stands for its body. Deriving the environment and making the body
  both see the hidden state, and may change it. -/
  | composing (componentType : String) (environment : Environment κ → σ → Environment κ × σ)
      (body : Environment κ → σ → Component κ σ) (advance : Environment κ → σ → σ)
  | group (members : List (Component κ σ))

/-- What a leaf has yet to do. It appends under the node that it is given and under nodes
of its own, and sets attributes of nodes of its own alone. Every call is answered, and a
refused one does not end the program: how it goes on is up to the leaf. -/
inductive Program (κ σ : Type) [KeyFamily κ] where
  | done
  /-- Give up. -/
  | fail (error : RenderError)
  /-- Append an element. -/
  | element (place : Place) (tag : String) (next : Except Markup.Error Unit → Program κ σ)
  /-- Append a run of text. -/
  | text (place : Place) (content : String) (next : Except Markup.Error Unit → Program κ σ)
  /-- Set an attribute, unreported. -/
  | set (index : Nat) (name : String) (value : Option String)
      (next : Except Markup.Error Unit → Program κ σ)
  /-- Set the attributes of a table. -/
  | emit (index : Nat) (fields : List Field) (next : Except Markup.Error Unit → Program κ σ)
  /-- Have a component rendered, in an environment of the leaf's choice. -/
  | render (place : Place) (env : Environment κ) (component : Component κ σ)
      (next : Except RenderError Unit → Program κ σ)
  /-- Look at the whole tree, knowing the given node and the own ones in it. -/
  | look (next : Markup → NodeId → List NodeId → Program κ σ)

end

/-! ## Leaves that draw from front to back

Most leaves never look at an answer: they draw one thing behind the other, each element
before what is inside it, and give up as soon as something is refused. What such a leaf
draws is a list of strokes. -/

/-- A change to the attributes of an element that a leaf has drawn. -/
inductive Retouch where
  /-- Set an attribute, unreported. -/
  | attribute (name : String) (value : Option String)
  /-- Set the attributes of a table. -/
  | emit (fields : List Field)
  deriving DecidableEq

/-- A thing to draw. -/
inductive Stroke (κ σ : Type) [KeyFamily κ] where
  /-- Append an element, set its attributes, and draw inside it. -/
  | element (tag : String) (attributes : List Retouch) (content : List (Stroke κ σ))
  /-- Append a run of text. -/
  | text (content : String)
  /-- Render a component in this place, in an environment of the leaf's choice. -/
  | render (env : Environment κ) (component : Component κ σ)
  /-- Give up. -/
  | fail (error : RenderError)

section Strokes

variable {κ σ : Type} [KeyFamily κ]

/-- Go on if the call was carried out, and give up otherwise. -/
def Program.unlessRefused (next : Program κ σ) : Except Markup.Error Unit → Program κ σ
  | .ok () => next
  | .error e => .fail (.markup e)

/-- Make changes to an own node, and then go on. -/
def Retouch.programs (index : Nat) (next : Program κ σ) : List Retouch → Program κ σ
  | [] => next
  | .attribute name value :: changes =>
    .set index name value (programs index next changes).unlessRefused
  | .emit fields :: changes => .emit index fields (programs index next changes).unlessRefused

namespace Stroke

mutual

/-- Draw a stroke and then go on. How many nodes of its own the leaf has so far tells it the
number of the next one. -/
def program (place : Place) (count : Nat) (next : Nat → Program κ σ) :
    Stroke κ σ → Program κ σ
  | element tag attributes content =>
    .element place tag (Retouch.programs count
      (programs (.own count) (count + 1) next content) attributes).unlessRefused
  | text content => .text place content (next (count + 1)).unlessRefused
  | render env component => .render place env component fun
    | .ok () => next count
    | .error e => .fail e
  | fail error => .fail error

def programs (place : Place) (count : Nat) (next : Nat → Program κ σ) :
    List (Stroke κ σ) → Program κ σ
  | [] => next count
  | stroke :: strokes =>
    stroke.program place count fun count' => programs place count' next strokes

end

end Stroke

/-- The leaf that draws the strokes it chooses for the environment. -/
def Component.custom (componentType : String) (strokes : Environment κ → List (Stroke κ σ)) :
    Component κ σ :=
  .leaf componentType fun env => Stroke.programs .here 0 (fun _ => .done) (strokes env)

end Strokes

namespace Component

variable {κ σ : Type} [KeyFamily κ]

/-- The component that draws nothing. -/
def empty : Component κ σ := .group []

/-- The name of the component's kind. -/
def componentType : Component κ σ → String
  | control c => c.componentType
  | text _ => "Text"
  | division _ => "Div"
  | label _ => "Label"
  | leaf name _ => name
  | composing name _ _ _ => name
  | group _ => "Group"

mutual

/-- A component is shown by its kind; a group by its members. -/
def outline : Component κ σ → Outline
  | control c => .tagged "Leaf" (.quoted c.componentType)
  | text _ => .tagged "Leaf" (.quoted "Text")
  | division _ => .tagged "Leaf" (.quoted "Div")
  | label _ => .tagged "Leaf" (.quoted "Label")
  | leaf name _ => .tagged "Leaf" (.quoted name)
  | composing name _ _ _ => .tagged "Composing" (.quoted name)
  | group members => .tagged "Group" (.list (outlines members))

def outlines : List (Component κ σ) → List Outline
  | [] => []
  | c :: cs => c.outline :: outlines cs

end

/-- A built-in element shown with everything that is set on it. -/
def elementOutline? : Component κ σ → Option Outline
  | control c => some c.outline
  | text content => some (.record "Text" [("content", .quoted content)])
  | division d => some (d.outline outline)
  | label l => some (l.outline outline)
  | leaf _ _ | composing _ _ _ _ | group _ => none

/-- The component in the environment that the batch derives from its own. -/
def withOverrides (c : Component κ σ) (batch : Overrides κ) : Component κ σ :=
  .composing "EnvironmentOverride" (fun env state => (env.derive batch, state))
    (fun _ _ => c) fun _ state => state

/-- The component in its own environment with one key set. -/
def withValue (c : Component κ σ) (key : Key κ) (value : key.Value) : Component κ σ :=
  c.withOverrides (Overrides.empty.set key value)

end Component

end HtmlComponents
