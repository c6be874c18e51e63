import HtmlComponents.Component
import HtmlComponents.Markup.Html

/-!
# Rendering components

Rendering replaces components by markup, depth first and in order. A leaf draws
under the node where it stands. A composing component derives its environment and
makes its body, each once, and the body takes its place: it is rendered under the very
same node. A group renders its members one after the other. The first error ends the
render, unless the leaf that gets it as an answer goes on, and what was drawn until then
stays drawn.
-/

namespace HtmlComponents

open HtmlComponents.Markup HtmlComponents.Element

/-- What a render works on: the canvas, and the state that components hide. -/
structure Stage (σ : Type) where
  canvas : Canvas
  hidden : σ

/-- A step of a render. The stage stays as it is when the step fails. -/
abbrev Rendering (σ : Type) := ExceptT RenderError (StateM (Stage σ))

namespace Rendering

variable {σ α : Type}

/-- A step of drawing on the canvas. -/
def draw (step : Drawing α) : Rendering σ α := fun stage =>
  let (answer, canvas) := step stage.canvas
  (answer.mapError .markup, { stage with canvas := canvas })

/-- Report an event. -/
def report (event : RenderEvent) : Rendering σ Unit := draw (Drawing.report event)

/-- A step of drawing whose refusal is an answer like any other. -/
def ask (step : Drawing α) : Rendering σ (Except Markup.Error α) := fun stage =>
  let (answer, canvas) := step stage.canvas
  (.ok answer, { stage with canvas := canvas })

/-- A step of a render whose error is an answer like any other. -/
def attempt (step : Rendering σ α) : Rendering σ (Except RenderError α) := fun stage =>
  let (answer, after) := step stage
  (.ok answer, after)

/-- The tree as it is. -/
def look : Rendering σ Markup := fun stage => (.ok stage.canvas.markup, stage)

/-- Evaluate what depends on the hidden state and may change it. -/
def evaluate (step : σ → α × σ) : Rendering σ α := fun stage =>
  let (value, state) := step stage.hidden
  (.ok value, { stage with hidden := state })

end Rendering

/-- The node at a place, for a leaf that draws under `parent` and has appended `own`. A
node that the leaf does not have is the node without number. -/
def Place.node (parent : NodeId) (own : List NodeId) : Place → NodeId
  | here => parent
  | .own index => own.getD index ⟨0⟩

namespace Component

variable {κ σ : Type} [KeyFamily κ]

mutual

/-- Render a component under a node. -/
def render (env : Environment κ) (parent : NodeId) : Component κ σ → Rendering σ Unit
  | control c => do
    Rendering.report (.renderLeaf c.componentType)
    Rendering.draw (c.draw env.formDisabled parent)
  | text content => do
    Rendering.report (.renderLeaf "Text")
    let _ ← Rendering.draw (Drawing.build (appendText parent content))
  | division ⟨children, id, classes⟩ => do
    Rendering.report (.renderLeaf "Div")
    let node ← Rendering.draw (Drawing.build (appendElement parent "div"))
    Rendering.draw (Drawing.emit node (Division.fields id classes))
    renderAll env node children
  | label ⟨children, target, id, classes⟩ => do
    Rendering.report (.renderLeaf "Label")
    let node ← Rendering.draw (Drawing.build (appendElement parent "label"))
    Rendering.draw (Drawing.emit node (Label.fields target id classes))
    renderAll env node children
  | leaf name draw => do
    Rendering.report (.renderLeaf name)
    perform parent [] (draw env)
  | composing name environment body advance => do
    Rendering.report (.expandBody name)
    let derived ← Rendering.evaluate (environment env)
    let state ← Rendering.evaluate fun state => (state, advance derived state)
    render derived parent (body derived state)
  | group members => renderAll env parent members

/-- Render components one after the other under one node. -/
def renderAll (env : Environment κ) (parent : NodeId) :
    List (Component κ σ) → Rendering σ Unit
  | [] => pure ()
  | c :: cs => do
    render env parent c
    renderAll env parent cs

/-- Carry out the program of a leaf that draws under `parent` and has appended `own`. -/
def perform (parent : NodeId) (own : List NodeId) : Program κ σ → Rendering σ Unit
  | .done => pure ()
  | .fail error => throw error
  | .element place tag next => do
    let answer ← Rendering.ask (Drawing.build (appendElement (place.node parent own) tag))
    perform parent (own ++ answer.toOption.toList) (next (answer.map fun _ => ()))
  | .text place content next => do
    let answer ← Rendering.ask (Drawing.build (appendText (place.node parent own) content))
    perform parent (own ++ answer.toOption.toList) (next (answer.map fun _ => ()))
  | .set index name value next => do
    let node := (Place.own index).node parent own
    let answer ← Rendering.ask (Drawing.build (setAttribute node name value))
    perform parent own (next answer)
  | .emit index fields next => do
    let answer ← Rendering.ask (Drawing.emit ((Place.own index).node parent own) fields)
    perform parent own (next answer)
  | .render place env c next => do
    let answer ← Rendering.attempt (render env (place.node parent own) c)
    perform parent own (next answer)
  | .look next => do
    let markup ← Rendering.look
    perform parent own (next markup parent own)

end

end Component

/-! ## Whole pages -/

variable {κ σ : Type} [KeyFamily κ]

/-- Render a page into a fresh tree. The record has its beginning, and its end if
the page could be rendered. -/
def renderPage (page : Component κ σ) (env : Environment κ) : Rendering σ Markup := do
  Rendering.report (.renderStart page.componentType)
  page.render env root
  let markup := (← get).canvas.markup
  Rendering.report (.renderComplete page.componentType markup.size)
  return markup

/-- The stage on which a page is rendered: an empty tree and an empty record. -/
def Stage.fresh (state : σ) : Stage σ := ⟨⟨Markup.empty, #[]⟩, state⟩

/-- What comes of rendering a page. -/
structure Rendered (σ : Type) where
  /-- The tree, unless an error ended the render. -/
  result : Except RenderError Markup
  events : List RenderEvent
  /-- The hidden state that the render leaves behind. -/
  hidden : σ

/-- Render a page on a fresh stage. -/
def renderFresh (page : Component κ σ) (env : Environment κ) (state : σ) : Rendered σ :=
  let (result, stage) := (renderPage page env).run (Stage.fresh state)
  ⟨result, stage.canvas.events.toList, stage.hidden⟩

/-- The text of a rendered page. -/
def Rendered.html {σ : Type} (rendered : Rendered σ) (options : HtmlOptions) :
    Except RenderError String :=
  rendered.result.map fun markup => markup.toHtml options

end HtmlComponents
