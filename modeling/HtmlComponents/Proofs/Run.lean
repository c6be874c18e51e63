import HtmlComponents.Proofs.Emission

/-!
# Runs of tree operations

A tree is worked on by calls: appends of elements and texts, and attributes being
set. Drawing a table of attributes and rendering a component are programs on top
of these calls. They have no other way to the tree, and this module proves it:
whatever such a program does to a tree, it answers or fails, a list of calls does
too. So a property that every call keeps is kept by every program, and none of
the later modules looks into a render to find an invariant. The same holds of any
relation of stages that goes along with calls, reports and expansions:
`Component.moves_render` carries it from these to renders.

`Reachable` are the trees that come up at all, under calls and programs in any
order, on any node numbers, with any of them refused. By `Reachable.calls` each
of them is the outcome of a list of calls on the empty tree. `countAppends` counts
the calls of a run that append a node.
-/

namespace HtmlComponents

open HtmlComponents.Markup HtmlComponents.Element

/-! ## Calls -/

/-- A call of a tree operation. -/
inductive Call where
  | appendElement (parent : NodeId) (tag : String)
  | appendText (parent : NodeId) (content : String)
  | setAttribute (node : NodeId) (name : String) (value : Option String)

namespace Call

/-- The tree after the call. A refused call leaves a tree behind as well. -/
def run (m : Markup) : Call → Markup
  | appendElement parent tag => (Markup.appendElement parent tag m).2
  | appendText parent content => (Markup.appendText parent content m).2
  | setAttribute node name value => (Markup.setAttribute node name value m).2

/-- Whether the call is an append and is answered by a node. -/
def appends (m : Markup) : Call → Bool
  | appendElement parent tag => (Markup.appendElement parent tag m).1.isOk
  | appendText parent content => (Markup.appendText parent content m).1.isOk
  | setAttribute _ _ _ => false

end Call

namespace Markup

/-- The tree after a list of calls. -/
def runCalls (m : Markup) (calls : List Call) : Markup := calls.foldl Call.run m

/-- How many calls of a run append a node. -/
def countAppends (m : Markup) : List Call → Nat
  | [] => 0
  | call :: calls => (call.appends m).toNat + (call.run m).countAppends calls

/-- Some list of calls leads from one tree to the other. -/
def Leads (m m' : Markup) : Prop := ∃ calls, m.runCalls calls = m'

theorem Leads.refl (m : Markup) : Leads m m := ⟨[], rfl⟩

theorem Leads.trans {a b c : Markup} (hab : Leads a b) (hbc : Leads b c) : Leads a c := by
  obtain ⟨calls, rfl⟩ := hab
  obtain ⟨calls', rfl⟩ := hbc
  exact ⟨calls ++ calls', by rw [runCalls, List.foldl_append]; rfl⟩

theorem leads_call (m : Markup) (call : Call) : Leads m (call.run m) := ⟨[call], rfl⟩

/-- What every call keeps, every run keeps. -/
theorem Leads.keeps {P : Markup → Prop} (hcall : ∀ m call, P m → P (Call.run m call))
    {m m' : Markup} (h : Leads m m') (hm : P m) : P m' := by
  obtain ⟨calls, rfl⟩ := h
  induction calls generalizing m with
  | nil => exact hm
  | cons call calls ih => exact ih (hcall m call hm)

end Markup

/-! ## Programs are runs

A program works on a state that has the tree somewhere inside: a canvas or a stage. -/

section RunsCalls

variable {ε S α : Type}

/-- Whatever the program answers, some calls lead from the tree that it finds to
the tree that it leaves. -/
def RunsCalls (tree : S → Markup) (x : ExceptT ε (StateM S) α) : Prop :=
  Moves (fun s s' => Leads (tree s) (tree s')) x

end RunsCalls

theorem Drawing.runsCalls_emit (node : NodeId) (fields : List Field) :
    RunsCalls Canvas.markup (emit node fields) :=
  moves_emit (fun a b => Leads a.markup b.markup) (fun canvas => .refl canvas.markup)
    (fun _ _ _ h h' => h.trans h') (fun _ canvas => .refl canvas.markup)
    (fun name value canvas => leads_call canvas.markup (.setAttribute node name value)) fields

/-- An event that is reported of a leaf. -/
def RenderEvent.isDrawing : RenderEvent → Bool
  | renderLeaf _ | emitAttribute _ _ | emitFlag _ => true
  | renderStart _ | expandBody _ | renderComplete _ _ => false

/-- An event that is reported between the beginning and the end of a render. -/
def RenderEvent.isInner : RenderEvent → Bool
  | renderLeaf _ | expandBody _ | emitAttribute _ _ | emitFlag _ => true
  | renderStart _ | renderComplete _ _ => false

namespace Stage

variable {σ : Type}

/-- The tree on a stage. -/
def markup (stage : Stage σ) : Markup := stage.canvas.markup

/-- The stage after a report. -/
def reported (stage : Stage σ) (event : RenderEvent) : Stage σ :=
  { stage with canvas := { stage.canvas with events := stage.canvas.events.push event } }

/-- The stage after a composing component was expanded, which leaves the hidden state. -/
def expanded (stage : Stage σ) (name : String) (state : σ) : Stage σ :=
  { stage.reported (.expandBody name) with hidden := state }

/-- The stage after a call of a tree operation. -/
def called (stage : Stage σ) (call : Call) : Stage σ :=
  { stage with canvas := { stage.canvas with markup := call.run stage.canvas.markup } }

end Stage

/-- The relation goes along with everything that drawing does at a time: it reports, and it
calls tree operations. -/
structure GoesAlong {σ : Type} (rel : Stage σ → Stage σ → Prop) : Prop where
  refl : ∀ stage, rel stage stage
  trans : ∀ a b c, rel a b → rel b c → rel a c
  reported : ∀ stage event, event.isDrawing = true → rel stage (stage.reported event)
  called : ∀ stage call, rel stage (stage.called call)

/-- The relation goes along with drawing and with expansions, and so with everything that a
render does at a time. -/
structure RendersAlong {σ : Type} (rel : Stage σ → Stage σ → Prop) : Prop
    extends GoesAlong rel where
  expanded : ∀ stage name state, rel stage (stage.expanded name state)

section GoesAlong

variable {σ α β : Type} {rel : Stage σ → Stage σ → Prop}

/-- A step of drawing goes with the relation, whatever state is hidden meanwhile. -/
def DrawsAlong (rel : Stage σ → Stage σ → Prop) (step : Drawing α) : Prop :=
  ∀ state, Moves (fun a b => rel ⟨a, state⟩ ⟨b, state⟩) step

theorem DrawsAlong.draw {step : Drawing α} (h : DrawsAlong rel step) :
    Moves rel (Rendering.draw step) := fun stage => h stage.hidden stage.canvas

theorem DrawsAlong.ask {step : Drawing α} (h : DrawsAlong rel step) :
    Moves rel (Rendering.ask step) := fun stage => h stage.hidden stage.canvas

theorem Moves.attempt {x : Rendering σ α} (h : Moves rel x) : Moves rel (Rendering.attempt x) := h

namespace GoesAlong

variable (h : GoesAlong rel)

include h

theorem pure (a : α) : Moves rel (pure a : Rendering σ α) := h.refl

theorem throw (e : RenderError) : Moves rel (throw e : Rendering σ α) := h.refl

theorem report {event : RenderEvent} (hdrawing : event.isDrawing = true) :
    Moves rel (Rendering.report event) := fun stage => h.reported stage event hdrawing

theorem appendElement (p : NodeId) (tag : String) :
    DrawsAlong rel (Drawing.build (Markup.appendElement p tag)) :=
  fun state canvas => h.called ⟨canvas, state⟩ (.appendElement p tag)

theorem appendText (p : NodeId) (content : String) :
    DrawsAlong rel (Drawing.build (Markup.appendText p content)) :=
  fun state canvas => h.called ⟨canvas, state⟩ (.appendText p content)

theorem setAttribute (node : NodeId) (name : String) (value : Option String) :
    DrawsAlong rel (Drawing.build (Markup.setAttribute node name value)) :=
  fun state canvas => h.called ⟨canvas, state⟩ (.setAttribute node name value)

theorem emit (node : NodeId) (fields : List Field) : DrawsAlong rel (Drawing.emit node fields) := by
  refine fun state => Drawing.moves_emit _ (fun canvas => h.refl ⟨canvas, state⟩)
    (fun a b c => h.trans ⟨a, state⟩ ⟨b, state⟩ ⟨c, state⟩) (fun a canvas => ?_)
    (fun name value => h.setAttribute node name value state) fields
  refine h.reported ⟨canvas, state⟩ _ ?_
  rw [Drawing.attributeEvent]
  split <;> rfl

theorem enclose (tag : String) (fields : List Field) {content : NodeId → Rendering σ Unit}
    (hcontent : ∀ node, Moves rel (content node)) (p : NodeId) :
    Moves rel (enclose tag fields content p) := by
  rw [HtmlComponents.enclose]
  exact (h.appendElement p tag).draw.bind h.trans fun node =>
    (h.emit node fields).draw.bind h.trans fun _ => hcontent node

end GoesAlong

end GoesAlong

theorem GoesAlong.control {κ σ : Type} [KeyFamily κ] {rel : Stage σ → Stage σ → Prop}
    (h : GoesAlong rel) (env : Environment κ) (p : NodeId) (c : Control) :
    Moves rel ((Component.control c : Component κ σ).render env p) := by
  rw [Component.render_control]
  exact (h.report rfl).bind h.trans fun _ => h.enclose _ _ (fun _ => h.pure ()) p

theorem GoesAlong.text {κ σ : Type} [KeyFamily κ] {rel : Stage σ → Stage σ → Prop}
    (h : GoesAlong rel) (env : Environment κ) (p : NodeId) (content : String) :
    Moves rel ((Component.text content : Component κ σ).render env p) := by
  rw [Component.render]
  exact (h.report rfl).bind h.trans fun _ =>
    (h.appendText p content).draw.bind h.trans fun _ => h.pure ()

namespace Component

variable {κ σ : Type} [KeyFamily κ] {rel : Stage σ → Stage σ → Prop} (h : RendersAlong rel)

include h

mutual

/-- A relation that goes along with everything that is done at a time goes along with
renders. -/
theorem moves_render (env : Environment κ) (p : NodeId) :
    (c : Component κ σ) → Moves rel (c.render env p)
  | .control c => h.control env p c
  | .text content => h.text env p content
  | .division ⟨children, id, classes⟩ => by
      rw [render_division]
      exact (h.report rfl).bind h.trans fun _ =>
        h.enclose _ _ (fun node => moves_renderAll env node children) p
  | .label ⟨children, target, id, classes⟩ => by
      rw [render_label]
      exact (h.report rfl).bind h.trans fun _ =>
        h.enclose _ _ (fun node => moves_renderAll env node children) p
  | .leaf name draw => by
      rw [render]
      exact (h.report rfl).bind h.trans fun _ => moves_perform p [] (draw env)
  | .composing name environment body advance => by
      intro stage
      rw [render]
      exact h.trans _ _ _ (h.expanded stage name _)
        (moves_render (environment env stage.hidden).1 p (body _ _) (stage.expanded name _))
  | .group members => by
      rw [render]
      exact moves_renderAll env p members

theorem moves_renderAll (env : Environment κ) (p : NodeId) :
    (cs : List (Component κ σ)) → Moves rel (renderAll env p cs)
  | [] => by
      rw [renderAll]
      exact h.pure ()
  | c :: cs => by
      rw [renderAll]
      exact (moves_render env p c).bind h.trans fun _ => moves_renderAll env p cs

theorem moves_perform (p : NodeId) (own : List NodeId) :
    (program : Program κ σ) → Moves rel (perform p own program)
  | .done => by
      rw [perform]
      exact h.pure ()
  | .fail error => by
      rw [perform]
      exact h.throw error
  | .element place tag next => by
      rw [perform]
      exact (h.appendElement _ tag).ask.bind h.trans fun _ => moves_perform p _ (next _)
  | .text place content next => by
      rw [perform]
      exact (h.appendText _ content).ask.bind h.trans fun _ => moves_perform p _ (next _)
  | .set index name value next => by
      rw [perform]
      exact (h.setAttribute _ name value).ask.bind h.trans fun _ => moves_perform p own (next _)
  | .emit index fields next => by
      rw [perform]
      exact (h.emit _ fields).ask.bind h.trans fun _ => moves_perform p own (next _)
  | .render place env c next => by
      rw [perform]
      exact (moves_render env _ c).attempt.bind h.trans fun _ => moves_perform p own (next _)
  | .look next => by
      rw [perform]
      exact Moves.bind h.trans h.refl fun markup => moves_perform p own (next markup p own)

end

end Component

theorem rendersAlong_leads {σ : Type} :
    RendersAlong fun a b : Stage σ => Leads a.markup b.markup where
  refl stage := .refl stage.markup
  trans _ _ _ h h' := h.trans h'
  reported stage _ _ := .refl stage.markup
  called stage call := leads_call stage.markup call
  expanded stage _ _ := .refl stage.markup

theorem Component.runsCalls_render {κ σ : Type} [KeyFamily κ] (env : Environment κ)
    (parent : NodeId) (c : Component κ σ) : RunsCalls Stage.markup (c.render env parent) :=
  moves_render rendersAlong_leads env parent c

/-! ## The trees that come up -/

namespace Markup

/-- A tree that some sequence of operations, tables of attributes and renders
makes of the empty tree. Any of them may have been refused or cut short. -/
inductive Reachable : Markup → Prop where
  | empty : Reachable Markup.empty
  | call {m : Markup} (h : Reachable m) (call : Call) : Reachable (call.run m)
  | emit {m : Markup} (h : Reachable m) (node : NodeId) (fields : List Field)
      (events : Array RenderEvent) :
      Reachable (Drawing.emit node fields ⟨m, events⟩).2.markup
  | render {κ σ : Type} [KeyFamily κ] {m : Markup} (h : Reachable m)
      (env : Environment κ) (parent : NodeId) (c : Component κ σ)
      (events : Array RenderEvent) (state : σ) :
      Reachable (c.render env parent ⟨⟨m, events⟩, state⟩).2.markup

theorem Reachable.runCalls {m : Markup} (h : Reachable m) (calls : List Call) :
    Reachable (m.runCalls calls) := by
  induction calls generalizing m with
  | nil => exact h
  | cons call calls ih => exact ih (h.call call)

/-- Programs reach no more trees than calls do. -/
theorem Reachable.calls {m : Markup} (h : Reachable m) : Leads Markup.empty m := by
  induction h with
  | empty => exact Leads.refl _
  | call _ call ih => exact ih.trans (leads_call _ call)
  | emit _ node fields events ih => exact ih.trans (Drawing.runsCalls_emit node fields ⟨_, events⟩)
  | render _ env parent c events state ih =>
      exact ih.trans (c.runsCalls_render env parent ⟨⟨_, events⟩, state⟩)

end Markup

end HtmlComponents
