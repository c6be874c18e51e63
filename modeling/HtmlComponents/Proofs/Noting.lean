import HtmlComponents.Proofs.Run

/-!
# Taking notes of a render

What a render leaves behind does not tell how it went. The hidden state that is left is one
of many that there were, and the error that is answered does not say which leaf it comes
from. `Component.renderNoted` renders, and takes notes meanwhile: of the leaves that it comes
to, of the composing components that it expands, with the circumstances of each, and of the
leaves that fail. Taking notes changes nothing (`parallel_renderNoted`), so what the notes
tell is told of rendering.

`renderNoted_along` is the one induction over renders with notes: a relation goes along with
them if it goes along with drawing, with notes, and with each expansion.
-/

namespace HtmlComponents

open HtmlComponents.Markup HtmlComponents.Element

variable {κ σ : Type} [KeyFamily κ]

/-! ## Notes -/

/-- A composing component as a render comes to it. -/
structure Occurrence (κ σ : Type) [KeyFamily κ] where
  name : String
  environment : Environment κ → σ → Environment κ × σ
  body : Environment κ → σ → Component κ σ
  advance : Environment κ → σ → σ
  /-- The environment around the component. -/
  around : Environment κ
  /-- The hidden state that is found. -/
  found : σ
  /-- The number that the next node gets. -/
  next : NodeId

namespace Occurrence

variable (occurrence : Occurrence κ σ)

/-- The environment that the component derives. -/
def derived : Environment κ := (occurrence.environment occurrence.around occurrence.found).1

/-- The hidden state that deriving the environment leaves, and making the body finds. -/
def between : σ := (occurrence.environment occurrence.around occurrence.found).2

/-- The body that is made. -/
def expansion : Component κ σ := occurrence.body occurrence.derived occurrence.between

/-- The hidden state that making the body leaves. -/
def left : σ := occurrence.advance occurrence.derived occurrence.between

end Occurrence

/-- A note of a render. -/
inductive Note (κ σ : Type) [KeyFamily κ] where
  /-- A leaf begins to draw. -/
  | leaf (componentType : String)
  /-- A composing component is expanded. -/
  | expand (occurrence : Occurrence κ σ)
  /-- A leaf has failed. -/
  | failed (componentType : String) (error : RenderError)

namespace Note

def occurrence? : Note κ σ → Option (Occurrence κ σ)
  | expand occurrence => some occurrence
  | leaf _ | failed _ _ => none

def error? : Note κ σ → Option RenderError
  | failed _ error => some error
  | leaf _ | expand _ => none

end Note

/-- The composing components that are expanded, in order. -/
def occurrences (notes : List (Note κ σ)) : List (Occurrence κ σ) :=
  notes.filterMap Note.occurrence?

/-- The hidden state after composing components were expanded. -/
def hiddenAfter (state : σ) (expanded : List (Occurrence κ σ)) : σ :=
  expanded.foldl (fun _ occurrence => occurrence.left) state

/-- Each of the composing components finds the hidden state that the one before it has left,
and the first one finds the given state. -/
def Threads (state : σ) : List (Occurrence κ σ) → Prop
  | [] => True
  | occurrence :: rest => occurrence.found = state ∧ Threads occurrence.left rest

/-! ## Rendering with notes -/

/-- A stage, and the notes that were taken until now. -/
structure Noted (κ σ : Type) [KeyFamily κ] where
  stage : Stage σ
  notes : List (Note κ σ)

/-- The stage after an expansion, and the note of it. -/
def Noted.expanded (noted : Noted κ σ) (occurrence : Occurrence κ σ) : Noted κ σ :=
  ⟨noted.stage.expanded occurrence.name occurrence.left, noted.notes ++ [.expand occurrence]⟩

/-- A step of a render with notes. -/
abbrev Noting (κ σ : Type) [KeyFamily κ] := ExceptT RenderError (StateM (Noted κ σ))

namespace Noting

variable {α : Type}

/-- A step of which nothing is noted. -/
def silent (step : Rendering σ α) : Noting κ σ α := fun noted =>
  let (answer, after) := step noted.stage
  (answer, { noted with stage := after })

/-- A step whose error is an answer like any other. -/
def attempt (step : Noting κ σ α) : Noting κ σ (Except RenderError α) := fun noted =>
  let (answer, after) := step noted
  (.ok answer, after)

/-- What a leaf does, with a note before it, and one behind it if the leaf fails. -/
def leaf (componentType : String) (step : Noting κ σ Unit) : Noting κ σ Unit := fun noted =>
  match step { noted with notes := noted.notes ++ [.leaf componentType] } with
  | (.ok (), after) => (.ok (), after)
  | (.error e, after) =>
    (.error e, { after with notes := after.notes ++ [.failed componentType e] })

/-- What a leaf does that draws an element with the attributes of a table, and goes on inside. -/
def enclose (componentType tag : String) (fields : List Field)
    (content : NodeId → Noting κ σ Unit) (p : NodeId) : Noting κ σ Unit :=
  leaf componentType do
    silent (Rendering.report (.renderLeaf componentType))
    let node ← silent (Rendering.draw (Drawing.build (appendElement p tag)))
    silent (Rendering.draw (Drawing.emit node fields))
    content node

/-- Expand the composing component that comes up on the stage. -/
def expand (occurrence : Stage σ → Occurrence κ σ) : Noting κ σ (Occurrence κ σ) := fun noted =>
  (.ok (occurrence noted.stage), noted.expanded (occurrence noted.stage))

end Noting

namespace Component

mutual

/-- Render a component under a node, and take notes. -/
def renderNoted (env : Environment κ) (parent : NodeId) : Component κ σ → Noting κ σ Unit
  | control c => Noting.leaf c.componentType (Noting.silent ((control c).render env parent))
  | text content => Noting.leaf "Text" (Noting.silent ((text content).render env parent))
  | division ⟨children, id, classes⟩ =>
    Noting.enclose "Div" "div" (Division.fields id classes)
      (fun node => renderAllNoted env node children) parent
  | label ⟨children, target, id, classes⟩ =>
    Noting.enclose "Label" "label" (Label.fields target id classes)
      (fun node => renderAllNoted env node children) parent
  | leaf name draw => Noting.leaf name do
    Noting.silent (Rendering.report (.renderLeaf name))
    performNoted parent [] (draw env)
  | composing name environment body advance => do
    let occurrence ← Noting.expand fun stage =>
      ⟨name, environment, body, advance, env, stage.hidden, stage.markup.nextId⟩
    renderNoted occurrence.derived parent (body occurrence.derived occurrence.between)
  | group members => renderAllNoted env parent members

def renderAllNoted (env : Environment κ) (parent : NodeId) :
    List (Component κ σ) → Noting κ σ Unit
  | [] => pure ()
  | c :: cs => do
    renderNoted env parent c
    renderAllNoted env parent cs

def performNoted (parent : NodeId) (own : List NodeId) : Program κ σ → Noting κ σ Unit
  | .done => pure ()
  | .fail error => throw error
  | .element place tag next => do
    let answer ← Noting.silent (Rendering.ask
      (Drawing.build (appendElement (place.node parent own) tag)))
    performNoted parent (own ++ answer.toOption.toList) (next (answer.map fun _ => ()))
  | .text place content next => do
    let answer ← Noting.silent (Rendering.ask
      (Drawing.build (appendText (place.node parent own) content)))
    performNoted parent (own ++ answer.toOption.toList) (next (answer.map fun _ => ()))
  | .set index name value next => do
    let node := (Place.own index).node parent own
    let answer ← Noting.silent (Rendering.ask (Drawing.build (setAttribute node name value)))
    performNoted parent own (next answer)
  | .emit index fields next => do
    let answer ← Noting.silent (Rendering.ask
      (Drawing.emit ((Place.own index).node parent own) fields))
    performNoted parent own (next answer)
  | .render place env c next => do
    let answer ← Noting.attempt (renderNoted env (place.node parent own) c)
    performNoted parent own (next answer)
  | .look next => do
    let markup ← Noting.silent Rendering.look
    performNoted parent own (next markup parent own)

end

end Component

/-! ## Taking notes changes nothing -/

/-- With notes and without, the stage is the same. -/
def SameStage (noted : Noted κ σ) (stage : Stage σ) : Prop := noted.stage = stage

section SameStage

variable {α β : Type}

theorem parallel_silent (step : Rendering σ α) :
    Parallel (SameStage (κ := κ)) Eq (Noting.silent step) step := by
  rintro ⟨stage, notes⟩ _ rfl
  rw [Noting.silent]
  rcases step stage with ⟨_ | _, after⟩
  · exact ⟨.error _, rfl⟩
  · exact ⟨.ok rfl, rfl⟩

/-- A step of which nothing is noted, and whatever follows it. -/
theorem Parallel.silent (step : Rendering σ α) {next : α → Noting κ σ β}
    {next' : α → Rendering σ β} (h : ∀ a, Parallel SameStage Eq (next a) (next' a)) :
    Parallel SameStage Eq (Noting.silent step >>= next) (step >>= next') :=
  (parallel_silent step).bind fun a _ ha => ha ▸ h a

theorem Parallel.noted_attempt {x : Noting κ σ α} {y : Rendering σ α}
    (h : Parallel SameStage Eq x y) :
    Parallel SameStage Eq (Noting.attempt x) (Rendering.attempt y) := by
  intro noted stage hsame
  obtain ⟨hanswer, hafter⟩ := h noted stage hsame
  exact ⟨.ok hanswer.eq, hafter⟩

theorem Parallel.leaf {x : Noting κ σ Unit} {y : Rendering σ Unit}
    (h : Parallel SameStage Eq x y) (componentType : String) :
    Parallel SameStage Eq (Noting.leaf componentType x) y := by
  rintro ⟨stage, notes⟩ _ rfl
  have hstep := h ⟨stage, notes ++ [.leaf componentType]⟩ stage rfl
  simp only [Noting.leaf]
  rcases hx : x ⟨stage, notes ++ [.leaf componentType]⟩ with ⟨_ | _, after⟩ <;>
    rw [hx] at hstep ⊢ <;> exact hstep

theorem Parallel.noted_enclose {content : NodeId → Noting κ σ Unit}
    {content' : NodeId → Rendering σ Unit}
    (h : ∀ node, Parallel SameStage Eq (content node) (content' node))
    (componentType tag : String) (fields : List Field) (p : NodeId) :
    Parallel SameStage Eq (Noting.enclose componentType tag fields content p)
      (Rendering.report (.renderLeaf componentType) >>= fun _ => enclose tag fields content' p) :=
  .leaf (.silent _ fun _ => .silent _ fun node => .silent _ fun _ => h node) componentType

end SameStage

namespace Component

mutual

theorem parallel_renderNoted (env : Environment κ) (p : NodeId) :
    (c : Component κ σ) → Parallel SameStage Eq (c.renderNoted env p) (c.render env p)
  | .control c => by
      rw [renderNoted]
      exact (parallel_silent _).leaf _
  | .text content => by
      rw [renderNoted]
      exact (parallel_silent _).leaf _
  | .division ⟨children, id, classes⟩ => by
      rw [renderNoted, render_division]
      exact .noted_enclose (fun node => parallel_renderAllNoted env node children) _ _ _ p
  | .label ⟨children, target, id, classes⟩ => by
      rw [renderNoted, render_label]
      exact .noted_enclose (fun node => parallel_renderAllNoted env node children) _ _ _ p
  | .leaf name draw => by
      rw [renderNoted, render]
      exact .leaf (.silent _ fun _ => parallel_performNoted p [] (draw env)) _
  | .composing name environment body advance => by
      rintro ⟨stage, notes⟩ _ rfl
      rw [renderNoted, render]
      exact parallel_renderNoted (environment env stage.hidden).1 p (body _ _) _
        (stage.expanded name _) rfl
  | .group members => by
      rw [renderNoted, render]
      exact parallel_renderAllNoted env p members

theorem parallel_renderAllNoted (env : Environment κ) (p : NodeId) :
    (cs : List (Component κ σ)) →
      Parallel SameStage Eq (renderAllNoted env p cs) (renderAll env p cs)
  | [] => by
      rw [renderAllNoted, renderAll]
      exact parallel_pure rfl
  | c :: cs => by
      rw [renderAllNoted, renderAll]
      exact (parallel_renderNoted env p c).bind fun _ _ _ => parallel_renderAllNoted env p cs

theorem parallel_performNoted (p : NodeId) (own : List NodeId) :
    (program : Program κ σ) →
      Parallel SameStage Eq (performNoted p own program) (perform p own program)
  | .done => by
      rw [performNoted, perform]
      exact parallel_pure rfl
  | .fail error => by
      rw [performNoted, perform]
      exact parallel_throw error
  | .element place tag next => by
      rw [performNoted, perform]
      exact .silent _ fun answer => parallel_performNoted p _ (next (answer.map fun _ => ()))
  | .text place content next => by
      rw [performNoted, perform]
      exact .silent _ fun answer => parallel_performNoted p _ (next (answer.map fun _ => ()))
  | .set index name value next => by
      rw [performNoted, perform]
      exact .silent _ fun answer => parallel_performNoted p own (next answer)
  | .emit index fields next => by
      rw [performNoted, perform]
      exact .silent _ fun answer => parallel_performNoted p own (next answer)
  | .render place env c next => by
      rw [performNoted, perform]
      refine (parallel_renderNoted env (place.node p own) c).noted_attempt.bind fun answer _ h => ?_
      exact h ▸ parallel_performNoted p own (next answer)
  | .look next => by
      rw [performNoted, perform]
      exact .silent _ fun markup => parallel_performNoted p own (next markup p own)

end

/-- Rendering is rendering with notes and leaving them. -/
theorem render_eq_noted (env : Environment κ) (p : NodeId) (c : Component κ σ)
    (noted : Noted κ σ) :
    c.render env p noted.stage =
      ((c.renderNoted env p noted).1, (c.renderNoted env p noted).2.stage) := by
  obtain ⟨hanswer, hafter⟩ := parallel_renderNoted env p c noted noted.stage rfl
  exact Prod.ext hanswer.eq.symm hafter.symm

end Component

/-! ## What goes along with taking notes -/

mutual

/-- Every composing component that the component can come to has the property, whatever the
circumstances are. -/
inductive Component.Throughout (P : Occurrence κ σ → Prop) : Component κ σ → Prop where
  | control (c : Control) : Component.Throughout P (.control c)
  | text (content : String) : Component.Throughout P (.text content)
  | division {d : Division (Component κ σ)} (h : ∀ c ∈ d.children, Component.Throughout P c) :
      Component.Throughout P (.division d)
  | label {l : Label (Component κ σ)} (h : ∀ c ∈ l.children, Component.Throughout P c) :
      Component.Throughout P (.label l)
  | leaf {name : String} {draw : Environment κ → Program κ σ}
      (h : ∀ env, Program.Throughout P (draw env)) : Component.Throughout P (.leaf name draw)
  | composing {name : String} {environment : Environment κ → σ → Environment κ × σ}
      {body : Environment κ → σ → Component κ σ} {advance : Environment κ → σ → σ}
      (hself : ∀ around found next, P ⟨name, environment, body, advance, around, found, next⟩)
      (hbody : ∀ env state, Component.Throughout P (body env state)) :
      Component.Throughout P (.composing name environment body advance)
  | group {members : List (Component κ σ)} (h : ∀ c ∈ members, Component.Throughout P c) :
      Component.Throughout P (.group members)

inductive Program.Throughout (P : Occurrence κ σ → Prop) : Program κ σ → Prop where
  | done : Program.Throughout P .done
  | fail (error : RenderError) : Program.Throughout P (.fail error)
  | element {place : Place} {tag : String} {next : Except Markup.Error Unit → Program κ σ}
      (h : ∀ answer, Program.Throughout P (next answer)) :
      Program.Throughout P (.element place tag next)
  | text {place : Place} {content : String} {next : Except Markup.Error Unit → Program κ σ}
      (h : ∀ answer, Program.Throughout P (next answer)) :
      Program.Throughout P (.text place content next)
  | set {index : Nat} {name : String} {value : Option String}
      {next : Except Markup.Error Unit → Program κ σ}
      (h : ∀ answer, Program.Throughout P (next answer)) :
      Program.Throughout P (.set index name value next)
  | emit {index : Nat} {fields : List Field} {next : Except Markup.Error Unit → Program κ σ}
      (h : ∀ answer, Program.Throughout P (next answer)) :
      Program.Throughout P (.emit index fields next)
  | render {place : Place} {env : Environment κ} {c : Component κ σ}
      {next : Except RenderError Unit → Program κ σ} (hc : Component.Throughout P c)
      (h : ∀ answer, Program.Throughout P (next answer)) :
      Program.Throughout P (.render place env c next)
  | look {next : Markup → NodeId → List NodeId → Program κ σ}
      (h : ∀ m p own, Program.Throughout P (next m p own)) : Program.Throughout P (.look next)

end

/-- The relation goes along with drawing, with notes that are not of expansions, and with
expansions of composing components that have the property, if it goes along with what follows
of their bodies. -/
structure NotesAlong (P : Occurrence κ σ → Prop) (rel : Noted κ σ → Noted κ σ → Prop) : Prop where
  drawing : ∀ notes, GoesAlong fun a b : Stage σ => rel ⟨a, notes⟩ ⟨b, notes⟩
  trans : ∀ a b c, rel a b → rel b c → rel a c
  jotted : ∀ stage notes note, note.occurrence? = none →
    rel ⟨stage, notes⟩ ⟨stage, notes ++ [note]⟩
  expanded : ∀ (noted : Noted κ σ) (occurrence : Occurrence κ σ) (p : NodeId), P occurrence →
    occurrence.found = noted.stage.hidden → occurrence.next = noted.stage.markup.nextId →
    Moves rel (occurrence.expansion.renderNoted occurrence.derived p) →
    rel noted (occurrence.expansion.renderNoted occurrence.derived p (noted.expanded occurrence)).2

section NotesAlong

variable {α : Type} {P : Occurrence κ σ → Prop} {rel : Noted κ σ → Noted κ σ → Prop}

theorem Moves.silent {step : Rendering σ α}
    (h : ∀ notes, Moves (fun a b => rel ⟨a, notes⟩ ⟨b, notes⟩) step) :
    Moves rel (Noting.silent step) := fun noted => h noted.notes noted.stage

theorem Moves.noted_attempt {x : Noting κ σ α} (h : Moves rel x) :
    Moves rel (Noting.attempt x) := h

theorem NotesAlong.pure (h : NotesAlong P rel) (a : α) : Moves rel (pure a : Noting κ σ α) :=
  fun noted => (h.drawing noted.notes).refl noted.stage

theorem NotesAlong.throw (h : NotesAlong P rel) (e : RenderError) :
    Moves rel (throw e : Noting κ σ α) :=
  fun noted => (h.drawing noted.notes).refl noted.stage

theorem NotesAlong.leaf (h : NotesAlong P rel) {x : Noting κ σ Unit} (hx : Moves rel x)
    (componentType : String) : Moves rel (Noting.leaf componentType x) := by
  intro noted
  have hbegun := h.trans _ _ _ (h.jotted noted.stage noted.notes (.leaf componentType) rfl) (hx _)
  simp only [Noting.leaf]
  rcases hstep : x { noted with notes := noted.notes ++ [.leaf componentType] } with
    ⟨_ | _, after⟩ <;> rw [hstep] at hbegun
  · exact h.trans _ _ _ hbegun (h.jotted after.stage after.notes _ rfl)
  · exact hbegun

theorem NotesAlong.enclose (h : NotesAlong P rel) {content : NodeId → Noting κ σ Unit}
    (hcontent : ∀ node, Moves rel (content node)) (componentType tag : String)
    (fields : List Field) (p : NodeId) :
    Moves rel (Noting.enclose componentType tag fields content p) :=
  h.leaf ((Moves.silent fun notes => (h.drawing notes).report rfl).bind h.trans fun _ =>
    (Moves.silent fun notes => ((h.drawing notes).appendElement p tag).draw).bind h.trans
      fun node => (Moves.silent fun notes => ((h.drawing notes).emit node fields).draw).bind
        h.trans fun _ => hcontent node) componentType

namespace Component

variable (h : NotesAlong P rel)

include h

mutual

/-- What goes along with everything that is done and noted at a time goes along with renders. -/
theorem renderNoted_along (env : Environment κ) (p : NodeId) :
    (c : Component κ σ) → c.Throughout P → Moves rel (c.renderNoted env p)
  | .control c, _ => by
      rw [renderNoted]
      exact h.leaf (.silent fun notes => (h.drawing notes).control env p c) _
  | .text content, _ => by
      rw [renderNoted]
      exact h.leaf (.silent fun notes => (h.drawing notes).text env p content) _
  | .division ⟨children, id, classes⟩, hc => by
      cases hc with
      | division hc =>
          rw [renderNoted]
          exact h.enclose (fun node => renderAllNoted_along env node children hc) _ _ _ p
  | .label ⟨children, target, id, classes⟩, hc => by
      cases hc with
      | label hc =>
          rw [renderNoted]
          exact h.enclose (fun node => renderAllNoted_along env node children hc) _ _ _ p
  | .leaf name draw, hc => by
      cases hc with
      | leaf hc =>
          rw [renderNoted]
          exact h.leaf ((Moves.silent fun notes => (h.drawing notes).report rfl).bind h.trans
            fun _ => performNoted_along p [] (draw env) (hc env)) _
  | .composing name environment body advance, hc => by
      cases hc with
      | composing hself hbody =>
          intro noted
          rw [renderNoted]
          exact h.expanded noted ⟨name, environment, body, advance, env, noted.stage.hidden,
            noted.stage.markup.nextId⟩ p (hself _ _ _) rfl rfl
            (renderNoted_along _ p (body _ _) (hbody _ _))
  | .group members, hc => by
      cases hc with
      | group hc =>
          rw [renderNoted]
          exact renderAllNoted_along env p members hc

theorem renderAllNoted_along (env : Environment κ) (p : NodeId) :
    (cs : List (Component κ σ)) → (∀ c ∈ cs, c.Throughout P) →
      Moves rel (renderAllNoted env p cs)
  | [], _ => by
      rw [renderAllNoted]
      exact h.pure ()
  | c :: cs, hc => by
      rw [renderAllNoted]
      exact (renderNoted_along env p c (hc c List.mem_cons_self)).bind h.trans fun _ =>
        renderAllNoted_along env p cs fun d hd => hc d (List.mem_cons_of_mem c hd)

theorem performNoted_along (p : NodeId) (own : List NodeId) :
    (program : Program κ σ) → program.Throughout P → Moves rel (performNoted p own program)
  | .done, _ => by
      rw [performNoted]
      exact h.pure ()
  | .fail error, _ => by
      rw [performNoted]
      exact h.throw error
  | .element place tag next, hprogram => by
      cases hprogram with
      | element hnext =>
          rw [performNoted]
          exact (Moves.silent fun notes => ((h.drawing notes).appendElement _ tag).ask).bind h.trans
            fun answer => performNoted_along p _ (next _) (hnext _)
  | .text place content next, hprogram => by
      cases hprogram with
      | text hnext =>
          rw [performNoted]
          exact (Moves.silent fun notes =>
            ((h.drawing notes).appendText _ content).ask).bind h.trans
            fun answer => performNoted_along p _ (next _) (hnext _)
  | .set index name value next, hprogram => by
      cases hprogram with
      | set hnext =>
          rw [performNoted]
          exact (Moves.silent fun notes =>
            ((h.drawing notes).setAttribute _ name value).ask).bind h.trans
            fun answer => performNoted_along p own (next answer) (hnext answer)
  | .emit index fields next, hprogram => by
      cases hprogram with
      | emit hnext =>
          rw [performNoted]
          exact (Moves.silent fun notes => ((h.drawing notes).emit _ fields).ask).bind h.trans
            fun answer => performNoted_along p own (next answer) (hnext answer)
  | .render place env c next, hprogram => by
      cases hprogram with
      | render hc hnext =>
          rw [performNoted]
          exact (renderNoted_along env _ c hc).noted_attempt.bind h.trans fun answer =>
            performNoted_along p own (next answer) (hnext answer)
  | .look next, hprogram => by
      cases hprogram with
      | look hnext =>
          rw [performNoted]
          exact Moves.bind h.trans (fun noted => (h.drawing noted.notes).refl noted.stage)
            fun markup => performNoted_along p own (next markup p own) (hnext markup p own)

end

end Component

end NotesAlong

end HtmlComponents
