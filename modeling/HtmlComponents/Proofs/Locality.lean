import HtmlComponents.Component.Parts
import HtmlComponents.Proofs.Shape

/-!
# Leaves that do not look around

A leaf may look at the whole tree between two calls, and what it does next may depend on
everything that it sees. Most leaves know no more than the answers to their calls, and what
stands below the nodes of their own. `Local` says that of every leaf that a component can
come to: the leaf goes on in the same way in any two trees in which its own nodes have the
same shapes below them, whatever their numbers are and whatever stands around them.

Nothing else is asked of a leaf. It may append its nodes and fill them in any order, set
attributes at any time, ignore a call that was refused, and go on after a render that has
failed.
-/

namespace HtmlComponents

open HtmlComponents.Markup

variable {κ σ : Type} [KeyFamily κ]

mutual

/-- No leaf of the component looks around. -/
inductive Component.Local : Component κ σ → Prop where
  | control (c : Element.Control) : Component.Local (.control c)
  | text (content : String) : Component.Local (.text content)
  | division {d : Element.Division (Component κ σ)} (h : ∀ c ∈ d.children, Component.Local c) :
      Component.Local (.division d)
  | label {l : Element.Label (Component κ σ)} (h : ∀ c ∈ l.children, Component.Local c) :
      Component.Local (.label l)
  | leaf {name : String} {draw : Environment κ → Program κ σ}
      (h : ∀ env, Program.Local (draw env)) : Component.Local (.leaf name draw)
  | composing {name : String} {environment : Environment κ → σ → Environment κ × σ}
      {body : Environment κ → σ → Component κ σ} {advance : Environment κ → σ → σ}
      (h : ∀ env state, Component.Local (body env state)) :
      Component.Local (.composing name environment body advance)
  | group {members : List (Component κ σ)} (h : ∀ c ∈ members, Component.Local c) :
      Component.Local (.group members)

/-- The program does not look around. -/
inductive Program.Local : Program κ σ → Prop where
  | done : Program.Local .done
  | fail (error : RenderError) : Program.Local (.fail error)
  | element {place : Place} {tag : String} {next : Except Markup.Error Unit → Program κ σ}
      (h : ∀ answer, Program.Local (next answer)) : Program.Local (.element place tag next)
  | text {place : Place} {content : String} {next : Except Markup.Error Unit → Program κ σ}
      (h : ∀ answer, Program.Local (next answer)) : Program.Local (.text place content next)
  | set {index : Nat} {name : String} {value : Option String}
      {next : Except Markup.Error Unit → Program κ σ}
      (h : ∀ answer, Program.Local (next answer)) : Program.Local (.set index name value next)
  | emit {index : Nat} {fields : List Field} {next : Except Markup.Error Unit → Program κ σ}
      (h : ∀ answer, Program.Local (next answer)) : Program.Local (.emit index fields next)
  | render {place : Place} {env : Environment κ} {c : Component κ σ}
      {next : Except RenderError Unit → Program κ σ} (hc : Component.Local c)
      (h : ∀ answer, Program.Local (next answer)) : Program.Local (.render place env c next)
  /-- What is seen of the own nodes is their shapes, and nothing else is seen. -/
  | look {next : Markup → NodeId → List NodeId → Program κ σ}
      (hsame : ∀ {m m' : Markup} {p p' : NodeId} {own own' : List NodeId}, m.WellFormed →
        m'.WellFormed → List.Forall₂ (fun id id' => m.shapes id = m'.shapes id') own own' →
        next m p own = next m' p' own')
      (h : ∀ m p own, Program.Local (next m p own)) : Program.Local (.look next)

end

/-- Every component that the stroke has rendered has the property. -/
inductive Stroke.Renders (P : Component κ σ → Prop) : Stroke κ σ → Prop where
  | element (tag : String) (attributes : List Retouch) {content : List (Stroke κ σ)}
      (h : ∀ stroke ∈ content, Renders P stroke) : Renders P (.element tag attributes content)
  | text (content : String) : Renders P (.text content)
  | render (env : Environment κ) {c : Component κ σ} (h : P c) : Renders P (.render env c)
  | fail (error : RenderError) : Renders P (.fail error)

namespace Program.Local

theorem unlessRefused {next : Program κ σ} (h : next.Local) :
    ∀ answer, (next.unlessRefused answer).Local
  | .ok () => h
  | .error e => .fail (.markup e)

theorem retouch (index : Nat) {next : Program κ σ} (h : next.Local) :
    (changes : List Retouch) → (Retouch.programs index next changes).Local
  | [] => h
  | .attribute _ _ :: changes => .set (retouch index h changes).unlessRefused
  | .emit _ :: changes => .emit (retouch index h changes).unlessRefused

mutual

theorem stroke (place : Place) (count : Nat) {next : Nat → Program κ σ}
    (hnext : ∀ count, (next count).Local) :
    (stroke : Stroke κ σ) → stroke.Renders Component.Local →
      (stroke.program place count next).Local
  | .element tag attributes content, h => by
      cases h with
      | element _ _ h =>
          rw [Stroke.program]
          exact .element ((strokes _ _ hnext content h).retouch _ _).unlessRefused
  | .text content, _ => by
      rw [Stroke.program]
      exact .text (hnext _).unlessRefused
  | .render env c, h => by
      cases h with
      | render _ h =>
          rw [Stroke.program]
          exact .render h fun
            | .ok () => hnext count
            | .error e => .fail e
  | .fail error, _ => by
      rw [Stroke.program]
      exact .fail error

theorem strokes (place : Place) (count : Nat) {next : Nat → Program κ σ}
    (hnext : ∀ count, (next count).Local) :
    (strokes : List (Stroke κ σ)) → (∀ stroke ∈ strokes, stroke.Renders Component.Local) →
      (Stroke.programs place count next strokes).Local
  | [], _ => by
      rw [Stroke.programs]
      exact hnext count
  | stroke :: strokes, h => by
      rw [Stroke.programs]
      exact Local.stroke place count
        (fun count' => Local.strokes place count' hnext strokes fun s hs =>
          h s (List.mem_cons_of_mem _ hs)) stroke (h stroke List.mem_cons_self)

end

end Program.Local

/-- A leaf that draws strokes does not look around. -/
theorem Component.Local.custom {name : String} {strokes : Environment κ → List (Stroke κ σ)}
    (h : ∀ env, ∀ stroke ∈ strokes env, stroke.Renders Component.Local) :
    (Component.custom name strokes).Local :=
  .leaf fun env => Program.Local.strokes _ _ (fun _ => .done) (strokes env) (h env)

end HtmlComponents
