import HtmlComponents.Proofs.Inheritance
import HtmlComponents.Proofs.Run

/-!
# Components that only ask

The code in a component is given an environment whole, and could tell two environments
apart that answer every question alike. A component that only asks for values, and whether
keys are set, cannot. Neither can it know which hidden state it finds, if its bodies do not
look at it.

What code does with what it is given is said by comparing it with itself. `Congruent`
relates two components that are written alike, except that the code in them was given
indistinct environments and any hidden states: from such environments code must make
related things again, indistinct environments and related components. A component is
`Steady` if it is congruent to itself. That covers what hides in code, such as a body that
keeps an environment to render something in it later. What a leaf does next may depend on the
tree and on the answers that it gets; the programs of two leaves are related tree by tree and
answer by answer.

`Congruent.likewise` says that rendering respects this: in indistinct environments related
components answer alike and leave the same tree. Reports and hidden states may differ,
since a wrapper more or less is reported.
-/

namespace HtmlComponents

open HtmlComponents.Markup HtmlComponents.Element

/-! ## Renders that come to the same tree -/

section Likewise

variable {σ α β : Type}

/-- Found with the same tree, the stages are left with the same tree and the same answer,
whatever was reported and whatever state is hidden. -/
def Likewise (x y : Rendering σ α) : Prop :=
  Parallel (fun stage stage' => stage.markup = stage'.markup) Eq x y

theorem Likewise.symm {x y : Rendering σ α} (h : Likewise x y) : Likewise y x := by
  intro stage stage' hmarkup
  obtain ⟨hanswer, hafter⟩ := h stage' stage hmarkup.symm
  rw [hanswer.eq]
  refine ⟨?_, hafter.symm⟩
  cases (y stage).1 with
  | ok a => exact .ok rfl
  | error e => exact .error e

theorem Likewise.trans {x y z : Rendering σ α} (hxy : Likewise x y) (hyz : Likewise y z) :
    Likewise x z := by
  intro stage stage' hmarkup
  obtain ⟨hanswer, hafter⟩ := hxy stage stage' hmarkup
  obtain ⟨hanswer', hafter'⟩ := hyz stage' stage' rfl
  rw [hanswer.eq]
  exact ⟨hanswer', hafter.trans hafter'⟩

theorem Likewise.bind {x y : Rendering σ α} {f g : α → Rendering σ β} (hxy : Likewise x y)
    (hfg : ∀ a, Likewise (f a) (g a)) : Likewise (x >>= f) (y >>= g) :=
  Parallel.bind hxy fun a _ heq => heq ▸ hfg a

theorem likewise_pure (a : α) : Likewise (pure a : Rendering σ α) (pure a) := parallel_pure rfl

theorem likewise_throw (e : RenderError) : Likewise (throw e : Rendering σ α) (throw e) :=
  parallel_throw e

/-- What a step of drawing does to a tree does not depend on what was reported before. -/
def Unreporting (step : Drawing α) : Prop :=
  Parallel (OnCanvas Eq) Eq step step

theorem unreporting_build (step : Construction α) : Unreporting (Drawing.build step) := by
  refine Parallel.build fun m m' hm => ?_
  cases hm
  refine ⟨?_, rfl⟩
  cases (step m).1 with
  | ok a => exact .ok rfl
  | error e => exact .error e

theorem unreporting_emit (node : NodeId) (fields : List Field) :
    Unreporting (Drawing.emit node fields) := by
  induction fields with
  | nil => exact parallel_pure rfl
  | cons field fields ih =>
      rw [Drawing.emit]
      split
      · exact ih
      · rw [Drawing.emitAttribute]
        exact ((Drawing.parallel_report _).bind fun _ _ _ => unreporting_build _).bind
          fun _ _ _ => ih

theorem Unreporting.likewise {step : Drawing α} (h : Unreporting step) :
    Likewise (Rendering.draw step : Rendering σ α) (Rendering.draw step) := by
  intro stage stage' hmarkup
  obtain ⟨hanswer, hafter⟩ := h stage.canvas stage'.canvas hmarkup
  exact ⟨hanswer.mapError RenderError.markup, hafter⟩

theorem Unreporting.likewise_ask {step : Drawing α} (h : Unreporting step) :
    Likewise (Rendering.ask step : Rendering σ _) (Rendering.ask step) := by
  intro stage stage' hmarkup
  obtain ⟨hanswer, hafter⟩ := h stage.canvas stage'.canvas hmarkup
  exact ⟨.ok hanswer.eq, hafter⟩

theorem Likewise.attempt {x y : Rendering σ α} (h : Likewise x y) :
    Likewise (Rendering.attempt x) (Rendering.attempt y) := by
  intro stage stage' hmarkup
  obtain ⟨hanswer, hafter⟩ := h stage stage' hmarkup
  exact ⟨.ok hanswer.eq, hafter⟩

namespace Rendering

theorem likewise_look : Likewise (look : Rendering σ Markup) look :=
  fun _ _ hmarkup => ⟨.ok hmarkup, hmarkup⟩

theorem likewise_report (event event' : RenderEvent) :
    Likewise (report event : Rendering σ Unit) (report event') :=
  fun _ _ hmarkup => ⟨.ok rfl, hmarkup⟩

theorem likewise_enclose (tag : String) (fields : List Field)
    {content content' : NodeId → Rendering σ Unit}
    (h : ∀ node, Likewise (content node) (content' node)) (p : NodeId) :
    Likewise (enclose tag fields content p) (enclose tag fields content' p) := by
  rw [enclose, enclose]
  exact (unreporting_build _).likewise.bind fun node =>
    (unreporting_emit node fields).likewise.bind fun _ => h node

end Rendering

end Likewise

/-! ## Components that are written alike -/

section Congruent

variable {κ σ : Type} [KeyFamily κ]

mutual

/-- The components are the same, as far as asking an environment can tell. -/
inductive Component.Congruent : Component κ σ → Component κ σ → Prop where
  | control (c : Control) : Component.Congruent (.control c) (.control c)
  | text (content : String) : Component.Congruent (.text content) (.text content)
  | division {children children' : List (Component κ σ)} (id : Option String)
      (classes : List String) (h : Component.CongruentAll children children') :
      Component.Congruent (.division ⟨children, id, classes⟩) (.division ⟨children', id, classes⟩)
  | label {children children' : List (Component κ σ)} (target id : Option String)
      (classes : List String) (h : Component.CongruentAll children children') :
      Component.Congruent (.label ⟨children, target, id, classes⟩)
        (.label ⟨children', target, id, classes⟩)
  | leaf (name : String) {draw draw' : Environment κ → Program κ σ}
      (h : ∀ env env', env.Indistinct env' → Program.Congruent (draw env) (draw' env')) :
      Component.Congruent (.leaf name draw) (.leaf name draw')
  | composing (name : String) {environment environment' : Environment κ → σ → Environment κ × σ}
      {body body' : Environment κ → σ → Component κ σ} {advance advance' : Environment κ → σ → σ}
      (henvironment : ∀ env env' state state', env.Indistinct env' →
        (environment env state).1.Indistinct (environment' env' state').1)
      (hbody : ∀ env env' state state', env.Indistinct env' →
        Component.Congruent (body env state) (body' env' state')) :
      Component.Congruent (.composing name environment body advance)
        (.composing name environment' body' advance')
  | group {members members' : List (Component κ σ)} (h : Component.CongruentAll members members') :
      Component.Congruent (.group members) (.group members')

inductive Component.CongruentAll : List (Component κ σ) → List (Component κ σ) → Prop where
  | nil : Component.CongruentAll [] []
  | cons {c c' : Component κ σ} {cs cs' : List (Component κ σ)} (h : Component.Congruent c c')
      (hs : Component.CongruentAll cs cs') : Component.CongruentAll (c :: cs) (c' :: cs')

/-- The programs do the same, and they go on in such a way whatever they are answered. -/
inductive Program.Congruent : Program κ σ → Program κ σ → Prop where
  | done : Program.Congruent .done .done
  | fail (error : RenderError) : Program.Congruent (.fail error) (.fail error)
  | element (place : Place) (tag : String) {next next' : Except Markup.Error Unit → Program κ σ}
      (h : ∀ answer, Program.Congruent (next answer) (next' answer)) :
      Program.Congruent (.element place tag next) (.element place tag next')
  | text (place : Place) (content : String)
      {next next' : Except Markup.Error Unit → Program κ σ}
      (h : ∀ answer, Program.Congruent (next answer) (next' answer)) :
      Program.Congruent (.text place content next) (.text place content next')
  | set (index : Nat) (name : String) (value : Option String)
      {next next' : Except Markup.Error Unit → Program κ σ}
      (h : ∀ answer, Program.Congruent (next answer) (next' answer)) :
      Program.Congruent (.set index name value next) (.set index name value next')
  | emit (index : Nat) (fields : List Field)
      {next next' : Except Markup.Error Unit → Program κ σ}
      (h : ∀ answer, Program.Congruent (next answer) (next' answer)) :
      Program.Congruent (.emit index fields next) (.emit index fields next')
  | render (place : Place) {env env' : Environment κ} {c c' : Component κ σ}
      {next next' : Except RenderError Unit → Program κ σ} (henv : env.Indistinct env')
      (hc : Component.Congruent c c')
      (h : ∀ answer, Program.Congruent (next answer) (next' answer)) :
      Program.Congruent (.render place env c next) (.render place env' c' next')
  | look {next next' : Markup → NodeId → List NodeId → Program κ σ}
      (h : ∀ m p own, Program.Congruent (next m p own) (next' m p own)) :
      Program.Congruent (.look next) (.look next')

end

end Congruent

namespace Component

variable {κ σ : Type} [KeyFamily κ]

/-- The component sees its environment by asking alone, and its bodies do not depend on
hidden state. -/
def Steady (c : Component κ σ) : Prop := Congruent c c

theorem congruentAll_of_steady {cs : List (Component κ σ)} (h : ∀ c ∈ cs, c.Steady) :
    CongruentAll cs cs := by
  induction cs with
  | nil => exact .nil
  | cons c cs ih =>
      exact .cons (h c List.mem_cons_self) (ih fun d hd => h d (List.mem_cons_of_mem c hd))

theorem Steady.withOverrides {c : Component κ σ} (h : c.Steady) (batch : Overrides κ) :
    (c.withOverrides batch).Steady :=
  .composing _ (fun _ _ _ _ henv => henv.derive batch) fun _ _ _ _ _ => h

end Component

/-! ## Rendering what is written alike -/

section Likewise

open Component Rendering

variable {κ σ : Type} [KeyFamily κ]

mutual

/-- Components that are written alike come to the same, wherever they are rendered. -/
theorem Component.Congruent.likewise {env env' : Environment κ} (henv : env.Indistinct env')
    (p : NodeId) {c c' : Component κ σ} (h : c.Congruent c') :
    Likewise (c.render env p) (c'.render env' p) := by
  match h with
  | .control c =>
      rw [render_control, render_control, henv.formDisabled]
      exact (likewise_report _ _).bind fun _ =>
        likewise_enclose _ _ (fun _ => likewise_pure ()) p
  | .text content =>
      rw [render, render]
      exact (likewise_report _ _).bind fun _ =>
        (unreporting_build _).likewise.bind fun _ => likewise_pure ()
  | .division id classes h =>
      rw [render_division, render_division]
      exact (likewise_report _ _).bind fun _ =>
        likewise_enclose _ _ (fun node => Component.CongruentAll.likewise henv node h) p
  | .label target id classes h =>
      rw [render_label, render_label]
      exact (likewise_report _ _).bind fun _ =>
        likewise_enclose _ _ (fun node => Component.CongruentAll.likewise henv node h) p
  | .leaf name h =>
      rw [render, render]
      exact (likewise_report _ _).bind fun _ => Program.Congruent.likewise p [] (h env env' henv)
  | .composing name henvironment hbody =>
      -- what the deriving and the body find hidden may differ
      intro stage stage' hmarkup
      rw [render, render]
      have hderived := henvironment env env' stage.hidden stage'.hidden henv
      exact Component.Congruent.likewise hderived p (hbody _ _ _ _ hderived) (stage.expanded name _)
        (stage'.expanded name _) hmarkup
  | .group h =>
      rw [render, render]
      exact Component.CongruentAll.likewise henv p h

theorem Component.CongruentAll.likewise {env env' : Environment κ} (henv : env.Indistinct env')
    (p : NodeId) {cs cs' : List (Component κ σ)} (h : CongruentAll cs cs') :
    Likewise (renderAll env p cs) (renderAll env' p cs') := by
  match h with
  | .nil =>
      rw [renderAll, renderAll]
      exact likewise_pure ()
  | .cons h hs =>
      rw [renderAll, renderAll]
      exact (Component.Congruent.likewise henv p h).bind fun _ =>
        Component.CongruentAll.likewise henv p hs

theorem Program.Congruent.likewise (p : NodeId) (own : List NodeId)
    {program program' : Program κ σ} (h : Program.Congruent program program') :
    Likewise (perform p own program) (perform p own program') := by
  match h with
  | .done =>
      rw [perform]
      exact likewise_pure ()
  | .fail error =>
      rw [perform]
      exact likewise_throw error
  | .element place tag h =>
      rw [perform, perform]
      exact (unreporting_build _).likewise_ask.bind fun _ => Program.Congruent.likewise p _ (h _)
  | .text place content h =>
      rw [perform, perform]
      exact (unreporting_build _).likewise_ask.bind fun _ => Program.Congruent.likewise p _ (h _)
  | .set index name value h =>
      rw [perform, perform]
      exact (unreporting_build _).likewise_ask.bind fun answer =>
        Program.Congruent.likewise p own (h answer)
  | .emit index fields h =>
      rw [perform, perform]
      exact (unreporting_emit _ fields).likewise_ask.bind fun answer =>
        Program.Congruent.likewise p own (h answer)
  | .render place henv hc h =>
      rw [perform, perform]
      exact (Component.Congruent.likewise henv _ hc).attempt.bind fun answer =>
        Program.Congruent.likewise p own (h answer)
  | .look h =>
      rw [perform, perform]
      exact likewise_look.bind fun markup => Program.Congruent.likewise p own (h markup p own)

end

theorem Component.Steady.likewise {c : Component κ σ} (hc : c.Steady) {env env' : Environment κ}
    (henv : env.Indistinct env') (p : NodeId) :
    Likewise (c.render env p) (c.render env' p) :=
  Congruent.likewise henv p hc

end Likewise

end HtmlComponents
