import HtmlComponents.Rendering

/-!
# Steps that may fail

Building, drawing and rendering are the same kind of step: it works on a state,
answers with a value or an error, and leaves a state behind in both cases. A
composed step runs its first part, and its second part only after an answer.
That is `bind_apply`, and everything said about composed steps comes from it.

`Parallel` compares two steps that run side by side, possibly on different kinds
of states: they answer alike and keep the states related. It passes from the
parts of a composed step to the whole, so for a long program it needs to be
checked on the smallest parts only.
-/

namespace HtmlComponents

variable {ε S S' α α' β β' : Type}

theorem bind_apply (x : ExceptT ε (StateM S) α) (f : α → ExceptT ε (StateM S) β) (s : S) :
    (x >>= f) s =
      match x s with
      | (.ok a, after) => f a after
      | (.error e, after) => (.error e, after) := by
  simp only [bind, ExceptT.bind, ExceptT.mk, StateT.bind, ExceptT.bindCont]
  rcases x s with ⟨_ | _, after⟩ <;> rfl

/-- A composed step that answers a value is made of two that do. -/
theorem bind_ok {x : ExceptT ε (StateM S) α} {f : α → ExceptT ε (StateM S) β} {s after : S}
    {b : β} (h : (x >>= f) s = (.ok b, after)) :
    ∃ a mid, x s = (.ok a, mid) ∧ f a mid = (.ok b, after) := by
  rw [bind_apply] at h
  rcases hx : x s with ⟨e | a, mid⟩ <;> rw [hx] at h
  · cases h
  · exact ⟨a, mid, rfl, h⟩

/-- The step goes from every state to a related one, whether it answers or fails. -/
def Moves (rel : S → S → Prop) (x : ExceptT ε (StateM S) α) : Prop := ∀ s, rel s (x s).2

theorem Moves.bind {rel : S → S → Prop} (htrans : ∀ a b c, rel a b → rel b c → rel a c)
    {x : ExceptT ε (StateM S) α} {f : α → ExceptT ε (StateM S) β} (hx : Moves rel x)
    (hf : ∀ a, Moves rel (f a)) : Moves rel (x >>= f) := by
  intro s
  have h := hx s
  rw [bind_apply]
  rcases hstep : x s with ⟨e | a, after⟩ <;> rw [hstep] at h
  · exact h
  · exact htrans _ _ _ h (hf a after)

/-- Two answers that are the same error, or related values. -/
inductive Alike (value : α → α' → Prop) : Except ε α → Except ε α' → Prop where
  | ok {a : α} {a' : α'} (h : value a a') : Alike value (.ok a) (.ok a')
  | error (e : ε) : Alike value (.error e) (.error e)

/-- From related states the two steps answer alike and reach related states. -/
def Parallel (rel : S → S' → Prop) (value : α → α' → Prop)
    (x : ExceptT ε (StateM S) α) (y : ExceptT ε (StateM S') α') : Prop :=
  ∀ s s', rel s s' → Alike value (x s).1 (y s').1 ∧ rel (x s).2 (y s').2

section Parallel

variable {rel : S → S' → Prop} {value : α → α' → Prop} {value' : β → β' → Prop}

theorem parallel_pure {a : α} {a' : α'} (h : value a a') :
    Parallel rel value (pure a : ExceptT ε (StateM S) α)
      (pure a' : ExceptT ε (StateM S') α') :=
  fun _ _ hs => ⟨.ok h, hs⟩

theorem parallel_throw (e : ε) :
    Parallel rel value (throw e : ExceptT ε (StateM S) α)
      (throw e : ExceptT ε (StateM S') α') :=
  fun _ _ hs => ⟨.error e, hs⟩

theorem Parallel.bind {x : ExceptT ε (StateM S) α} {y : ExceptT ε (StateM S') α'}
    {f : α → ExceptT ε (StateM S) β} {g : α' → ExceptT ε (StateM S') β'}
    (hxy : Parallel rel value x y)
    (hfg : ∀ a a', value a a' → Parallel rel value' (f a) (g a')) :
    Parallel rel value' (x >>= f) (y >>= g) := by
  intro s s' hs
  obtain ⟨hanswer, hafter⟩ := hxy s s' hs
  rw [bind_apply, bind_apply]
  rcases hx : x s with ⟨answer, after⟩
  rcases hy : y s' with ⟨answer', after'⟩
  rw [hx, hy] at hanswer hafter
  cases hanswer with
  | ok h => exact hfg _ _ h after after' hafter
  | error e => exact ⟨.error e, hafter⟩

theorem Alike.mapError {ε' : Type} {x : Except ε α} {y : Except ε α'} (h : Alike value x y)
    (f : ε → ε') : Alike value (x.mapError f) (y.mapError f) := by
  cases h with
  | ok h => exact .ok h
  | error e => exact .error (f e)

theorem Alike.eq {x y : Except ε α} (h : Alike Eq x y) : x = y := by
  cases h with
  | ok h => rw [h]
  | error e => rfl

end Parallel

/-! ## Building, drawing and rendering side by side

A relation of trees is one of canvases, whatever was reported, and one of stages on
which the components hide the same state. -/

/-- The trees of the canvases are related. -/
def OnCanvas (rel : Markup → Markup → Prop) (canvas canvas' : Canvas) : Prop :=
  rel canvas.markup canvas'.markup

/-- The trees on the stages are related, and the hidden states are the same. -/
def OnStage {σ : Type} (rel : Markup → Markup → Prop) (stage stage' : Stage σ) : Prop :=
  OnCanvas rel stage.canvas stage'.canvas ∧ stage.hidden = stage'.hidden

section OnStage

variable {σ : Type} {rel : Markup → Markup → Prop} {value : α → α' → Prop}

theorem Parallel.build {x : Markup.Construction α} {y : Markup.Construction α'}
    (h : Parallel rel value x y) :
    Parallel (OnCanvas rel) value (Drawing.build x) (Drawing.build y) :=
  fun canvas canvas' hcanvas => h canvas.markup canvas'.markup hcanvas

theorem Drawing.parallel_report (event : RenderEvent) :
    Parallel (OnCanvas rel) Eq (report event) (report event) :=
  fun _ _ hcanvas => ⟨.ok rfl, hcanvas⟩

theorem Parallel.draw {x : Drawing α} {y : Drawing α'}
    (h : Parallel (OnCanvas rel) value x y) :
    Parallel (OnStage rel) value (Rendering.draw x : Rendering σ α) (Rendering.draw y) := by
  intro stage stage' ⟨hcanvas, hhidden⟩
  obtain ⟨hanswer, hafter⟩ := h stage.canvas stage'.canvas hcanvas
  exact ⟨hanswer.mapError RenderError.markup, hafter, hhidden⟩

theorem Parallel.ask {x : Drawing α} {y : Drawing α'}
    (h : Parallel (OnCanvas rel) value x y) :
    Parallel (OnStage rel) (Alike value) (Rendering.ask x : Rendering σ _) (Rendering.ask y) := by
  intro stage stage' ⟨hcanvas, hhidden⟩
  obtain ⟨hanswer, hafter⟩ := h stage.canvas stage'.canvas hcanvas
  exact ⟨.ok hanswer, hafter, hhidden⟩

theorem Parallel.attempt {x : Rendering σ α} {y : Rendering σ α'}
    (h : Parallel (OnStage rel) value x y) :
    Parallel (OnStage rel) (Alike value) (Rendering.attempt x) (Rendering.attempt y) := by
  intro stage stage' hstage
  obtain ⟨hanswer, hafter⟩ := h stage stage' hstage
  exact ⟨.ok hanswer, hafter⟩

namespace Rendering

theorem parallel_report (event : RenderEvent) :
    Parallel (OnStage rel) Eq (report event : Rendering σ Unit) (report event) :=
  (Drawing.parallel_report event).draw

theorem parallel_look : Parallel (OnStage rel) rel (look : Rendering σ Markup) look :=
  fun _ _ hstage => ⟨.ok hstage.1, hstage⟩

theorem parallel_evaluate (step : σ → α × σ) :
    Parallel (OnStage rel) Eq (evaluate step) (evaluate step) := by
  intro stage stage' ⟨hcanvas, hhidden⟩
  show Alike Eq (.ok (step stage.hidden).1) (.ok (step stage'.hidden).1) ∧ _
  rw [hhidden]
  exact ⟨.ok rfl, hcanvas, congrArg (fun state => (step state).2) hhidden⟩

end Rendering

end OnStage

/-! ## Drawing within a render, and pages -/

theorem Drawing.build_ok {step : Markup.Construction α} {canvas after : Canvas} {a : α}
    (h : build step canvas = (.ok a, after)) : step canvas.markup = (.ok a, after.markup) := by
  rw [build] at h
  rcases hstep : step canvas.markup with ⟨e | a', m⟩ <;> rw [hstep] at h <;> cases h
  rfl

namespace Rendering

variable {σ : Type}

theorem report_apply (event : RenderEvent) (m : Markup) (events : Array RenderEvent)
    (state : σ) :
    report event ⟨⟨m, events⟩, state⟩ = (.ok (), ⟨⟨m, events.push event⟩, state⟩) := rfl

theorem draw_ok {step : Drawing α} {canvas after : Canvas} {a : α}
    (h : step canvas = (.ok a, after)) (state : σ) :
    draw step ⟨canvas, state⟩ = (.ok a, ⟨after, state⟩) := by
  rw [draw, h]
  rfl

theorem draw_eq_ok {step : Drawing α} {stage after : Stage σ} {a : α}
    (h : draw step stage = (.ok a, after)) : step stage.canvas = (.ok a, after.canvas) := by
  rw [draw] at h
  rcases hstep : step stage.canvas with ⟨e | a', canvas⟩ <;> rw [hstep] at h <;> cases h
  rfl

theorem draw_bind (x : Drawing α) (f : α → Drawing β) :
    (draw (x >>= f) : Rendering σ β) = draw x >>= fun a => draw (f a) := by
  funext stage
  rw [bind_apply]
  simp only [draw]
  rw [bind_apply]
  rcases x stage.canvas with ⟨_ | _, after⟩ <;> rfl

end Rendering

/-- A leaf that gives up on a refusal draws as if the refusal had ended it. -/
theorem Rendering.ask_bind {σ : Type} (step : Drawing α)
    {next : Except Markup.Error α → Rendering σ β}
    (h : ∀ e, next (.error e) = throw (.markup e)) :
    Rendering.ask step >>= next = Rendering.draw step >>= fun a => next (.ok a) := by
  funext stage
  rw [bind_apply, bind_apply]
  simp only [ask, draw]
  rcases step stage.canvas with ⟨e | a, after⟩
  · simp only [h]
    rfl
  · rfl

theorem Rendering.attempt_bind {σ : Type} (step : Rendering σ α)
    {next : Except RenderError α → Rendering σ β} (h : ∀ e, next (.error e) = throw e) :
    Rendering.attempt step >>= next = step >>= fun a => next (.ok a) := by
  funext stage
  rw [bind_apply, bind_apply]
  simp only [attempt]
  rcases step stage with ⟨e | a, after⟩
  · simp only [h]
    rfl
  · rfl

/-- Rendering a page is rendering a component at the root, between two reports. -/
theorem renderPage_apply {κ σ : Type} [KeyFamily κ] (page : Component κ σ)
    (env : Environment κ) (m : Markup) (events : Array RenderEvent) (state : σ) :
    renderPage page env ⟨⟨m, events⟩, state⟩ =
      match page.render env Markup.root
        ⟨⟨m, events.push (.renderStart page.componentType)⟩, state⟩ with
      | (.ok (), ⟨⟨m', events'⟩, state'⟩) =>
        (.ok m', ⟨⟨m', events'.push (.renderComplete page.componentType m'.size)⟩, state'⟩)
      | (.error e, after) => (.error e, after) := by
  rw [renderPage, bind_apply, Rendering.report_apply]
  simp only []
  rw [bind_apply]
  rcases page.render env Markup.root _ with ⟨_ | _, after⟩ <;> rfl

end HtmlComponents
