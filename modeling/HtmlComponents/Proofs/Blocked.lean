import HtmlComponents.Component.Parts
import HtmlComponents.Proofs.Picture
import HtmlComponents.Proofs.Refusal

/-!
# Rendering where nothing can be drawn

A node that cannot get a child refuses every leaf for the same reason, and it does so before
the leaf has done anything to the tree: every leaf begins by appending a node of its own
there. A component that never comes to a leaf asks the node for nothing. So the node is told
from any other one by the first leaf, however deep it lies in groups and composing
components, and what stands behind that leaf is not rendered.

`Spares` says that of a program: whatever was reported and whatever is hidden, it gives the
one answer and leaves the tree as it is.
-/

namespace HtmlComponents

open HtmlComponents.Markup HtmlComponents.Element

/-! ## Programs that leave the tree alone -/

section Spares

variable {σ : Type} {m : Markup} {p : NodeId} {refusal : Markup.Error}

/-- Found with the tree, the program gives the answer and leaves the tree as it is. -/
def Spares (m : Markup) (answer : Except RenderError Unit) (x : Rendering σ Unit) : Prop :=
  ∀ stage, stage.markup = m → (x stage).1 = answer ∧ (x stage).2.markup = m

theorem spares_pure (m : Markup) : Spares m (.ok ()) (pure () : Rendering σ Unit) :=
  fun _ hstage => ⟨rfl, hstage⟩

/-- What comes behind a success decides. -/
theorem Spares.andThen {x y : Rendering σ Unit} {answer : Except RenderError Unit}
    (hx : Spares m (.ok ()) x) (hy : Spares m answer y) :
    Spares m answer (x >>= fun _ => y) := by
  intro stage hstage
  obtain ⟨hanswer, hkept⟩ := hx stage hstage
  rw [bind_apply]
  rcases hstep : x stage with ⟨e | _, mid⟩ <;> rw [hstep] at hanswer hkept
  · cases hanswer
  · exact hy mid hkept

/-- What comes behind a failure does not matter. -/
theorem Spares.first {α : Type} {x : Rendering σ α} {f : α → Rendering σ Unit}
    {error : RenderError}
    (hx : ∀ stage, stage.markup = m → (x stage).1 = .error error ∧ (x stage).2.markup = m) :
    Spares m (.error error) (x >>= f) := by
  intro stage hstage
  obtain ⟨hanswer, hkept⟩ := hx stage hstage
  rw [bind_apply]
  rcases hstep : x stage with ⟨e | a, after⟩ <;> rw [hstep] at hanswer hkept
  · cases hanswer
    exact ⟨rfl, hkept⟩
  · cases hanswer

theorem Spares.report {x : Rendering σ Unit} {answer : Except RenderError Unit}
    (hx : Spares m answer x) (event : RenderEvent) :
    Spares m answer (Rendering.report event >>= fun _ => x) :=
  Spares.andThen (fun _ hstage => ⟨rfl, hstage⟩) hx

/-- Appending to a node that refuses is the whole of what is done. -/
theorem spares_append {step : Construction NodeId} (h : (step m).1 = .error refusal)
    (hkept : (step m).2 = m) (f : NodeId → Rendering σ Unit) :
    Spares m (.error (.markup refusal)) (Rendering.draw (Drawing.build step) >>= f) := by
  refine Spares.first fun stage hstage => ?_
  have hstep : step stage.canvas.markup = (.error refusal, m) := by
    rw [show stage.canvas.markup = m from hstage]
    exact Prod.ext h hkept
  rw [Rendering.draw, Drawing.build, hstep]
  exact ⟨rfl, rfl⟩

theorem spares_enclose (hp : NoChild m p refusal) {tag : String} (htag : ¬Unnameable tag)
    (fields : List Field) (content : NodeId → Rendering σ Unit) :
    Spares m (.error (.markup refusal)) (enclose tag fields content p) := by
  have h : (appendElement p tag m).1 = .error refusal :=
    appendElement_error_iff.mpr (.inr ⟨htag, hp⟩)
  exact spares_append h (appendElement_of_error h) _

theorem spares_text (hp : NoChild m p refusal) (content : String) :
    Spares m (.error (.markup refusal))
      (do
        let _ ← (Rendering.draw (Drawing.build (appendText p content)) : Rendering σ NodeId)) := by
  have h : (append p (.text content) m).1 = .error refusal := append_error_iff.mpr hp
  exact spares_append h (append_of_error h) _

end Spares

/-! ## Components -/

namespace Component

variable {κ σ : Type} [KeyFamily κ]

/-- Rendering the component in an environment comes to a leaf: the component is one, it
stands for a body that comes to one, or it has a member that does. -/
inductive ReachesLeaf : Environment κ → Component κ σ → Prop where
  | control (env : Environment κ) (c : Control) : ReachesLeaf env (.control c)
  | text (env : Environment κ) (content : String) : ReachesLeaf env (.text content)
  | division (env : Environment κ) (d : Division (Component κ σ)) : ReachesLeaf env (.division d)
  | label (env : Environment κ) (l : Label (Component κ σ)) : ReachesLeaf env (.label l)
  | leaf (env : Environment κ) (name : String) (draw : Environment κ → Program κ σ) :
      ReachesLeaf env (.leaf name draw)
  | composing {env : Environment κ} (name : String)
      {environment : Environment κ → σ → Environment κ × σ}
      {body : Environment κ → σ → Component κ σ} (advance : Environment κ → σ → σ) (found : σ)
      (h : ReachesLeaf (environment env found).1
        (body (environment env found).1 (environment env found).2)) :
      ReachesLeaf env (.composing name environment body advance)
  | group {env : Environment κ} {members : List (Component κ σ)} {c : Component κ σ}
      (hc : c ∈ members) (h : ReachesLeaf env c) : ReachesLeaf env (.group members)

theorem reachesLeaf_group_iff {env : Environment κ} {members : List (Component κ σ)} :
    (group members).ReachesLeaf env ↔ ∃ c ∈ members, c.ReachesLeaf env := by
  constructor
  · intro h
    cases h with
    | group hc hreaches => exact ⟨_, hc, hreaches⟩
  · rintro ⟨c, hc, hreaches⟩
    exact .group hc hreaches

theorem reachesLeaf_composing_iff {env : Environment κ} {name : String}
    {environment : Environment κ → σ → Environment κ × σ} {body : Environment κ → σ → Component κ σ}
    {advance : Environment κ → σ → σ} :
    (composing name environment body advance).ReachesLeaf env ↔
      ∃ found, (body (environment env found).1 (environment env found).2).ReachesLeaf
        (environment env found).1 := by
  constructor
  · intro h
    cases h with
    | composing _ _ found hreaches => exact ⟨found, hreaches⟩
  · rintro ⟨found, hreaches⟩
    exact .composing name advance found hreaches

variable {m : Markup} {p : NodeId} {refusal : Markup.Error}

theorem spares_composing {env : Environment κ} {name : String}
    {environment : Environment κ → σ → Environment κ × σ} {body : Environment κ → σ → Component κ σ}
    {advance : Environment κ → σ → σ} {answer : Except RenderError Unit}
    (h : ∀ found, Spares m answer ((body (environment env found).1
      (environment env found).2).render (environment env found).1 p)) :
    Spares m answer ((composing name environment body advance).render env p) := by
  intro stage hstage
  rw [render]
  exact h stage.hidden
    ⟨⟨stage.canvas.markup, stage.canvas.events.push (.expandBody name)⟩,
      advance (environment env stage.hidden).1 (environment env stage.hidden).2⟩ hstage

mutual

/-- Where a node refuses, a plain component fails for the node's reason if it comes to a leaf,
and succeeds otherwise. -/
theorem Plain.spares (hp : NoChild m p refusal) (env : Environment κ) :
    (c : Component κ σ) → c.Plain →
      (¬c.ReachesLeaf env → Spares m (.ok ()) (c.render env p)) ∧
        (c.ReachesLeaf env → Spares m (.error (.markup refusal)) (c.render env p))
  | .control c, _ => by
      refine ⟨fun hnone => absurd (.control env c) hnone, fun _ => ?_⟩
      rw [render_control]
      exact (spares_enclose hp (isName_eq_true_iff.mp (by decide)) _ _).report _
  | .text content, _ => by
      refine ⟨fun hnone => absurd (.text env content) hnone, fun _ => ?_⟩
      rw [render]
      exact (spares_text hp content).report _
  | .division ⟨children, id, classes⟩, _ => by
      refine ⟨fun hnone => absurd (.division env _) hnone, fun _ => ?_⟩
      rw [render_division]
      exact (spares_enclose hp (isName_eq_true_iff.mp (by decide)) _ _).report _
  | .label ⟨children, target, id, classes⟩, _ => by
      refine ⟨fun hnone => absurd (.label env _) hnone, fun _ => ?_⟩
      rw [render_label]
      exact (spares_enclose hp (isName_eq_true_iff.mp (by decide)) _ _).report _
  | .leaf _ _, h => by cases h
  | .composing name environment body advance, h => by
      cases h with
      | composing hderived hpure hbody =>
          have hopened := fun found => Plain.spares hp (environment env found).1
            (body (environment env found).1 (environment env found).2) (hbody _ _)
          rw [reachesLeaf_composing_iff]
          refine ⟨fun hnone => spares_composing fun found =>
            (hopened found).1 fun hreaches => hnone ⟨found, hreaches⟩, ?_⟩
          -- the body is the same whatever is hidden, so one state tells that it has a leaf
          rintro ⟨other, hreaches⟩
          refine spares_composing fun found => (hopened found).2 ?_
          rw [hderived env found other, hpure _ _ (environment env other).2]
          exact hreaches
  | .group members, h => by
      cases h with
      | group h =>
          rw [render, reachesLeaf_group_iff]
          exact Plain.sparesAll hp env members h

theorem Plain.sparesAll (hp : NoChild m p refusal) (env : Environment κ) :
    (cs : List (Component κ σ)) → (∀ c ∈ cs, c.Plain) →
      (¬(∃ c ∈ cs, c.ReachesLeaf env) → Spares m (.ok ()) (renderAll env p cs)) ∧
        ((∃ c ∈ cs, c.ReachesLeaf env) →
          Spares m (.error (.markup refusal)) (renderAll env p cs))
  | [], _ => by
      rw [renderAll]
      refine ⟨fun _ => spares_pure m, ?_⟩
      rintro ⟨_, hc, -⟩
      cases hc
  | c :: cs, h => by
      simp only [renderAll, List.exists_mem_cons_iff]
      obtain ⟨hnone, hsome⟩ := Plain.spares hp env c (h c List.mem_cons_self)
      obtain ⟨hnoneBehind, hsomeBehind⟩ :=
        Plain.sparesAll hp env cs fun d hd => h d (List.mem_cons_of_mem c hd)
      constructor
      · intro hout
        rw [not_or] at hout
        exact (hnone hout.1).andThen (hnoneBehind hout.2)
      · intro hin
        by_cases hfirst : c.ReachesLeaf env
        · exact Spares.first (hsome hfirst)
        · exact (hnone hfirst).andThen (hsomeBehind (hin.resolve_left hfirst))

end

/-- Rendering a plain component under a node that is unknown, a text or a void element leaves
the tree exactly as it was. It succeeds if the component comes to no leaf; otherwise its error
is that there is no such node, that the node is no container, or that it is void, and then the
error bears the node's tag. -/
theorem render_refused (hp : NoChild m p refusal) {c : Component κ σ} (hc : c.Plain)
    (env : Environment κ) (events : Array RenderEvent) (state : σ) :
    let outcome := c.render env p ⟨⟨m, events⟩, state⟩
    (¬c.ReachesLeaf env → outcome.1 = .ok () ∧ outcome.2.markup = m) ∧
    (c.ReachesLeaf env → outcome.1 = .error (.markup refusal) ∧ outcome.2.markup = m) := by
  intro outcome
  obtain ⟨hnone, hsome⟩ := Plain.spares hp env c hc
  exact ⟨fun hout => hnone hout _ rfl, fun hin => hsome hin _ rfl⟩

/-- A radio button behind empty groups and inside a wrapper is refused by a line break, and
the empty groups alone are not. -/
theorem render_refused_break :
    let m := (appendElement root "BR" .empty).2
    let hollow : Component Empty Unit := .group [.empty, .named "Hollow" .empty]
    let button : Component Empty Unit := (control (.radio {})).withValue .formDisabled true
    ((group [hollow, button]).render .empty ⟨2⟩ ⟨⟨m, #[]⟩, ()⟩).1 =
        .error (.markup (.voidElement "BR")) ∧
      ((group [hollow, button]).render .empty ⟨2⟩ ⟨⟨m, #[]⟩, ()⟩).2.markup = m ∧
      (hollow.render .empty ⟨2⟩ ⟨⟨m, #[]⟩, ()⟩).1 = .ok () ∧
      (button.render .empty ⟨3⟩ ⟨⟨m, #[]⟩, ()⟩).1 = .error (.markup .unknownNode) := by
  intro m hollow button
  have hempty : (empty : Component Empty Unit).Plain := .group nofun
  have hhollow : hollow.Plain :=
    .group (List.forall_mem_cons.mpr ⟨hempty, List.forall_mem_singleton.mpr
      (.composing (fun _ _ _ => rfl) (fun _ _ _ => rfl) fun _ _ => hempty)⟩)
  have hbutton : button.Plain := (Plain.control _).withValue _ _
  have hplain : (group [hollow, button]).Plain :=
    .group (List.forall_mem_cons.mpr ⟨hhollow, List.forall_mem_singleton.mpr hbutton⟩)
  have hvoid : NoChild m ⟨2⟩ (.voidElement "BR") :=
    .void (e := .ofTag "BR") (by decide +kernel) (by decide +kernel)
  have hleaf : button.ReachesLeaf .empty := .composing _ _ () (.control _ _)
  have hbehind : (group [hollow, button]).ReachesLeaf .empty :=
    .group (List.mem_cons_of_mem _ List.mem_cons_self) hleaf
  have hbarren : ¬hollow.ReachesLeaf .empty := by
    simp [hollow, named, empty, reachesLeaf_group_iff, reachesLeaf_composing_iff]
  obtain ⟨herror, hkept⟩ := (render_refused hvoid hplain .empty #[] ()).2 hbehind
  exact ⟨herror, hkept, ((render_refused hvoid hhollow .empty #[] ()).1 hbarren).1,
    ((render_refused (.unknown (by decide +kernel)) hbutton .empty #[] ()).2 hleaf).1⟩

end Component

end HtmlComponents
