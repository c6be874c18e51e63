import HtmlComponents.Proofs.Graft

/-!
# What a component shows

`Plain` components are made of the built-in elements alone: they have no leaves that
bring a program of their own, and what their composing components derive and make comes
from the environment and not from hidden state. The picture of such a component is a list of
shapes that its definition spells out, and `Plain.draws` says that rendering the
component succeeds and draws just that.

Rendering goes through one arena from beginning to end. To think of each part of a
component by itself, the proof renders each part on a fresh tree and grafts the
outcome where the part stands: behind what was drawn before (`Draws.andThen`), or
inside an element (`draws_enclose`).
-/

namespace HtmlComponents

open HtmlComponents.Markup HtmlComponents.Element

/-! ## Drawing in parts -/

section Draws

variable {σ : Type} {f g : NodeId → Rendering σ Unit}

/-- A program that appends below the node that it is given does the same wherever
that node is. -/
structure Placeless (f : NodeId → Rendering σ Unit) : Prop where
  parallel : ∀ {m : Markup} {p : NodeId}, m.appendRefusal? p = none →
    Parallel (OnStage (Beside m p)) Eq (f root) (f p)

/-- On a fresh tree the program succeeds, and the tree then shows the shapes. -/
def Draws (f : NodeId → Rendering σ Unit) (shapes : List Shape) : Prop :=
  ∀ events state, ∃ after, f root ⟨⟨Markup.empty, events⟩, state⟩ = (.ok (), after) ∧
    after.markup.WellFormed ∧ after.markup.forest root = shapes

/-- What is drawn on a fresh tree is drawn at any node that can have children. -/
theorem Placeless.draws_at (hf : Placeless f) {shapes : List Shape} (h : Draws f shapes)
    (stage : Stage σ) (hstage : stage.markup.WellFormed) {p : NodeId}
    (hp : stage.markup.appendRefusal? p = none) :
    ∃ after fresh, f p stage = (.ok (), after) ∧ Beside stage.markup p fresh after.markup ∧
      fresh.forest root = shapes := by
  obtain ⟨left, hleft, -, hforest⟩ := h stage.canvas.events stage.hidden
  obtain ⟨hanswer, hbeside, -⟩ := hf.parallel hp
    ⟨⟨Markup.empty, stage.canvas.events⟩, stage.hidden⟩ stage
    ⟨Beside.empty hstage (contains_of_appendRefusal? hp), rfl⟩
  rw [hleft] at hanswer hbeside
  exact ⟨(f p stage).2, left.markup, Prod.ext hanswer.eq.symm rfl, hbeside, hforest⟩

/-- What the second program draws stands behind what the first one has drawn. -/
theorem Draws.andThen {front back : List Shape} (hfront : Draws f front)
    (hg : Placeless g) (hback : Draws g back) :
    Draws (fun p => f p >>= fun _ => g p) (front ++ back) := by
  intro events state
  obtain ⟨mid, hmid, hwf, hforest⟩ := hfront events state
  have hroot : mid.markup.appendRefusal? root = none :=
    appendRefusal?_eq_none_iff.mpr ⟨.document, hwf.get?_root, rfl⟩
  obtain ⟨after, fresh, hafter, ⟨hgrafted, hfresh, hgrown⟩, hshapes⟩ :=
    hg.draws_at hback _ hwf hroot
  refine ⟨after, ?_, hgrown, ?_⟩
  · show (f root >>= fun _ => g root) _ = _
    rw [bind_apply, hmid]
    exact hafter
  · rw [hgrafted.forest_place (contains_root _) hwf hfresh hgrown, hforest, hshapes]

/-- A report draws nothing. -/
theorem Draws.report {shapes : List Shape} (h : Draws f shapes) (event : RenderEvent) :
    Draws (fun p => Rendering.report event >>= fun _ => f p) shapes := by
  intro events state
  obtain ⟨after, hafter, hdrawn⟩ := h (events.push event) state
  refine ⟨after, ?_, hdrawn⟩
  show (Rendering.report event >>= fun _ => f root) _ = _
  rw [bind_apply]
  exact hafter

theorem draws_pure : Draws (fun _ => (pure () : Rendering σ Unit)) [] :=
  fun events state => ⟨⟨⟨Markup.empty, events⟩, state⟩, rfl, wellFormed_empty, rfl⟩

theorem draws_appendText (content : String) :
    Draws (fun p => (do
      let _ ← Rendering.draw (Drawing.build (appendText p content)) : Rendering σ Unit))
      [.node (.text content) []] := by
  intro events state
  exact ⟨⟨⟨Markup.empty.grow root (.text content), events⟩, state⟩, rfl,
    wellFormed_empty.run (.appendText root content), rfl⟩

/-! ## Elements -/

/-- The document with one element. -/
def bare (tag : String) : Markup := Markup.empty.grow root (.element (.ofTag tag))

/-- The document with one element, which has the attributes of a table. -/
def framed (tag : String) (fields : List Field) : Markup :=
  (bare tag).withAttributes ⟨2⟩ (Field.attributes fields)

section Framed

variable {tag : String} {fields : List Field}

theorem get?_framed : (framed tag fields).get? ⟨2⟩ =
    some (.element ⟨tag, Field.attributes fields⟩) :=
  get?_withAttributes _ (e := .ofTag tag) rfl

theorem children_framed (id : NodeId) :
    (framed tag fields).children id = if id = root then [⟨2⟩] else [] := by
  rw [framed, children_withAttributes, bare, children_grow _ rfl]
  split
  · rfl
  · exact children_empty id

theorem appendElement_empty (htag : isName tag = true) :
    appendElement root tag Markup.empty = (.ok ⟨2⟩, bare tag) := by
  rw [appendElement_eq, if_pos htag]
  rfl

theorem emit_bare (tag : String) (hfields : Field.IsTable fields) (events : Array RenderEvent) :
    ∃ events', Drawing.emit ⟨2⟩ fields ⟨bare tag, events⟩ =
      (.ok (), ⟨framed tag fields, events'⟩) :=
  Drawing.emit_ok (e := .ofTag tag) rfl hfields.isName_attributes hfields.nodup_attributes events

variable (htag : isName tag = true) (hfields : Field.IsTable fields)

include htag hfields

theorem wellFormed_framed : (framed tag fields).WellFormed := by
  have hbare : (bare tag).WellFormed := by
    have hrun := wellFormed_empty.run (.appendElement root tag)
    rwa [Call.run, appendElement_empty htag] at hrun
  obtain ⟨events, hemit⟩ := emit_bare tag hfields #[]
  have hkept := (Drawing.runsCalls_emit ⟨2⟩ fields ⟨bare tag, #[]⟩).keeps
    (fun _ call hm => hm.run call) hbare
  rwa [hemit] at hkept

/-- On a fresh tree an element is made, and only what is drawn inside it is left to do. -/
theorem enclose_fresh (content : NodeId → Rendering σ Unit) (events : Array RenderEvent)
    (state : σ) :
    ∃ events', enclose tag fields content root ⟨⟨Markup.empty, events⟩, state⟩ =
      content ⟨2⟩ ⟨⟨framed tag fields, events'⟩, state⟩ := by
  obtain ⟨events', hemit⟩ := emit_bare tag hfields events
  have happend : Drawing.build (appendElement root tag) ⟨Markup.empty, events⟩ =
      (.ok ⟨2⟩, ⟨bare tag, events⟩) := by
    rw [Drawing.build, appendElement_empty htag]
  refine ⟨events', ?_⟩
  rw [enclose, bind_apply, Rendering.draw_ok happend]
  simp only []
  rw [bind_apply, Rendering.draw_ok hemit]

/-- What is grafted onto the element is what the element encloses. -/
theorem forest_enclosed {fresh grown : Markup} (h : Grafted (framed tag fields) ⟨2⟩ fresh grown)
    (hfresh : fresh.WellFormed) (hgrown : grown.WellFormed) :
    grown.forest root = [.node (.element ⟨tag, Field.attributes fields⟩) (fresh.forest root)] := by
  have hframed := wellFormed_framed htag hfields
  have helement : (framed tag fields).contains ⟨2⟩ = true := contains_of_get? get?_framed
  have hget := (h.untouched.get? _ helement).trans get?_framed
  have hinside : (framed tag fields).forest ⟨2⟩ = [] := by
    rw [forest, children_framed]
    rfl
  rw [forest, h.untouched.children _ (contains_root _) (by decide), children_framed, if_pos rfl,
    List.flatMap_singleton, hgrown.shapes_of_get? hget,
    h.forest_place helement hframed hfresh hgrown, hinside, List.nil_append]

theorem draws_enclose (hvoid : isVoid tag = false) {content : NodeId → Rendering σ Unit}
    {shapes : List Shape} (hplaceless : Placeless content) (hcontent : Draws content shapes) :
    Draws (enclose tag fields content)
      [.node (.element ⟨tag, Field.attributes fields⟩) shapes] := by
  intro events state
  have hframed := wellFormed_framed htag hfields
  obtain ⟨events', henclose⟩ := enclose_fresh htag hfields content events state
  have hplace : (framed tag fields).appendRefusal? ⟨2⟩ = none :=
    appendRefusal?_eq_none_iff.mpr ⟨_, get?_framed, by simp [NodeData.isContainer, hvoid]⟩
  obtain ⟨after, fresh, hafter, ⟨hgrafted, hfresh, hgrown⟩, rfl⟩ :=
    hplaceless.draws_at hcontent ⟨⟨framed tag fields, events'⟩, state⟩ hframed hplace
  exact ⟨after, henclose.trans hafter, hgrown,
    forest_enclosed htag hfields hgrafted hfresh hgrown⟩

/-- A void element encloses nothing. -/
theorem draws_enclose_nothing :
    Draws (enclose tag fields fun _ => (pure () : Rendering σ Unit))
      [.node (.element ⟨tag, Field.attributes fields⟩) []] := by
  intro events state
  have hframed := wellFormed_framed htag hfields
  obtain ⟨events', henclose⟩ :=
    enclose_fresh htag hfields (fun _ => (pure () : Rendering σ Unit)) events state
  exact ⟨⟨⟨framed tag fields, events'⟩, state⟩, henclose, hframed,
    forest_enclosed htag hfields (Grafted.empty (contains_of_get? get?_framed))
      wellFormed_empty hframed⟩

end Framed

end Draws

/-! ## Plain components -/

namespace Component

variable {κ σ : Type} [KeyFamily κ]

/-- Components that are made of the built-in elements, of groups, and of composing
components whose environments and bodies do not depend on hidden state. -/
inductive Plain : Component κ σ → Prop where
  | control (c : Control) : Plain (.control c)
  | text (content : String) : Plain (.text content)
  | division {d : Division (Component κ σ)} (h : ∀ c ∈ d.children, Plain c) :
      Plain (.division d)
  | label {l : Label (Component κ σ)} (h : ∀ c ∈ l.children, Plain c) : Plain (.label l)
  | composing {name : String} {environment : Environment κ → σ → Environment κ × σ}
      {body : Environment κ → σ → Component κ σ} {advance : Environment κ → σ → σ}
      (hderived : ∀ env state state', (environment env state).1 = (environment env state').1)
      (hpure : ∀ env state state', body env state = body env state')
      (hbody : ∀ env state, Plain (body env state)) :
      Plain (.composing name environment body advance)
  | group {members : List (Component κ σ)} (h : ∀ c ∈ members, Plain c) :
      Plain (.group members)

theorem Plain.withOverrides {c : Component κ σ} (h : c.Plain) (batch : Overrides κ) :
    (c.withOverrides batch).Plain :=
  .composing (fun _ _ _ => rfl) (fun _ _ _ => rfl) fun _ _ => h

theorem Plain.withValue {c : Component κ σ} (h : c.Plain) (key : Key κ) (value : key.Value) :
    (c.withValue key value).Plain :=
  h.withOverrides _

mutual

/-- The shapes that a plain component shows in an environment. Environments are derived and
bodies made with one hidden state, since it makes no difference with which. -/
def picture (state : σ) (env : Environment κ) : Component κ σ → List Shape
  | control c => [.node (.element ⟨"input", Field.attributes (c.table env.formDisabled)⟩) []]
  | text content => [.node (.text content) []]
  | division ⟨children, id, classes⟩ =>
    [.node (.element ⟨"div", Field.attributes (Division.fields id classes)⟩)
      (pictures state env children)]
  | label ⟨children, target, id, classes⟩ =>
    [.node (.element ⟨"label", Field.attributes (Label.fields target id classes)⟩)
      (pictures state env children)]
  | leaf _ _ => []
  | composing _ environment body _ =>
    let derived := (environment env state).1
    picture state derived (body derived state)
  | group members => pictures state env members

def pictures (state : σ) (env : Environment κ) : List (Component κ σ) → List Shape
  | [] => []
  | c :: cs => c.picture state env ++ pictures state env cs

end

theorem placeless_renderAll (env : Environment κ) {cs : List (Component κ σ)}
    (h : ∀ c ∈ cs, c.Local) : Placeless (fun p => renderAll env p cs) where
  parallel hp := parallel_renderAll hp env (matched_root _ _) cs h

/-- Built-in elements do not look around. -/
theorem Plain.local {c : Component κ σ} (h : c.Plain) : c.Local := by
  induction h with
  | control c => exact .control c
  | text content => exact .text content
  | division _ ih => exact .division ih
  | label _ ih => exact .label ih
  | composing _ _ _ ih => exact .composing ih
  | group _ ih => exact .group ih

mutual

theorem Plain.draws (opening : σ) (env : Environment κ) :
    (c : Component κ σ) → c.Plain → Draws (fun p => c.render env p) (c.picture opening env)
  | .control c, _ => by
      simp only [render_control, picture]
      exact (draws_enclose_nothing (by decide) (c.isTable_table _)).report _
  | .text content, _ => by
      simp only [render, picture]
      exact (draws_appendText content).report _
  | .division ⟨children, id, classes⟩, h => by
      cases h with
      | division h =>
          simp only [render_division, picture]
          exact (draws_enclose (by decide) (Division.isTable_fields id classes) (by decide)
            (placeless_renderAll env fun c hc => (h c hc).local)
            (Plain.drawsAll opening env children h)).report _
  | .label ⟨children, target, id, classes⟩, h => by
      cases h with
      | label h =>
          simp only [render_label, picture]
          exact (draws_enclose (by decide) (Label.isTable_fields target id classes) (by decide)
            (placeless_renderAll env fun c hc => (h c hc).local)
            (Plain.drawsAll opening env children h)).report _
  | .leaf _ _, h => by cases h
  | .composing name environment body advance, h => by
      cases h with
      | composing hderived hpure hbody =>
          intro events state
          let derived := environment env state
          have hdraws := Plain.draws opening (environment env opening).1
            (body (environment env opening).1 opening) (hbody _ _)
          obtain ⟨after, hafter, hdrawn⟩ := hdraws (events.push (.expandBody name))
            (advance derived.1 derived.2)
          rw [hderived env opening state, hpure _ opening derived.2] at hafter
          refine ⟨after, ?_, hdrawn⟩
          simp only [render]
          exact hafter
  | .group members, h => by
      cases h with
      | group h =>
          simp only [render, picture]
          exact Plain.drawsAll opening env members h

theorem Plain.drawsAll (opening : σ) (env : Environment κ) :
    (cs : List (Component κ σ)) → (∀ c ∈ cs, c.Plain) →
      Draws (fun p => renderAll env p cs) (pictures opening env cs)
  | [], _ => by
      simp only [renderAll, pictures]
      exact draws_pure
  | c :: cs, h => by
      simp only [renderAll, pictures]
      exact (Plain.draws opening env c (h c List.mem_cons_self)).andThen
        (placeless_renderAll env fun d hd => (h d (List.mem_cons_of_mem _ hd)).local)
        (Plain.drawsAll opening env cs fun d hd => h d (List.mem_cons_of_mem _ hd))

end

end Component

end HtmlComponents
