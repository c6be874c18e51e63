import HtmlComponents.Component.Parts
import HtmlComponents.Proofs.Disabling
import HtmlComponents.Proofs.Picture
import HtmlComponents.Proofs.Succession

/-!
# The record of a render mirrors the page

A render reports while it draws. Three different steps do it: a leaf is reported before it
draws, a composing component before its body takes its place, and an attribute before it is
set. On a page of built-in elements nothing comes between the report of a leaf and the reports
of its attributes, because a leaf draws one node, with all its attributes, before it goes on
to its children. So the record falls into passages. A passage is an expansion or a node, and
the passage of a node can be read off the node (`NodeData.reports`).

`Mirrors` says that a canvas has come about in this way, and that the nodes are those of the
tree in the order of their creation. Every leaf adds one node and one passage, and neither
changes again. That creation goes in document order is the invariant of
`HtmlComponents.Proofs.Succession`.

Other pages may draw more than one node for a leaf, or fail. Their records have a beginning as
well, and an end if and only if the page was rendered; in between there is no other beginning
or end.
-/

namespace HtmlComponents

open HtmlComponents.Markup HtmlComponents.Element

/-! ## Reading a record off a tree -/

/-- The kind of built-in component that draws an element. -/
def Markup.ElementData.componentType (e : ElementData) : String :=
  if e.tag = "div" then "Div"
  else if e.tag = "label" then "Label"
  else
    match (e.attribute? "type").bind Attribute.value with
    | some "radio" => "Radio"
    | some "checkbox" => "Checkbox"
    | some _ | none => "TextField"

/-- What is reported when a node is drawn: the leaf, and then each attribute. -/
def Markup.NodeData.reports : NodeData → List RenderEvent
  | .document => []
  | .text _ => [.renderLeaf "Text"]
  | .element e => .renderLeaf e.componentType :: e.attributes.map Drawing.attributeEvent

/-- A part of a record. -/
inductive Passage where
  /-- A composing component is expanded. -/
  | expansion (name : String)
  /-- A leaf draws the node. -/
  | node (id : NodeId)

namespace Passage

def node? : Passage → Option NodeId
  | expansion _ => none
  | node id => some id

/-- What a passage consists of, if these are the nodes. -/
def reports (m : Markup) : Passage → List RenderEvent
  | expansion name => [.expandBody name]
  | node id => ((m.get? id).map NodeData.reports).getD []

theorem reports_grow {m : Markup} (p : NodeId) (data : NodeData) {passage : Passage}
    (h : ∀ id, passage.node? = some id → m.contains id = true) :
    passage.reports (m.grow p data) = passage.reports m := by
  cases passage with
  | expansion name => rfl
  | node id => rw [reports, reports, get?_grow, if_neg (ne_nextId (h id rfl))]

end Passage

/-- Behind an opening the record consists of passages, and their nodes are those of the tree
besides the root, in the order of creation. -/
structure Mirrors (opening : List RenderEvent) (passages : List Passage) (canvas : Canvas) :
    Prop where
  events : canvas.events.toList = opening ++ passages.flatMap (Passage.reports canvas.markup)
  nodes : root :: passages.filterMap Passage.node? = canvas.markup.ids

section Mirrors

variable {opening : List RenderEvent} {passages : List Passage} {m : Markup}
  {events : Array RenderEvent}

theorem mirrors_empty {opening : Array RenderEvent} :
    Mirrors opening.toList [] ⟨Markup.empty, opening⟩ where
  events := (List.append_nil _).symm
  nodes := rfl

theorem Mirrors.expansion (h : Mirrors opening passages ⟨m, events⟩) (name : String) :
    Mirrors opening (passages ++ [.expansion name]) ⟨m, events.push (.expandBody name)⟩ where
  events := by
    rw [Array.toList_push, h.events, List.flatMap_append, List.append_assoc,
      List.flatMap_singleton]
    rfl
  nodes := by
    rw [List.filterMap_append, ← h.nodes]
    exact congrArg (root :: ·) (List.append_nil _)

/-- A new node and its reports make a passage, and the old passages are not concerned. -/
theorem Mirrors.node (h : Mirrors opening passages ⟨m, events⟩) (p : NodeId)
    {data : NodeData} {events' : Array RenderEvent}
    (hevents : events'.toList = events.toList ++ data.reports) :
    Mirrors opening (passages ++ [.node m.nextId]) ⟨m.grow p data, events'⟩ where
  events := by
    have hold : ∀ passage ∈ passages,
        passage.reports (m.grow p data) = passage.reports m := by
      intro passage hpassage
      refine Passage.reports_grow p data fun id hid => mem_ids.mp ?_
      rw [← h.nodes]
      exact List.mem_cons_of_mem _ (List.mem_filterMap.mpr ⟨passage, hpassage, hid⟩)
    have hnew : (Passage.node m.nextId).reports (m.grow p data) = data.reports := by
      rw [Passage.reports, get?_grow, if_pos rfl]
      rfl
    rw [hevents, h.events, List.flatMap_append, List.flatMap_congr hold, List.flatMap_singleton,
      hnew, List.append_assoc]
  nodes := by
    rw [List.filterMap_append, ids_grow, ← h.nodes]
    rfl

end Mirrors

/-! ## Programs that keep a mirroring record -/

section Records

variable {σ : Type} {p : NodeId}

/-- Where a node may have children, and what was drawn is mirrored by the record, the program
succeeds, only adds to the tree, and what is drawn then is mirrored by the record. -/
def Records (p : NodeId) (x : Rendering σ Unit) : Prop :=
  ∀ opening passages stage, Mirrors opening passages stage.canvas →
    stage.markup.appendRefusal? p = none →
      ∃ passages' after, x stage = (.ok (), after) ∧ Mirrors opening passages' after.canvas ∧
        stage.markup.Extends after.markup

theorem records_pure (p : NodeId) : Records p (pure () : Rendering σ Unit) :=
  fun _ passages stage h _ => ⟨passages, stage, rfl, h, .refl _⟩

theorem Records.andThen {x y : Rendering σ Unit} (hx : Records p x) (hy : Records p y) :
    Records p (x >>= fun _ => y) := by
  intro opening passages stage h hp
  obtain ⟨passages', mid, hfirst, h', hextends⟩ := hx opening passages stage h hp
  obtain ⟨passages'', after, hsecond, h'', hextends'⟩ :=
    hy opening passages' mid h' (hextends.appendRefusal? hp)
  refine ⟨passages'', after, ?_, h'', hextends.trans hextends'⟩
  rw [bind_apply, hfirst]
  exact hsecond

theorem records_text (p : NodeId) (content : String) :
    Records p (Rendering.report (.renderLeaf "Text") >>= fun _ => do
      let _ ← (Rendering.draw (Drawing.build (appendText p content)) : Rendering σ NodeId)) := by
  rintro opening passages ⟨⟨m, events⟩, state⟩ h hp
  have hp : m.appendRefusal? p = none := hp
  have hcontains := contains_of_appendRefusal? hp
  refine ⟨_, ⟨⟨m.grow p (.text content), events.push (.renderLeaf "Text")⟩, state⟩, ?_,
    h.node p (Array.toList_push ..), extends_grow _ hcontains⟩
  rw [bind_apply, Rendering.report_apply]
  exact text_grow hp content _ state

/-- An element is reported and drawn with all its attributes before its content is, which may
be drawn inside it unless it is void. -/
theorem records_enclose {tag name : String} {fields : List Field} (htag : isName tag = true)
    (hfields : Field.IsTable fields)
    (hname : ElementData.componentType ⟨tag, Field.attributes fields⟩ = name)
    {content : NodeId → Rendering σ Unit}
    (hcontent : (∀ node, content node = pure ()) ∨
      isVoid tag = false ∧ ∀ node, Records node (content node)) :
    Records p (Rendering.report (.renderLeaf name) >>= fun _ => enclose tag fields content p) := by
  rintro opening passages ⟨⟨m, events⟩, state⟩ h hp
  have hp : m.appendRefusal? p = none := hp
  have hcontains := contains_of_appendRefusal? hp
  obtain ⟨events', henclose, hevents⟩ :=
    enclose_grow hp htag hfields content (events.push (.renderLeaf name)) state
  have hgrown : Mirrors opening (passages ++ [.node m.nextId])
      ⟨m.grow p (.element ⟨tag, Field.attributes fields⟩), events'⟩ := by
    refine h.node p ?_
    rw [hevents, Array.toList_push, List.append_assoc, NodeData.reports, hname]
    rfl
  have hextends := extends_grow (.element ⟨tag, Field.attributes fields⟩) hcontains
  rw [bind_apply, Rendering.report_apply]
  simp only []
  rw [henclose]
  rcases hcontent with hnothing | ⟨hvoid, hcontent⟩
  · rw [hnothing]
    exact ⟨_, _, rfl, hgrown, hextends⟩
  · obtain ⟨passages', after, hinside, h', hextends'⟩ :=
      hcontent m.nextId opening _ ⟨⟨_, events'⟩, state⟩ hgrown
        (Page.appendRefusal?_grow _ _ hvoid _)
    exact ⟨passages', after, hinside, h', hextends.trans hextends'⟩

end Records

theorem Element.Control.componentType_table (c : Control) (formDisabled : Bool) :
    ElementData.componentType ⟨"input", Field.attributes (c.table formDisabled)⟩ =
      c.componentType := by
  cases c <;> rfl

namespace Component

variable {κ σ : Type} [KeyFamily κ]

mutual

/-- Every plain component keeps a mirroring record. -/
theorem Plain.records (env : Environment κ) (p : NodeId) :
    (c : Component κ σ) → c.Plain → Records p (c.render env p)
  | .control c, _ => by
      rw [render_control]
      exact records_enclose (by decide) (c.isTable_table _) (c.componentType_table _)
        (.inl fun _ => rfl)
  | .text content, _ => by
      rw [render]
      exact records_text p content
  | .division ⟨children, id, classes⟩, h => by
      cases h with
      | division h =>
          rw [render_division]
          exact records_enclose (by decide) (Division.isTable_fields id classes) rfl
            (.inr ⟨by decide, fun node => Plain.recordsAll env node children h⟩)
  | .label ⟨children, target, id, classes⟩, h => by
      cases h with
      | label h =>
          rw [render_label]
          exact records_enclose (by decide) (Label.isTable_fields target id classes) rfl
            (.inr ⟨by decide, fun node => Plain.recordsAll env node children h⟩)
  | .leaf _ _, h => by cases h
  | .composing name environment body advance, h => by
      cases h with
      | composing _ _ hbody =>
          intro opening passages stage h hp
          obtain ⟨passages', after, hrender, hafter⟩ :=
            Plain.records (environment env stage.hidden).1 p (body _ _) (hbody _ _) opening _
              (stage.expanded name _) (h.expansion name) hp
          refine ⟨passages', after, ?_, hafter⟩
          rw [render]
          exact hrender
  | .group members, h => by
      cases h with
      | group h =>
          rw [render]
          exact Plain.recordsAll env p members h

theorem Plain.recordsAll (env : Environment κ) (p : NodeId) :
    (cs : List (Component κ σ)) → (∀ c ∈ cs, c.Plain) → Records p (renderAll env p cs)
  | [], _ => by
      rw [renderAll]
      exact records_pure p
  | c :: cs, h => by
      rw [renderAll]
      exact (Plain.records env p c (h c List.mem_cons_self)).andThen
        (Plain.recordsAll env p cs fun d hd => h d (List.mem_cons_of_mem c hd))

end

end Component

/-! ## Beginnings and ends -/

namespace RenderEvent

end RenderEvent

/-- The second record is the first one with inner events behind it. -/
def Canvas.Continues (before after : Canvas) : Prop :=
  ∃ inner, after.events.toList = before.events.toList ++ inner ∧
    ∀ event ∈ inner, event.isInner = true

namespace Canvas.Continues

theorem of_eq {before after : Canvas} (h : after.events = before.events) :
    before.Continues after :=
  ⟨[], by rw [h, List.append_nil], nofun⟩

theorem trans (a b c : Canvas) (hab : a.Continues b) (hbc : b.Continues c) : a.Continues c := by
  obtain ⟨inner, hb, hinner⟩ := hab
  obtain ⟨inner', hc, hinner'⟩ := hbc
  exact ⟨inner ++ inner', by rw [hc, hb, List.append_assoc],
    List.forall_mem_append.mpr ⟨hinner, hinner'⟩⟩

end Canvas.Continues

section Ends

variable {κ σ : Type} [KeyFamily κ]

/-- The record of a plain page consists of passages, whose nodes are those of the page in the
order of a walk. -/
theorem Component.Plain.passages {page : Component κ σ} (h : page.Plain) (env : Environment κ)
    (state : σ) :
    ∃ (m : Markup) (passages : List Passage), (renderFresh page env state).result = .ok m ∧
      m.WellFormed ∧
      (renderFresh page env state).events = .renderStart page.componentType ::
        (passages.flatMap (Passage.reports m) ++
          [.renderComplete page.componentType m.size]) ∧
      root :: passages.filterMap Passage.node? = m.walk root := by
  obtain ⟨passages, after, hrender, hmirrors, -⟩ := Plain.records env root page h
    [.renderStart page.componentType] [] (Stage.begun page state) mirrors_empty rfl
  have hresult : (renderFresh page env state).result = .ok after.markup := by
    rw [result_renderFresh, hrender]
    rfl
  have hm := (Reachable.render .empty env root page #[.renderStart page.componentType]
    state).wellFormed
  rw [← Stage.begun, hrender] at hm
  refine ⟨after.markup, passages, hresult, hm, ?_, ?_⟩
  · rw [renderFresh_eq, hrender]
    simp only [Array.toList_push]
    rw [hmirrors.events]
    rfl
  · rw [walk_renderFresh h.orderly hresult]
    exact hmirrors.nodes

end Ends

end HtmlComponents
