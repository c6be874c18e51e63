import HtmlComponents.Component.Parts
import HtmlComponents.Proofs.Graft
import HtmlComponents.Proofs.Growth
import HtmlComponents.Proofs.Steadiness

/-!
# Members of a group or a container

A group, a division, a label and many a custom leaf do one and the same thing: they render
their members in their own environment, one after the other, under one node. `Holder` stands
for all of them. What they do before the first member is reached is `Holder.enter`, and the
rest is rendering the members (`Holder.render_hold`).

Each member gives the node some children. What it draws there may depend on the members
before it, if its leaves look around, and is never touched by those that follow. A member
whose leaves do not look around draws what it draws on a page of its own
(`shapesOfRows_contributions`).
-/

namespace HtmlComponents

open HtmlComponents.Markup HtmlComponents.Element

variable {κ σ : Type} [KeyFamily κ]

/-! ## Holders -/

/-- What has members and renders them in its own environment, one after the other. -/
inductive Holder where
  | group
  | division (id : Option String) (classes : List String)
  | label (target id : Option String) (classes : List String)
  /-- A custom leaf that draws one element around its members. -/
  | custom (name tag : String) (attributes : List Retouch) (htag : isVoid tag = false)

namespace Holder

open Component Rendering

/-- The component that holds the members. -/
def hold : Holder → List (Component κ σ) → Component κ σ
  | group, members => .group members
  | division id classes, members => .division ⟨members, id, classes⟩
  | label target id classes, members => .label ⟨members, target, id, classes⟩
  | custom name tag attributes _, members =>
    .custom name fun env => [.element tag attributes (members.map (.render env))]

/-- Make changes to the attributes of a node. -/
def retouch (node : NodeId) : List Retouch → Rendering σ Unit
  | [] => pure ()
  | .attribute name value :: changes => do
    draw (Drawing.build (setAttribute node name value))
    retouch node changes
  | .emit fields :: changes => do
    draw (Drawing.emit node fields)
    retouch node changes

/-- Draw an element that is going to have content, and answer it. -/
def opening (name tag : String) (attributes : List Retouch) (p : NodeId) :
    Rendering σ NodeId := do
  report (.renderLeaf name)
  let node ← draw (Drawing.build (appendElement p tag))
  retouch node attributes
  return node

/-- What is done before the first member is reached. The answer is the node under which
the members are rendered. -/
def enter (p : NodeId) : Holder → Rendering σ NodeId
  | group => pure p
  | division id classes => opening "Div" "div" [.emit (Division.fields id classes)] p
  | label target id classes => opening "Label" "label" [.emit (Label.fields target id classes)] p
  | custom name tag attributes _ => opening name tag attributes p

theorem perform_unlessRefused (p : NodeId) (own : List NodeId) (next : Program κ σ)
    (e : Markup.Error) :
    perform p own (next.unlessRefused (.error e)) = throw (RenderError.markup e) := by
  rw [Program.unlessRefused, perform]

theorem perform_retouch (p node : NodeId) (next : Program κ σ) (changes : List Retouch) :
    perform p [node] (Retouch.programs 0 next changes) =
      retouch node changes >>= fun _ => perform p [node] next := by
  induction changes with
  | nil => rw [Retouch.programs, retouch, pure_bind]
  | cons change changes ih =>
      cases change <;>
        rw [Retouch.programs, perform, ask_bind _ (perform_unlessRefused p _ _), retouch,
          bind_assoc] <;>
        exact bind_congr fun _ => ih

theorem perform_renders (env : Environment κ) (p node : NodeId)
    (members : List (Component κ σ)) :
    perform p [node] (Stroke.programs (.own 0) 1 (fun _ => .done) (members.map (.render env))) =
      renderAll env node members := by
  induction members with
  | nil => rw [List.map_nil, Stroke.programs, perform, renderAll]
  | cons c cs ih =>
      rw [List.map_cons, Stroke.programs, Stroke.program, perform,
        attempt_bind _ fun e => by rw [perform], renderAll]
      exact bind_congr fun _ => ih

theorem render_hold (holder : Holder) (members : List (Component κ σ)) (env : Environment κ)
    (p : NodeId) :
    (holder.hold members).render env p =
      holder.enter p >>= fun node => renderAll env node members := by
  cases holder with
  | group => rw [hold, enter, render, pure_bind]
  | division id classes =>
      rw [hold, enter, render_division]
      simp only [opening, enclose, retouch, bind_assoc, pure_bind]
  | label target id classes =>
      rw [hold, enter, render_label]
      simp only [opening, enclose, retouch, bind_assoc, pure_bind]
  | custom name tag attributes htag =>
      rw [hold, enter, Component.custom, render]
      simp only [opening, bind_assoc, pure_bind]
      refine bind_congr fun _ => ?_
      rw [Stroke.programs, Stroke.program, perform, ask_bind _ (perform_unlessRefused p _ _)]
      refine bind_congr fun node => ?_
      exact (perform_retouch p node _ attributes).trans
        (bind_congr fun _ => perform_renders env p node members)

theorem congruent_unlessRefused {next next' : Program κ σ} (h : next.Congruent next') :
    ∀ answer, (next.unlessRefused answer).Congruent (next'.unlessRefused answer)
  | .ok () => h
  | .error e => .fail (.markup e)

theorem congruent_retouch (index : Nat) {next next' : Program κ σ} (h : next.Congruent next')
    (changes : List Retouch) :
    (Retouch.programs index next changes).Congruent (Retouch.programs index next' changes) := by
  induction changes with
  | nil => exact h
  | cons change changes ih =>
      cases change
      · exact .set index _ _ (congruent_unlessRefused ih)
      · exact .emit index _ (congruent_unlessRefused ih)

theorem congruent_renders {members : List (Component κ σ)} (h : ∀ c ∈ members, c.Steady)
    {env env' : Environment κ} (henv : env.Indistinct env') (place : Place) (count : Nat) :
    (Stroke.programs place count (fun _ => .done) (members.map (.render env))).Congruent
      (Stroke.programs place count (fun _ => .done) (members.map (.render env'))) := by
  induction members with
  | nil =>
      rw [List.map_nil, List.map_nil, Stroke.programs]
      exact .done
  | cons c cs ih =>
      rw [List.map_cons, List.map_cons, Stroke.programs, Stroke.programs, Stroke.program,
        Stroke.program]
      refine .render place henv (h c List.mem_cons_self) fun answer => ?_
      cases answer with
      | ok _ => exact ih fun d hd => h d (List.mem_cons_of_mem c hd)
      | error e => exact .fail e

theorem steady_hold (holder : Holder) {members : List (Component κ σ)}
    (h : ∀ c ∈ members, c.Steady) : (holder.hold members).Steady := by
  have hall := congruentAll_of_steady h
  cases holder with
  | group => exact .group hall
  | division id classes => exact .division id classes hall
  | label target id classes => exact .label target id classes hall
  | custom name tag attributes htag =>
      refine .leaf name fun env env' henv => ?_
      rw [Stroke.programs, Stroke.programs, Stroke.program, Stroke.program]
      exact .element _ tag (congruent_unlessRefused
        (congruent_retouch 0 (congruent_renders h henv _ 1) attributes))

theorem likewise_retouch (node : NodeId) (changes : List Retouch) :
    Likewise (retouch node changes : Rendering σ Unit) (retouch node changes) := by
  induction changes with
  | nil => exact likewise_pure ()
  | cons change changes ih =>
      cases change <;> rw [retouch]
      · exact (unreporting_build _).likewise.bind fun _ => ih
      · exact (unreporting_emit node _).likewise.bind fun _ => ih

theorem likewise_opening (name tag : String) (attributes : List Retouch) (p : NodeId) :
    Likewise (opening name tag attributes p : Rendering σ NodeId) (opening name tag attributes p) :=
  (likewise_report _ _).bind fun _ => (unreporting_build _).likewise.bind fun node =>
    (likewise_retouch node attributes).bind fun _ => likewise_pure node

theorem likewise_enter (holder : Holder) (p : NodeId) :
    Likewise (holder.enter p : Rendering σ NodeId) (holder.enter p) := by
  cases holder with
  | group => exact likewise_pure p
  | division | label | custom => exact likewise_opening _ _ _ p

/-! The node that a holder answers may have children, since it is a new element that is not
void, or one that might have had them before. -/

theorem runsCalls_retouch (node : NodeId) (changes : List Retouch) :
    RunsCalls Stage.markup (retouch node changes : Rendering σ Unit) := by
  have h := (rendersAlong_leads (σ := σ)).toGoesAlong
  induction changes with
  | nil => exact h.pure ()
  | cons change changes ih =>
      cases change <;> rw [retouch]
      · exact (h.setAttribute node _ _).draw.bind h.trans fun _ => ih
      · exact (h.emit node _).draw.bind h.trans fun _ => ih

theorem runsCalls_enter (holder : Holder) (p : NodeId) :
    RunsCalls Stage.markup (holder.enter p : Rendering σ NodeId) := by
  have h := (rendersAlong_leads (σ := σ)).toGoesAlong
  have hopening : ∀ name tag attributes,
      RunsCalls Stage.markup (opening name tag attributes p : Rendering σ NodeId) :=
    fun name tag attributes => (h.report rfl).bind h.trans fun _ =>
      (h.appendElement p tag).draw.bind h.trans fun node =>
        Moves.bind h.trans (runsCalls_retouch node attributes) fun _ => h.pure node
  cases holder with
  | group => exact h.pure p
  | division | label | custom => exact hopening _ _ _

end Holder

/-- An element that was appended may have children, unless its tag is void. -/
theorem Markup.appendRefusal?_of_appendElement {m m' : Markup} {p node : NodeId} {tag : String}
    (htag : isVoid tag = false) (h : appendElement p tag m = (.ok node, m')) :
    m'.appendRefusal? node = none := by
  obtain ⟨hp, rfl, rfl⟩ := append_eq_ok (appendElement_eq_ok h)
  refine appendRefusal?_eq_none_iff.mpr ⟨.element (.ofTag tag), ?_, ?_⟩
  · rw [get?_grow, if_pos rfl]
  · rw [NodeData.isContainer, ElementData.ofTag, htag]
    rfl

namespace Holder

open Component Rendering

theorem appendRefusal?_opening {name tag : String} {attributes : List Retouch}
    {p node : NodeId} {stage begun : Stage σ} (htag : isVoid tag = false)
    (h : opening name tag attributes p stage = (.ok node, begun)) :
    begun.markup.appendRefusal? node = none := by
  obtain ⟨⟨⟩, reported, -, h⟩ := bind_ok h
  obtain ⟨node', appended, happend, h⟩ := bind_ok h
  obtain ⟨⟨⟩, changed, hset, h⟩ := bind_ok h
  cases h
  have hleads := Holder.runsCalls_retouch node attributes appended
  rw [hset] at hleads
  exact hleads.extends.appendRefusal?
    (appendRefusal?_of_appendElement htag (Drawing.build_ok (draw_eq_ok happend)))

theorem appendRefusal?_enter {holder : Holder} {p node : NodeId} {stage begun : Stage σ}
    (hp : stage.markup.appendRefusal? p = none)
    (h : holder.enter p stage = (.ok node, begun)) :
    begun.markup.appendRefusal? node = none := by
  cases holder with
  | group =>
      cases h
      exact hp
  | division id classes => exact appendRefusal?_opening (by decide) h
  | label target id classes => exact appendRefusal?_opening (by decide) h
  | custom name tag attributes htag => exact appendRefusal?_opening htag h

end Holder

/-! ## What each member contributes -/

namespace Markup

/-- What stands at the nodes of each row. -/
def shapesOfRows (m : Markup) (rows : List (List NodeId)) : List (List Shape) :=
  rows.map fun row => row.flatMap m.shapes

theorem shapesOfRows_cons (m : Markup) (row : List NodeId) (rows : List (List NodeId)) :
    m.shapesOfRows (row :: rows) = row.flatMap m.shapes :: m.shapesOfRows rows := rfl

theorem shapesOfRows_append (m : Markup) (front back : List (List NodeId)) :
    m.shapesOfRows (front ++ back) = m.shapesOfRows front ++ m.shapesOfRows back :=
  List.map_append

/-- Rows of nodes, each row written out. -/
def writeRows (m : Markup) (rows : List (List NodeId)) (options : HtmlOptions) :
    List String :=
  rows.map fun row => String.join (row.map fun id => m.nodeToHtml id options)

theorem writeRows_eq (m : Markup) (rows : List (List NodeId)) (options : HtmlOptions) :
    m.writeRows rows options =
      (m.shapesOfRows rows).map fun shapes =>
        String.ofList (Shape.htmlAll options.voidStyle shapes) := by
  rw [writeRows, shapesOfRows, List.map_map]
  refine List.map_congr_left fun row _ => ?_
  rw [← String.toList_inj, String.toList_join, Function.comp_apply, String.toList_ofList,
    Shape.htmlAll_flatMap, List.flatMap_map]
  simp only [nodeToHtml_eq, String.toList_ofList]

end Markup

namespace Component

open Rendering

/-- The children that each of the components gives to a node, when they are rendered there
one after the other. -/
def contributions (env : Environment κ) (node : NodeId) :
    List (Component κ σ) → Stage σ → List (List NodeId)
  | [], _ => []
  | c :: cs, stage =>
    let after := (c.render env node stage).2
    (after.markup.children node).drop (stage.markup.children node).length ::
      contributions env node cs after

/-- The shapes below the root of a page that holds nothing but the component. -/
def shapesAlone (env : Environment κ) (state : σ) (c : Component κ σ) : List Shape :=
  (c.render env root (Stage.fresh state)).2.markup.forest root

/-- All that the components give to the node is what each of them gives to it. -/
theorem children_renderAll {env : Environment κ} {node : NodeId} {cs : List (Component κ σ)}
    {stage after : Stage σ} (h : renderAll env node cs stage = (.ok (), after)) :
    after.markup.children node =
      stage.markup.children node ++ (contributions env node cs stage).flatten := by
  induction cs generalizing stage with
  | nil =>
      cases h
      rw [contributions, List.flatten_nil, List.append_nil]
  | cons c cs ih =>
      rw [renderAll] at h
      obtain ⟨⟨⟩, mid, hc, h⟩ := bind_ok h
      have hkept := (runsCalls_render env node c stage).extends.children node
      rw [ih h, contributions, hc, List.flatten_cons, ← List.append_assoc]
      rw [hc, List.prefix_iff_eq_append] at hkept
      rw [hkept]

theorem Steady.shapesAlone_eq {c : Component κ σ} (hc : c.Steady) (env : Environment κ)
    (state state' : σ) : shapesAlone env state c = shapesAlone env state' c := by
  have hmarkup := (hc.likewise (.refl env) root (Stage.fresh state) (Stage.fresh state') rfl).2
  rw [shapesAlone, shapesAlone, hmarkup]

/-- A component whose leaves do not look around contributes what stands on a page of its
own. -/
theorem shapes_contribution {c : Component κ σ} (hc : c.Local) {env : Environment κ}
    {node : NodeId} {stage after : Stage σ} (hm : stage.markup.WellFormed)
    (hnode : stage.markup.appendRefusal? node = none)
    (h : c.render env node stage = (.ok (), after)) :
    ((after.markup.children node).drop (stage.markup.children node).length).flatMap
      after.markup.shapes = shapesAlone env stage.hidden c := by
  have hbeside := (render_grafted hm hnode hc env #[] stage.canvas.events stage.hidden).2
  have hafter : c.render env node ⟨⟨stage.markup, stage.canvas.events⟩, stage.hidden⟩ =
      (.ok (), after) := h
  rw [hafter] at hbeside
  rw [hbeside.grafted.children_place, List.drop_left]
  exact hbeside.grafted.flatMap_shapes_moved (contains_of_appendRefusal? hnode) hbeside.fresh
    hbeside.grown

/-- What stands at children of a node is left alone by what is rendered there later. -/
theorem shapes_renderAll {cs : List (Component κ σ)} {env : Environment κ} {node : NodeId}
    {stage after : Stage σ} (hm : stage.markup.WellFormed)
    (h : renderAll env node cs stage = (.ok (), after)) {id : NodeId}
    (hid : id ∈ stage.markup.children node) :
    after.markup.shapes id = stage.markup.shapes id := by
  have huntouched := untouched_renderAll env node cs stage
  have hleads := runsCalls_render env node (group cs) stage
  rw [render, h] at hleads
  rw [h] at huntouched
  exact huntouched.shapes_eq hm (hleads.wellFormed hm) (hm.contains_of_mem_children hid)
    (hm.number_lt hid)

theorem shapesOfRows_renderAll {cs : List (Component κ σ)} {env : Environment κ} {node : NodeId}
    {stage after : Stage σ} (hm : stage.markup.WellFormed)
    (h : renderAll env node cs stage = (.ok (), after)) {rows : List (List NodeId)}
    (hrows : ∀ row ∈ rows, ∀ id ∈ row, id ∈ stage.markup.children node) :
    after.markup.shapesOfRows rows = stage.markup.shapesOfRows rows :=
  List.map_congr_left fun row hrow => List.flatMap_congr fun id hid =>
    shapes_renderAll hm h (hrows row hrow id hid)

/-- What the components have contributed are children of the node. -/
theorem mem_contributions {env : Environment κ} {node : NodeId} {cs : List (Component κ σ)}
    {stage after : Stage σ} (h : renderAll env node cs stage = (.ok (), after)) :
    ∀ row ∈ contributions env node cs stage, ∀ id ∈ row, id ∈ after.markup.children node := by
  intro row hrow id hid
  rw [children_renderAll h]
  exact List.mem_append_right _ (List.mem_flatten.mpr ⟨row, hrow, hid⟩)

/-- Components whose leaves do not look around contribute what each of them shows on a page of
its own, one after the other. -/
theorem shapesOfRows_contributions {cs : List (Component κ σ)} (hcs : ∀ c ∈ cs, c.Steady)
    (hlocal : ∀ c ∈ cs, c.Local) {env : Environment κ} {node : NodeId} {stage after : Stage σ}
    (hm : stage.markup.WellFormed) (hnode : stage.markup.appendRefusal? node = none)
    (h : renderAll env node cs stage = (.ok (), after)) (state : σ) :
    after.markup.shapesOfRows (contributions env node cs stage) =
      cs.map (shapesAlone env state) := by
  induction cs generalizing stage with
  | nil => rfl
  | cons c cs ih =>
      rw [renderAll] at h
      obtain ⟨⟨⟩, mid, hc, h⟩ := bind_ok h
      have hleads := runsCalls_render env node c stage
      rw [hc] at hleads
      have hmid := hleads.wellFormed hm
      have hrest := ih (fun d hd => hcs d (List.mem_cons_of_mem c hd))
        (fun d hd => hlocal d (List.mem_cons_of_mem c hd)) hmid
        (hleads.extends.appendRefusal? hnode) h
      have hhead := shapes_contribution (hlocal c List.mem_cons_self) hm hnode hc
      rw [shapesOfRows] at hrest ⊢
      rw [contributions, hc, List.map_cons, List.map_cons, hrest,
        ← (hcs c List.mem_cons_self).shapesAlone_eq env stage.hidden state, ← hhead]
      -- the row of `c` was read off when `c` was done, and the others have left it alone
      congr 1
      exact List.flatMap_congr fun id hid => shapes_renderAll hmid h (List.mem_of_mem_drop hid)

/-! A member is rendered behind some and before others. Those before it find the same tree
whatever the member does, and those behind it find another one. -/

theorem renderAll_append (env : Environment κ) (p : NodeId) (front back : List (Component κ σ)) :
    renderAll env p (front ++ back) =
      renderAll env p front >>= fun _ => renderAll env p back := by
  induction front with
  | nil => rw [List.nil_append, renderAll, pure_bind]
  | cons c cs ih => rw [List.cons_append, renderAll, renderAll, ih, bind_assoc]

theorem contributions_append {env : Environment κ} {node : NodeId}
    {front : List (Component κ σ)} {stage mid : Stage σ}
    (h : renderAll env node front stage = (.ok (), mid)) (back : List (Component κ σ)) :
    contributions env node (front ++ back) stage =
      contributions env node front stage ++ contributions env node back mid := by
  induction front generalizing stage with
  | nil =>
      cases h
      rfl
  | cons c cs ih =>
      rw [renderAll] at h
      obtain ⟨⟨⟩, first, hc, h⟩ := bind_ok h
      rw [List.cons_append, contributions, contributions, hc, List.cons_append, ih h]

theorem length_contributions (env : Environment κ) (node : NodeId) (cs : List (Component κ σ))
    (stage : Stage σ) : (contributions env node cs stage).length = cs.length := by
  induction cs generalizing stage with
  | nil => rfl
  | cons c cs ih => rw [contributions, List.length_cons, List.length_cons, ih]

/-- Steady components contribute the same nodes to the same tree. -/
theorem contributions_congr {cs : List (Component κ σ)} (hcs : ∀ c ∈ cs, c.Steady)
    (env : Environment κ) (node : NodeId) {stage stage' : Stage σ}
    (hsame : stage.markup = stage'.markup) :
    contributions env node cs stage = contributions env node cs stage' := by
  induction cs generalizing stage stage' with
  | nil => rfl
  | cons c cs ih =>
      have hafter := ((hcs c List.mem_cons_self).likewise (.refl env) node stage stage' hsame).2
      rw [contributions, contributions, hsame, hafter,
        ih (fun d hd => hcs d (List.mem_cons_of_mem c hd)) hafter]

/-- Around a member stands what the members before it contribute to the tree, and what those
behind it show on pages of their own. -/
theorem shapesOfRows_around {front back : List (Component κ σ)} {c : Component κ σ}
    (hback : ∀ d ∈ back, d.Steady ∧ d.Local) {env : Environment κ} {node : NodeId}
    {stage after : Stage σ} (hm : stage.markup.WellFormed)
    (hnode : stage.markup.appendRefusal? node = none)
    (h : renderAll env node (front ++ c :: back) stage = (.ok (), after)) (state : σ) :
    ∃ mid row, renderAll env node front stage = (.ok (), mid) ∧
      after.markup.shapesOfRows (contributions env node (front ++ c :: back) stage) =
        mid.markup.shapesOfRows (contributions env node front stage) ++
          row :: back.map (shapesAlone env state) := by
  rw [renderAll_append] at h
  obtain ⟨⟨⟩, mid, hfront, h⟩ := bind_ok h
  have hmid : Leads stage.markup mid.markup := by
    have hleads := runsCalls_render env node (group front) stage
    rwa [render, hfront] at hleads
  have hmid' := hmid.wellFormed hm
  have hrows := shapesOfRows_renderAll hmid' h (mem_contributions hfront)
  have hcontributions := contributions_append hfront (c :: back)
  rw [renderAll] at h
  obtain ⟨⟨⟩, done, hc, h⟩ := bind_ok h
  have hdone := runsCalls_render env node c mid
  rw [hc] at hdone
  have hbehind := shapesOfRows_contributions (fun d hd => (hback d hd).1)
    (fun d hd => (hback d hd).2) (hdone.wellFormed hmid')
    ((hmid.trans hdone).extends.appendRefusal? hnode) h state
  let row := (done.markup.children node).drop (mid.markup.children node).length
  refine ⟨mid, row.flatMap after.markup.shapes, hfront, ?_⟩
  rw [hcontributions, shapesOfRows_append, hrows, contributions, hc, shapesOfRows_cons, hbehind]

end Component

end HtmlComponents
