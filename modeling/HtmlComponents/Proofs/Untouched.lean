import HtmlComponents.Proofs.Run

/-!
# What a render leaves alone

A render is given one node to draw under. A leaf may look at the whole tree, but it works on
that node and on those that it has appended itself. So whatever was there before stays what it
was and where it was, and no node but the given one gets a child. `untouched_render` says so of
every component, whether the render fails or not.

Nothing else keeps a leaf from the rest of the tree than the answers that it gets: all the
nodes that they tell it of are new. The induction follows the answers, and a table of nodes
that a leaf has appended consists of new ones (`Strange`).
-/

namespace HtmlComponents

open HtmlComponents.Markup HtmlComponents.Element

namespace Markup

/-- The nodes of the first tree are in the second one what they were and where they were, and
none of them but the given one has other children. -/
structure Untouched (p : NodeId) (m m' : Markup) : Prop where
  get? : ∀ id, m.contains id = true → m'.get? id = m.get? id
  parent? : ∀ id, m.contains id = true → m'.parent? id = m.parent? id
  children : ∀ id, m.contains id = true → id ≠ p → m'.children id = m.children id

/-- The node is not in the tree. -/
def Strange (m : Markup) (id : NodeId) : Prop := m.contains id = false

theorem Strange.ne {m : Markup} {id other : NodeId} (h : m.Strange id)
    (hother : m.contains other = true) : other ≠ id := by
  rintro rfl
  exact Bool.false_ne_true (h.symm.trans hother)

namespace Untouched

variable {p : NodeId} {m m' : Markup}

theorem refl (p : NodeId) (m : Markup) : Untouched p m m :=
  ⟨fun _ _ => rfl, fun _ _ => rfl, fun _ _ _ => rfl⟩

theorem contains (h : Untouched p m m') {id : NodeId} (hid : m.contains id = true) :
    m'.contains id = true := by
  obtain ⟨slot, hslot⟩ := exists_slot? hid
  exact contains_of_get? ((h.get? id hid).trans (get?_of_slot? hslot))

/-- What is strange to the later tree was strange to the earlier one. -/
theorem strange (h : Untouched p m m') {id : NodeId} (hid : m'.Strange id) : m.Strange id := by
  cases hcontains : m.contains id with
  | false => exact hcontains
  | true => exact absurd rfl (hid.ne (h.contains hcontains))

theorem grow (h : Untouched p m m') {q : NodeId} (hq : q = p ∨ m.Strange q)
    (hcontains : m'.contains q = true) (data : NodeData) : Untouched p m (m'.grow q data) where
  get? id hid := by rw [get?_grow, if_neg (ne_nextId (h.contains hid)), h.get? id hid]
  parent? id hid := by rw [parent?_grow, if_neg (ne_nextId (h.contains hid)), h.parent? id hid]
  children id hid hp := by
    have hne : id ≠ q := by
      rcases hq with rfl | hq
      · exact hp
      · exact hq.ne hid
    rw [children_grow data hcontains, if_neg hne, h.children id hid hp]

theorem withAttribute (h : Untouched p m m') {q : NodeId} (hq : m.Strange q) (a : Attribute) :
    Untouched p m (m'.withAttribute q a) where
  get? id hid := by rw [get?_withAttribute_eq, if_neg (hq.ne hid), h.get? id hid]
  parent? id hid := (parent?_withAttribute m' q a id).trans (h.parent? id hid)
  children id hid hp := (children_withAttribute m' q a id).trans (h.children id hid hp)

theorem append (h : Untouched p m m') {q : NodeId} (hq : q = p ∨ m.Strange q) (data : NodeData) :
    Untouched p m (append q data m').2 := by
  rw [append_eq]
  split
  · exact h
  · next hnone => exact h.grow hq (contains_of_appendRefusal? hnone) data

theorem appendElement (h : Untouched p m m') {q : NodeId} (hq : q = p ∨ m.Strange q)
    (tag : String) : Untouched p m (appendElement q tag m').2 := by
  rw [appendElement_eq]
  split
  · exact h.append hq _
  · exact h

theorem setAttribute (h : Untouched p m m') {q : NodeId} (hq : m.Strange q) (name : String)
    (value : Option String) : Untouched p m (setAttribute q name value m').2 := by
  rw [setAttribute_eq]
  split
  · split
    · exact h
    · exact h.withAttribute hq _
  · exact h

/-- A node that was appended is a new one. -/
theorem strange_element (h : Untouched p m m') {q node : NodeId} {tag : String}
    (hnode : (Markup.appendElement q tag m').1 = .ok node) : m.Strange node := by
  obtain ⟨-, rfl, -⟩ := append_eq_ok (appendElement_eq_ok (Prod.ext hnode rfl))
  exact h.strange (contains_nextId m')

theorem strange_text (h : Untouched p m m') {q node : NodeId} {content : String}
    (hnode : (Markup.appendText q content m').1 = .ok node) : m.Strange node := by
  obtain ⟨-, rfl, -⟩ := append_eq_ok (Prod.ext hnode rfl)
  exact h.strange (contains_nextId m')

end Untouched

end Markup

/-! ## Steps that avoid the tree -/

section Avoids

variable {σ α β : Type} {p : NodeId} {m : Markup} {expected : α → Prop} {expected' : β → Prop}

/-- Nothing that the step does concerns the tree, and what it answers is as expected. -/
def Avoids (p : NodeId) (m : Markup) (expected : α → Prop) (x : Rendering σ α) : Prop :=
  ∀ stage, Untouched p m stage.markup →
    Untouched p m (x stage).2.markup ∧ ∀ a, (x stage).1 = .ok a → expected a

theorem avoids_pure {a : α} (h : expected a) :
    Avoids p m expected (pure a : Rendering σ α) :=
  fun _ huntouched => ⟨huntouched, fun _ ha => Except.ok.inj ha ▸ h⟩

theorem avoids_throw (e : RenderError) :
    Avoids p m expected (throw e : Rendering σ α) :=
  fun _ huntouched => ⟨huntouched, nofun⟩

theorem avoids_report (event : RenderEvent) :
    Avoids p m (fun _ => True) (Rendering.report event : Rendering σ Unit) :=
  fun _ huntouched => ⟨huntouched, fun _ _ => trivial⟩

theorem avoids_look : Avoids p m (fun _ => True) (Rendering.look : Rendering σ Markup) :=
  fun _ huntouched => ⟨huntouched, fun _ _ => trivial⟩

theorem Avoids.bind {x : Rendering σ α} {f : α → Rendering σ β} (hx : Avoids p m expected x)
    (hf : ∀ a, expected a → Avoids p m expected' (f a)) : Avoids p m expected' (x >>= f) := by
  intro stage huntouched
  obtain ⟨hkept, hanswer⟩ := hx stage huntouched
  rw [bind_apply]
  rcases hstep : x stage with ⟨e | a, mid⟩ <;> rw [hstep] at hkept hanswer
  · exact ⟨hkept, nofun⟩
  · exact hf a (hanswer a rfl) mid hkept

theorem Avoids.attempt {x : Rendering σ α} (hx : Avoids p m expected x) :
    Avoids p m (fun _ => True) (Rendering.attempt x) :=
  fun stage huntouched => ⟨(hx stage huntouched).1, fun _ _ => trivial⟩

/-- A step of drawing that leaves the tree alone, whatever it answers. -/
theorem avoids_ask {step : Drawing α}
    (hstep : ∀ canvas : Canvas,
      Untouched p m canvas.markup → Untouched p m (step canvas).2.markup) :
    Avoids p m (fun _ => True) (Rendering.ask step : Rendering σ _) :=
  fun stage huntouched => ⟨hstep stage.canvas huntouched, fun _ _ => trivial⟩

theorem avoids_draw {step : Drawing α}
    (hstep : ∀ canvas : Canvas,
      Untouched p m canvas.markup → Untouched p m (step canvas).2.markup) :
    Avoids p m (fun _ => True) (Rendering.draw step : Rendering σ _) :=
  fun stage huntouched => ⟨hstep stage.canvas huntouched, fun _ _ => trivial⟩

theorem avoids_emit {q : NodeId} (hq : m.Strange q) (fields : List Field) {canvas : Canvas}
    (h : Untouched p m canvas.markup) : Untouched p m (Drawing.emit q fields canvas).2.markup :=
  Drawing.moves_emit (fun a b => Untouched p m a.markup → Untouched p m b.markup)
    (fun _ h => h) (fun _ _ _ hab hbc h => hbc (hab h)) (fun _ _ h => h)
    (fun name value _ h => h.setAttribute hq name value) fields canvas h

/-- An element or a text is appended, and a leaf gets to know of a new node at most. -/
theorem avoids_append {step : Markup.Construction NodeId}
    (hstep : ∀ m', Untouched p m m' →
      Untouched p m (step m').2 ∧ ∀ node, (step m').1 = .ok node → m.Strange node) :
    Avoids p m (fun answer => ∀ node ∈ answer.toOption.toList, m.Strange node)
      (Rendering.ask (Drawing.build step) : Rendering σ _) := by
  intro stage huntouched
  obtain ⟨hkept, hstrange⟩ := hstep stage.markup huntouched
  refine ⟨hkept, fun answer hanswer node hnode => ?_⟩
  have hanswer : (step stage.markup).1 = answer := Except.ok.inj hanswer
  cases answer with
  | error e => exact nomatch hnode
  | ok id =>
      rw [List.mem_singleton.mp hnode]
      exact hstrange id hanswer

theorem avoids_element {q : NodeId} (hq : q = p ∨ m.Strange q) (tag : String) :
    Avoids p m (fun answer => ∀ node ∈ answer.toOption.toList, m.Strange node)
      (Rendering.ask (Drawing.build (appendElement q tag)) : Rendering σ _) :=
  avoids_append fun _ h => ⟨h.appendElement hq tag, fun _ => h.strange_element⟩

theorem avoids_text {q : NodeId} (hq : q = p ∨ m.Strange q) (content : String) :
    Avoids p m (fun answer => ∀ node ∈ answer.toOption.toList, m.Strange node)
      (Rendering.ask (Drawing.build (appendText q content)) : Rendering σ _) :=
  avoids_append fun _ h => ⟨h.append hq _, fun _ => h.strange_text⟩

theorem avoids_enclose {q : NodeId} (hq : q = p ∨ m.Strange q) (tag : String)
    (fields : List Field) {content : NodeId → Rendering σ Unit}
    (hcontent : ∀ node, m.Strange node → Avoids p m (fun _ => True) (content node)) :
    Avoids p m (fun _ => True) (enclose tag fields content q) := by
  have happend : Avoids p m m.Strange
      (Rendering.draw (Drawing.build (appendElement q tag)) : Rendering σ _) := by
    refine fun stage huntouched => ⟨huntouched.appendElement hq tag, fun node hnode => ?_⟩
    have hbuild := Drawing.build_ok (Rendering.draw_eq_ok (Prod.ext hnode rfl))
    exact huntouched.strange_element (congrArg Prod.fst hbuild)
  rw [enclose]
  refine happend.bind fun node hnode => ?_
  exact (avoids_draw fun _ huntouched => avoids_emit hnode fields huntouched).bind fun _ _ =>
    hcontent node hnode

end Avoids

/-! ## Renders leave the tree alone -/

section Own

variable {m : Markup} {own : List NodeId} (hown : ∀ node ∈ own, m.Strange node)

include hown

theorem strange_own (p : NodeId) (index : Nat) : m.Strange ((Place.own index).node p own) := by
  rw [Place.node, List.getD_eq_getElem?_getD]
  rcases hget : own[index]? with _ | node
  · exact Bool.eq_false_iff.mpr fun h => Nat.lt_irrefl 0 (contains_iff.mp h).1
  · exact hown node (List.mem_of_getElem? hget)

/-- A place is the given node or a strange one. -/
theorem place_or_strange {p q : NodeId} (hq : q = p ∨ m.Strange q) (place : Place) :
    place.node q own = p ∨ m.Strange (place.node q own) := by
  cases place with
  | here => exact hq
  | own index => exact .inr (strange_own hown q index)

end Own

namespace Component

variable {κ σ : Type} [KeyFamily κ] {p : NodeId} {m : Markup}

mutual

theorem avoids_render (env : Environment κ) {q : NodeId} (hq : q = p ∨ m.Strange q) :
    (c : Component κ σ) → Avoids p m (fun _ => True) (c.render env q)
  | .control c => by
      rw [render_control]
      exact (avoids_report _).bind fun _ _ =>
        avoids_enclose hq _ _ fun _ _ => avoids_pure trivial
  | .text content => by
      rw [render]
      exact (avoids_report _).bind fun _ _ =>
        (avoids_draw fun _ huntouched => huntouched.append hq _).bind fun _ _ => avoids_pure trivial
  | .division ⟨children, id, classes⟩ => by
      rw [render_division]
      exact (avoids_report _).bind fun _ _ =>
        avoids_enclose hq _ _ fun _ hnode => avoids_renderAll env (.inr hnode) children
  | .label ⟨children, target, id, classes⟩ => by
      rw [render_label]
      exact (avoids_report _).bind fun _ _ =>
        avoids_enclose hq _ _ fun _ hnode => avoids_renderAll env (.inr hnode) children
  | .leaf name draw => by
      rw [render]
      exact (avoids_report _).bind fun _ _ => avoids_perform hq (List.forall_mem_nil _) (draw env)
  | .composing name environment body advance => by
      intro stage huntouched
      rw [render]
      exact avoids_render (environment env stage.hidden).1 hq (body _ _)
        (stage.expanded name _) huntouched
  | .group members => by
      rw [render]
      exact avoids_renderAll env hq members

theorem avoids_renderAll (env : Environment κ) {q : NodeId} (hq : q = p ∨ m.Strange q) :
    (cs : List (Component κ σ)) → Avoids p m (fun _ => True) (renderAll env q cs)
  | [] => by
      rw [renderAll]
      exact avoids_pure trivial
  | c :: cs => by
      rw [renderAll]
      exact (avoids_render env hq c).bind fun _ _ => avoids_renderAll env hq cs

theorem avoids_perform {q : NodeId} (hq : q = p ∨ m.Strange q) {own : List NodeId}
    (hown : ∀ node ∈ own, m.Strange node) :
    (program : Program κ σ) → Avoids p m (fun _ => True) (perform q own program)
  | .done => by
      rw [perform]
      exact avoids_pure trivial
  | .fail error => by
      rw [perform]
      exact avoids_throw error
  | .element place tag next => by
      rw [perform]
      exact (avoids_element (place_or_strange hown hq place) tag).bind fun _ hnew =>
        avoids_perform hq (List.forall_mem_append.mpr ⟨hown, hnew⟩) (next _)
  | .text place content next => by
      rw [perform]
      exact (avoids_text (place_or_strange hown hq place) content).bind fun _ hnew =>
        avoids_perform hq (List.forall_mem_append.mpr ⟨hown, hnew⟩) (next _)
  | .set index name value next => by
      rw [perform]
      exact (avoids_ask fun _ huntouched =>
        huntouched.setAttribute (strange_own hown q index) name value).bind fun _ _ =>
          avoids_perform hq hown (next _)
  | .emit index fields next => by
      rw [perform]
      exact (avoids_ask fun _ huntouched =>
        avoids_emit (strange_own hown q index) fields huntouched).bind fun _ _ =>
          avoids_perform hq hown (next _)
  | .render place env c next => by
      rw [perform]
      exact (avoids_render env (place_or_strange hown hq place) c).attempt.bind fun _ _ =>
        avoids_perform hq hown (next _)
  | .look next => by
      rw [perform]
      exact avoids_look.bind fun markup _ => avoids_perform hq hown (next markup q own)

end

/-- A render leaves alone what was there, but for the children of the node under which it
draws. -/
theorem untouched_render (c : Component κ σ) (env : Environment κ) (p : NodeId) (stage : Stage σ) :
    Untouched p stage.markup (c.render env p stage).2.markup :=
  (c.avoids_render env (.inl rfl) stage (.refl p stage.markup)).1

theorem untouched_renderAll (env : Environment κ) (p : NodeId) (cs : List (Component κ σ))
    (stage : Stage σ) : Untouched p stage.markup (renderAll env p cs stage).2.markup :=
  (avoids_renderAll env (.inl rfl) cs stage (.refl p stage.markup)).1

end Component

end HtmlComponents
