import HtmlComponents.Proofs.Orderly
import HtmlComponents.Proofs.Traversal

/-!
# Rendered pages are numbered in document order

A tree hands out numbers in the order in which its nodes are created, and a caller may
create them anywhere. An orderly component does not: it appends at the places that are open,
and those are the node that was created last and nodes above it. So a new node comes behind
all the others not only by its number but also on the page, and walking through a page of
orderly components is counting from one to its size (`walk_renderFresh`).

The order is stated for siblings, `InOrder`: what is below a child has smaller numbers than
the children behind it. The invariant of a render is `Progress`, which adds the chain of the
open places; `Opened` says which places of a leaf they are.
-/

namespace HtmlComponents

open HtmlComponents.Markup

namespace Markup

/-- What is below a child has smaller numbers than the children behind it. -/
def InOrder (m : Markup) : Prop :=
  ∀ id, (m.children id).Pairwise fun a b => ∀ x, m.Above a x → x.number < b.number

/-- The node that was created last. -/
def lastId (m : Markup) : NodeId := ⟨m.size⟩

variable {m m' : Markup}

theorem SameFrame.above (h : m.SameFrame m') {a x : NodeId} : m'.Above a x ↔ m.Above a x := by
  have hchildren : m'.children = m.children := funext h.children
  rw [Above, Above, hchildren]

theorem SameFrame.inOrder (h : m.SameFrame m') (horder : m.InOrder) : m'.InOrder := by
  intro id
  rw [h.children id]
  exact (horder id).imp fun hbelow x hx => hbelow x (h.above.mp hx)

/-! ## Reading an ordered tree -/

theorem pairwise_ids (m : Markup) : m.ids.Pairwise fun a b => a.number < b.number := by
  rw [ids, List.pairwise_map]
  exact List.pairwise_lt_range.imp Nat.succ_lt_succ

theorem WellFormed.pairwise_listing (hm : m.WellFormed) (h : m.InOrder) (id : NodeId) :
    (m.listing id).Pairwise fun a b => a.number < b.number := by
  induction id using hm.induction_down with
  | h id ih =>
      by_cases hid : m.contains id = true
      · rw [hm.listing_eq hid, List.pairwise_cons, List.pairwise_flatMap]
        refine ⟨fun x hx => ?_, ih, (h id).imp_of_mem fun _ _ hbelow x hx y hy => ?_⟩
        · obtain ⟨child, hchild, hx⟩ := List.mem_flatMap.mp hx
          have hlt := hm.number_lt hchild
          have hle := hm.number_le_of_mem_listing hx
          omega
        · have hlt := hbelow x (hm.mem_listing_iff.mp hx).2
          have hle := hm.number_le_of_mem_listing hy
          omega
      · rw [listing_of_not_contains (by simpa using hid)]
        exact List.Pairwise.nil

/-- In an ordered tree going down from the root is counting. -/
theorem WellFormed.listing_root_eq (hm : m.WellFormed) (h : m.InOrder) :
    m.listing root = m.ids :=
  hm.listing_root_perm.eq_of_pairwise
    (fun _ _ _ _ hab hba => absurd hba (Nat.not_lt.mpr (Nat.le_of_lt hab)))
    (hm.pairwise_listing h root) m.pairwise_ids

/-! ## Appending at an open place -/

theorem above_grow {p : NodeId} (data : NodeData) (hp : m.contains p = true) {a x : NodeId}
    (h : (m.grow p data).Above a x) :
    m.Above a x ∨ x = m.nextId ∧ m.Above a p := by
  induction h with
  | refl => exact .inl .refl
  | @tail y x _ hx ih =>
      rw [children_grow data hp] at hx
      rcases ih with hy | ⟨rfl, -⟩
      · split at hx
        · next hyp =>
            rw [hyp] at hy
            rcases List.mem_append.mp hx with hx | hx
            · exact .inl (hy.tail hx)
            · exact .inr ⟨List.mem_singleton.mp hx, hy⟩
        · exact .inl (hy.tail hx)
      · rw [if_neg (ne_nextId hp).symm, children_eq_nil m.contains_nextId] at hx
        cases hx

theorem Extends.above (h : m.Extends m') {a x : NodeId} (habove : m.Above a x) :
    m'.Above a x :=
  Relation.ReflTransGen.mono (fun parent _ hchild => (h.children parent).subset hchild) a x habove

theorem WellFormed.inOrder_grow (hm : m.WellFormed) (h : m.InOrder) {p : NodeId}
    (hp : m.contains p = true) (hlast : m.Above p m.lastId) (data : NodeData) :
    (m.grow p data).InOrder := by
  have hold : ∀ id, (m.children id).Pairwise fun a b =>
      ∀ x, (m.grow p data).Above a x → x.number < b.number := by
    intro id
    refine (h id).imp_of_mem fun {a b} ha hb hbelow x hx => ?_
    rcases above_grow data hp hx with hx | ⟨rfl, hap⟩
    · exact hbelow x hx
    · -- the new node is below `a` only if the last node is, and then `b` is not behind `a`
      have hlt : m.size < b.number := hbelow m.lastId (hap.trans hlast)
      have hle := (contains_iff.mp (hm.contains_of_mem_children hb)).2
      omega
  intro id
  rw [children_grow data hp]
  split
  · refine List.pairwise_append.mpr ⟨hold p, List.pairwise_singleton _ _, fun a ha b hb x hx => ?_⟩
    rw [List.mem_singleton.mp hb]
    show x.number < m.size + 1
    rcases above_grow data hp hx with hx | ⟨-, hap⟩
    · have hx := hm.contains_of_mem_listing
        (hm.mem_listing_iff.mpr ⟨hm.contains_of_mem_children ha, hx⟩)
      have hle := (contains_iff.mp hx).2
      omega
    · exact absurd hap (hm.not_above_parent ha)
  · exact hold id

end Markup

/-! ## The invariant of a render -/

/-- The tree is in order, and the places that are open are the last node and nodes above it,
the innermost one first. -/
structure Progress (m : Markup) (places : List NodeId) : Prop where
  wellFormed : m.WellFormed
  inOrder : m.InOrder
  places : (m.lastId :: places).Pairwise fun inner outer => m.Above outer inner

namespace Progress

variable {m m' : Markup} {places : List NodeId}

theorem empty : Progress Markup.empty [root] where
  wellFormed := wellFormed_empty
  inOrder id := by
    rw [children_empty]
    exact List.Pairwise.nil
  places := List.pairwise_pair.mpr .refl

/-- The place where a render goes on is above the last node. -/
theorem above_last (h : Progress m places) : m.Above (places.headD root) m.lastId := by
  cases places with
  | nil =>
      refine h.wellFormed.below_root (contains_iff.mpr ⟨?_, Nat.le_refl _⟩)
      exact (contains_iff.mp m.contains_root).2
  | cons p outer => exact (List.pairwise_cons.mp h.places).1 p List.mem_cons_self

/-- A node is appended at the place where a render goes on, and may become a place itself. -/
theorem grow (h : Progress m places) {data : NodeData}
    (hp : m.appendRefusal? (places.headD root) = none)
    (hframe : (m.grow (places.headD root) data).SameFrame m') (hm' : m'.WellFormed) :
    Progress m' places ∧ Progress m' (m.nextId :: places) := by
  have hcontains := contains_of_appendRefusal? hp
  have hold : ∀ {a x}, m.Above a x → m'.Above a x :=
    fun habove => hframe.above.mpr ((extends_grow data hcontains).above habove)
  have hlast : m'.lastId = m.nextId := congrArg NodeId.mk (hframe.size.trans (size_grow m _ data))
  have hnext : m'.Above (places.headD root) m.nextId := by
    refine hframe.above.mpr (.single ?_)
    rw [children_grow data hcontains, if_pos rfl]
    exact List.mem_append_right _ List.mem_cons_self
  have hopen : ∀ q ∈ places, m'.Above q m.nextId := by
    intro q hq
    cases places with
    | nil => cases hq
    | cons p outer =>
        have houter := List.pairwise_cons.mp (List.pairwise_cons.mp h.places).2
        rcases List.mem_cons.mp hq with rfl | hq
        · exact hnext
        · exact (hold (houter.1 q hq)).trans hnext
  have hchain := List.pairwise_cons.mpr ⟨hopen, (List.pairwise_cons.mp h.places).2.imp hold⟩
  have horder := hframe.inOrder
    (h.wellFormed.inOrder_grow h.inOrder hcontains h.above_last data)
  refine ⟨⟨hm', horder, hlast ▸ hchain⟩, ⟨hm', horder, ?_⟩⟩
  rw [hlast]
  refine List.pairwise_cons.mpr ⟨fun q hq => ?_, hchain⟩
  rcases List.mem_cons.mp hq with rfl | hq
  · exact .refl
  · exact hopen q hq

theorem frame (h : Progress m places) (hframe : m.SameFrame m') (hm' : m'.WellFormed) :
    Progress m' places where
  wellFormed := hm'
  inOrder := hframe.inOrder h.inOrder
  places := by
    have hlast : m'.lastId = m.lastId := congrArg NodeId.mk hframe.size
    rw [hlast]
    exact h.places.imp hframe.above.mpr

theorem sublist (h : Progress m places) {fewer : List NodeId} (hfewer : fewer.Sublist places) :
    Progress m fewer where
  wellFormed := h.wellFormed
  inOrder := h.inOrder
  places := h.places.sublist (hfewer.cons_cons _)

end Progress

/-! ## Steps that keep the order -/

section Reframes

variable {σ : Type}

/-- Setting attributes leaves all nodes in their places and adds none. -/
def Reframed (m m' : Markup) : Prop := m.SameFrame m' ∧ (m.WellFormed → m'.WellFormed)

theorem Reframed.refl (m : Markup) : Reframed m m := ⟨.refl m, id⟩

theorem Reframed.trans {a b c : Markup} (hab : Reframed a b) (hbc : Reframed b c) :
    Reframed a c := ⟨hab.1.trans hbc.1, hbc.2 ∘ hab.2⟩

theorem Drawing.reframed_setAttribute (node : NodeId) (name : String) (value : Option String) :
    Moves (fun a b => Reframed a.markup b.markup) (build (setAttribute node name value)) := by
  intro canvas
  refine ⟨?_, fun hm => hm.run (.setAttribute node name value)⟩
  show canvas.markup.SameFrame (setAttribute node name value canvas.markup).2
  rw [setAttribute_eq]
  split
  · split
    · exact .refl _
    · exact sameFrame_withAttribute _ _ _
  · exact .refl _

theorem Drawing.reframed_emit (node : NodeId) (fields : List Field) :
    Moves (fun a b => Reframed a.markup b.markup) (emit node fields) :=
  moves_emit _ (fun canvas => .refl canvas.markup) (fun _ _ _ h h' => h.trans h')
    (fun _ canvas => .refl canvas.markup) (fun name value => reframed_setAttribute node name value)
    fields

theorem Progress.reframed {m m' : Markup} {places : List NodeId} (h : Progress m places)
    (hm : Reframed m m') : Progress m' places := h.frame hm.1 (hm.2 h.wellFormed)

/-- The step appends a node at the place, or is refused and changes nothing. -/
def Appends (p : NodeId) (data : NodeData) (step : Construction NodeId) : Prop :=
  ∀ m, (∃ e, step m = (.error e, m)) ∨
    m.appendRefusal? p = none ∧ step m = (.ok m.nextId, m.grow p data) ∧
      (m.WellFormed → (m.grow p data).WellFormed)

theorem appends_text (p : NodeId) (content : String) :
    Appends p (.text content) (appendText p content) := by
  intro m
  have hrun : m.WellFormed → (append p (.text content) m).2.WellFormed :=
    fun hm => hm.run (.appendText p content)
  rw [appendText]
  rw [append_eq] at hrun ⊢
  rcases hp : m.appendRefusal? p with _ | refusal
  · rw [hp] at hrun
    exact .inr ⟨rfl, rfl, hrun⟩
  · exact .inl ⟨refusal, rfl⟩

theorem appends_element (p : NodeId) (tag : String) :
    Appends p (.element (.ofTag tag)) (appendElement p tag) := by
  intro m
  have hrun : m.WellFormed → (appendElement p tag m).2.WellFormed :=
    fun hm => hm.run (.appendElement p tag)
  rw [appendElement_eq] at hrun ⊢
  split
  · next htag =>
      rw [if_pos htag] at hrun
      rw [append_eq] at hrun ⊢
      rcases hp : m.appendRefusal? p with _ | refusal
      · rw [hp] at hrun
        exact .inr ⟨rfl, rfl, hrun⟩
      · exact .inl ⟨refusal, rfl⟩
  · exact .inl ⟨_, rfl⟩

/-- A leaf that asks for a node gets the next one, or finds everything as it was. -/
theorem Appends.ask {p : NodeId} {data : NodeData} {step : Construction NodeId}
    (h : Appends p data step) (stage : Stage σ) :
    (∃ e, Rendering.ask (Drawing.build step) stage = (.ok (.error e), stage)) ∨
      ∃ after, Rendering.ask (Drawing.build step) stage =
          (.ok (.ok stage.markup.nextId), after) ∧
        stage.markup.appendRefusal? p = none ∧ after.markup = stage.markup.grow p data ∧
        (stage.markup.WellFormed → after.markup.WellFormed) := by
  obtain ⟨⟨m, events⟩, state⟩ := stage
  rcases h m with ⟨e, hrefused⟩ | ⟨hp, happend, hgrown⟩
  · refine .inl ⟨e, ?_⟩
    simp only [Rendering.ask, Drawing.build, hrefused]
  · refine .inr ⟨⟨⟨m.grow p data, events⟩, state⟩, ?_, hp, rfl, hgrown⟩
    simp only [Rendering.ask, Drawing.build, happend]
    rfl

/-- An element or a text that could be drawn is the next node. -/
theorem Appends.draw {p node : NodeId} {data : NodeData} {step : Construction NodeId}
    (h : Appends p data step) {stage after : Stage σ}
    (hdraw : Rendering.draw (Drawing.build step) stage = (.ok node, after)) :
    node = stage.markup.nextId ∧ stage.markup.appendRefusal? p = none ∧
      after.markup = stage.markup.grow p data ∧
      (stage.markup.WellFormed → after.markup.WellFormed) := by
  have hstep : step stage.markup = (.ok node, after.markup) :=
    Drawing.build_ok (Rendering.draw_eq_ok hdraw)
  rcases h stage.markup with ⟨e, hrefused⟩ | ⟨hp, happend, hgrown⟩
  · rw [hrefused] at hstep
    cases hstep
  · obtain ⟨hnode, hafter⟩ := Prod.mk.inj (happend.symm.trans hstep)
    cases hnode
    rw [hafter] at hgrown
    exact ⟨rfl, hp, hafter.symm, hgrown⟩

end Reframes

/-- A node that is appended at the place where a render goes on. -/
theorem Progress.appended {m m' : Markup} {p : NodeId} {outer : List NodeId}
    (h : Progress m (p :: outer)) (hp : m.appendRefusal? p = none) {data : NodeData}
    (hgrow : m' = m.grow p data) (hgrown : m.WellFormed → m'.WellFormed) :
    Progress m' (p :: outer) ∧ Progress m' (m.nextId :: p :: outer) := by
  have hframe : (m.grow p data).SameFrame m' := by
    rw [hgrow]
    exact .refl _
  exact h.grow hp hframe (hgrown h.wellFormed)

section KeepsOrder

variable {σ : Type} {p : NodeId}

/-- If the program succeeds where a render may go on, then the render may go on there. -/
def KeepsOrder (p : NodeId) (x : Rendering σ Unit) : Prop :=
  ∀ outer stage after, Progress stage.markup (p :: outer) → x stage = (.ok (), after) →
    Progress after.markup (p :: outer)

theorem keepsOrder_pure (p : NodeId) : KeepsOrder p (pure () : Rendering σ Unit) := by
  intro outer stage after h hpure
  cases hpure
  exact h

theorem KeepsOrder.andThen {x y : Rendering σ Unit} (hx : KeepsOrder p x) (hy : KeepsOrder p y) :
    KeepsOrder p (x >>= fun _ => y) := by
  intro outer stage after h hboth
  obtain ⟨⟨⟩, mid, hfirst, hsecond⟩ := bind_ok hboth
  exact hy outer mid after (hx outer stage mid h hfirst) hsecond

theorem KeepsOrder.report {x : Rendering σ Unit} (hx : KeepsOrder p x) (event : RenderEvent) :
    KeepsOrder p (Rendering.report event >>= fun _ => x) :=
  fun outer stage after h hboth => hx outer (stage.reported event) after h hboth

theorem keepsOrder_text (p : NodeId) (content : String) :
    KeepsOrder p (do
      let _ ← Rendering.draw (Drawing.build (appendText p content)) : Rendering σ Unit) := by
  intro outer stage after h htext
  obtain ⟨node, drawn, hdraw, hdone⟩ := bind_ok htext
  cases hdone
  obtain ⟨-, hp, hgrow, hgrown⟩ := (appends_text p content).draw hdraw
  exact (h.appended hp hgrow hgrown).1

theorem keepsOrder_enclose {content : NodeId → Rendering σ Unit}
    (hcontent : ∀ node, KeepsOrder node (content node)) (tag : String) (fields : List Field)
    (p : NodeId) : KeepsOrder p (enclose tag fields content p) := by
  intro outer stage after h henclose
  obtain ⟨node, appended, happend, henclose⟩ := bind_ok henclose
  obtain ⟨⟨⟩, framed, hemit, henclose⟩ := bind_ok henclose
  obtain ⟨rfl, hp, hgrow, hgrown⟩ := (appends_element p tag).draw happend
  have hopened := (h.appended hp hgrow hgrown).2
  have hframe := Drawing.reframed_emit stage.markup.nextId fields appended.canvas
  rw [Rendering.draw_eq_ok hemit] at hframe
  have hinside := hcontent _ _ framed after (hopened.reframed hframe) henclose
  exact hinside.sublist (List.sublist_cons_self _ _)

end KeepsOrder

/-! ## The open places of a leaf -/

section Opened

variable {p : NodeId} {own outer : List NodeId} {made : Nat} {opened inner : List Place}
  {place : Place} {m : Markup}

/-- The open places of a leaf are the first ones where the render may go on, and the node that
it was given is the last one of them. -/
structure Opened (p : NodeId) (own outer : List NodeId) (made : Nat) (opened : List Place)
    (m : Markup) : Prop where
  length : own.length = made
  here : [Place.here] <:+ opened
  lt : ∀ index, .own index ∈ opened → index < made
  progress : Progress m (opened.map (Place.node p own) ++ outer)

namespace Opened

theorem begun (h : Progress m (p :: outer)) : Opened p [] outer 0 [.here] m where
  length := rfl
  here := List.suffix_rfl
  lt := fun _ hmem => nomatch List.mem_singleton.mp hmem
  progress := h

/-- Going back to a place closes those inside it. -/
theorem back (h : Opened p own outer made opened m) (hplace : place :: inner <:+ opened) :
    Opened p own outer made (place :: inner) m where
  length := h.length
  here := List.suffix_of_suffix_length_le h.here hplace (Nat.succ_le_succ (Nat.zero_le _))
  lt := fun index hmem => h.lt index (hplace.subset hmem)
  progress := h.progress.sublist ((hplace.sublist.map _).append_right outer)

theorem reframed {m' : Markup} (h : Opened p own outer made opened m) (hm : Reframed m m') :
    Opened p own outer made opened m' := { h with progress := h.progress.reframed hm }

/-- A leaf that is refused a node has the nodes that it had. -/
theorem refused (h : Opened p own outer made opened m) :
    Opened p (own ++ []) outer made opened m := by rwa [List.append_nil]

/-- In the end all places are closed but the one that the leaf was given. -/
theorem closed (h : Opened p own outer made opened m) : Progress m (p :: outer) :=
  h.progress.sublist ((h.here.sublist.map (Place.node p own)).append_right outer)

/-- A new node of the leaf's own does not move the others. -/
theorem map_node (hlength : own.length = made) (hlt : ∀ index, .own index ∈ opened → index < made)
    (node : NodeId) :
    opened.map (Place.node p (own ++ [node])) = opened.map (Place.node p own) := by
  refine List.map_congr_left fun place hplace => ?_
  cases place with
  | here => rfl
  | own index =>
      have hindex : index < own.length := hlength ▸ hlt index hplace
      simp only [Place.node, List.getD_eq_getElem?_getD, List.getElem?_append_left hindex]

/-- A node is appended at the innermost place, and may be opened. -/
theorem appended {m' : Markup} (h : Opened p own outer made (place :: inner) m)
    (hplace : m.appendRefusal? (place.node p own) = none) {data : NodeData}
    (hgrow : m' = m.grow (place.node p own) data) (hgrown : m.WellFormed → m'.WellFormed) :
    Opened p (own ++ [m.nextId]) outer (made + 1) (place :: inner) m' ∧
      Opened p (own ++ [m.nextId]) outer (made + 1) (.own made :: place :: inner) m' := by
  obtain ⟨hclosed, hopened⟩ := h.progress.appended hplace hgrow hgrown
  have hlength : (own ++ [m.nextId]).length = made + 1 := by
    rw [List.length_append, h.length, List.length_singleton]
  have hnodes := map_node (p := p) h.length h.lt m.nextId
  have hlt : ∀ index, .own index ∈ place :: inner → index < made + 1 :=
    fun index hmem => Nat.lt_succ_of_lt (h.lt index hmem)
  refine ⟨⟨hlength, h.here, hlt, ?_⟩, ⟨hlength, h.here.trans (List.suffix_cons _ _), ?_, ?_⟩⟩
  · rw [hnodes]
    exact hclosed
  · intro index hmem
    rcases List.mem_cons.mp hmem with hself | hmem
    · cases hself
      exact Nat.lt_succ_self made
    · exact hlt index hmem
  · have hnew : (Place.own made).node p (own ++ [m.nextId]) = m.nextId := by
      rw [Place.node, List.getD_eq_getElem?_getD, ← h.length, List.getElem?_concat_length,
        Option.getD_some]
    rw [List.map_cons, hnew, hnodes]
    exact hopened

end Opened

end Opened

/-! ## Kept by orderly components -/

section Orderly

variable {κ σ : Type} [KeyFamily κ]

mutual

theorem Component.Orderly.keepsOrder (env : Environment κ) (p : NodeId) :
    (c : Component κ σ) → c.Orderly → KeepsOrder p (c.render env p)
  | .control c, _ => by
      rw [Component.render_control]
      exact (keepsOrder_enclose keepsOrder_pure _ _ p).report _
  | .text content, _ => by
      rw [Component.render]
      exact (keepsOrder_text p content).report _
  | .division ⟨children, id, classes⟩, h => by
      cases h with
      | division h =>
          rw [Component.render_division]
          exact (keepsOrder_enclose (fun node =>
            Component.Orderly.keepsOrder_all env node children h) _ _ p).report _
  | .label ⟨children, target, id, classes⟩, h => by
      cases h with
      | label h =>
          rw [Component.render_label]
          exact (keepsOrder_enclose (fun node =>
            Component.Orderly.keepsOrder_all env node children h) _ _ p).report _
  | .leaf name draw, h => by
      cases h with
      | leaf h =>
          rw [Component.render]
          refine KeepsOrder.report (fun outer stage after hstart hdone => ?_) _
          exact Program.Orderly.keepsOrder (draw env) (h env) (.begun hstart) hdone
  | .composing name environment body advance, h => by
      cases h with
      | composing h =>
          intro outer stage after hstart hdone
          rw [Component.render] at hdone
          exact Component.Orderly.keepsOrder _ p (body _ _) (h _ _) outer
            (stage.expanded name _) after hstart hdone
  | .group members, h => by
      cases h with
      | group h =>
          rw [Component.render]
          exact Component.Orderly.keepsOrder_all env p members h

theorem Component.Orderly.keepsOrder_all (env : Environment κ) (p : NodeId) :
    (cs : List (Component κ σ)) → (∀ c ∈ cs, c.Orderly) →
      KeepsOrder p (Component.renderAll env p cs)
  | [], _ => by
      rw [Component.renderAll]
      exact keepsOrder_pure p
  | c :: cs, h => by
      rw [Component.renderAll]
      exact (Component.Orderly.keepsOrder env p c (h c List.mem_cons_self)).andThen
        (Component.Orderly.keepsOrder_all env p cs fun d hd => h d (List.mem_cons_of_mem c hd))

theorem Program.Orderly.keepsOrder {made : Nat} {opened : List Place} {p : NodeId}
    {own outer : List NodeId} {stage after : Stage σ} :
    (program : Program κ σ) → program.Orderly made opened →
      Opened p own outer made opened stage.markup →
      Component.perform p own program stage = (.ok (), after) → Progress after.markup (p :: outer)
  | .done, _, hopened, hdone => by
      rw [Component.perform] at hdone
      cases hdone
      exact hopened.closed
  | .fail error, _, _, hdone => by
      rw [Component.perform] at hdone
      cases hdone
  | .element place tag next, h, hopened, hdone => by
      cases h with
      | element hplace hok herror =>
          rw [Component.perform, bind_apply] at hdone
          rcases (appends_element (place.node p own) tag).ask stage with
            ⟨e, hrefused⟩ | ⟨mid, happend, hnone, hgrow, hgrown⟩
          · rw [hrefused] at hdone
            exact Program.Orderly.keepsOrder (next (.error e)) (herror e) hopened.refused hdone
          · rw [happend] at hdone
            exact Program.Orderly.keepsOrder (next (.ok ())) hok
              ((hopened.back hplace).appended hnone hgrow hgrown).2 hdone
  | .text place content next, h, hopened, hdone => by
      cases h with
      | text hplace hok herror =>
          rw [Component.perform, bind_apply] at hdone
          rcases (appends_text (place.node p own) content).ask stage with
            ⟨e, hrefused⟩ | ⟨mid, happend, hnone, hgrow, hgrown⟩
          · rw [hrefused] at hdone
            exact Program.Orderly.keepsOrder (next (.error e)) (herror e) hopened.refused hdone
          · rw [happend] at hdone
            exact Program.Orderly.keepsOrder (next (.ok ())) hok
              ((hopened.back hplace).appended hnone hgrow hgrown).1 hdone
  | .set index name value next, h, hopened, hdone => by
      cases h with
      | set h =>
          rw [Component.perform] at hdone
          let node := (Place.own index).node p own
          have hframe : Reframed stage.markup
              (Rendering.ask (Drawing.build (setAttribute node name value)) stage).2.markup :=
            Drawing.reframed_setAttribute node name value stage.canvas
          exact Program.Orderly.keepsOrder (next _) (h _) (hopened.reframed hframe) hdone
  | .emit index fields next, h, hopened, hdone => by
      cases h with
      | emit h =>
          rw [Component.perform] at hdone
          let node := (Place.own index).node p own
          have hframe : Reframed stage.markup
              (Rendering.ask (Drawing.emit node fields) stage).2.markup :=
            Drawing.reframed_emit node fields stage.canvas
          exact Program.Orderly.keepsOrder (next _) (h _) (hopened.reframed hframe) hdone
  | .render place env c next, h, hopened, hdone => by
      cases h with
      | render hplace hc hok herror =>
          rw [Component.perform, Rendering.attempt_bind _ fun e => by
            rw [herror e, Component.perform]] at hdone
          obtain ⟨⟨⟩, mid, hrender, hdone⟩ := bind_ok hdone
          -- the places of the rendered component are closed again when it is done
          have hback := hopened.back hplace
          have hmid := Component.Orderly.keepsOrder env _ c hc _ stage mid hback.progress hrender
          exact Program.Orderly.keepsOrder (next (.ok ())) hok { hback with progress := hmid } hdone
  | .look next, h, hopened, hdone => by
      cases h with
      | look h =>
          rw [Component.perform] at hdone
          exact Program.Orderly.keepsOrder (next stage.markup p own) (h _ _ _) hopened hdone

end

/-- Walking through a page of orderly components comes to its nodes in the order of their
numbers. -/
theorem walk_renderFresh {page : Component κ σ} (h : page.Orderly) {env : Environment κ} {state : σ}
    {m : Markup} (hm : (renderFresh page env state).result = .ok m) : m.walk root = m.ids := by
  rw [result_renderFresh] at hm
  rcases hrender : page.render env root (Stage.begun page state) with ⟨e | _, after⟩ <;>
    rw [hrender] at hm <;> cases hm
  have hstart : Progress (Stage.begun page state).markup [root] := .empty
  have hprogress := Component.Orderly.keepsOrder env root page h [] _ after hstart hrender
  rw [hprogress.wellFormed.walk_eq_listing,
    hprogress.wellFormed.listing_root_eq hprogress.inOrder]

end Orderly

end HtmlComponents
