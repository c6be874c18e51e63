import HtmlComponents.Proofs.Locality
import HtmlComponents.Proofs.Untouched

/-!
# Rendering elsewhere

A component may be rendered at the root of a fresh tree or at a node of a tree that
has grown already, and it does the same in both places. The proof runs the two
renders side by side. At any moment the tree that has grown is the tree as it was,
with the fresh tree grafted onto it: what is below the fresh root hangs below the
node in question, behind the children that the node had before. `Grafted` says so
node by node.

Node numbers differ between the two runs, but only by a shift: numbers are handed
out in the order of creation, and both runs create the same nodes in the same order.
`moved` is that shift. It sends the fresh root, where the fresh run appends, to the
node where the other run appends.

The two runs get stuck at the same point as well, since a call looks at nothing but
the node that it is about, and the run has created that node itself or only appends
to it. So a render that fails is no different from one that does not.
-/

namespace HtmlComponents

namespace Markup

variable {m : Markup} {p : NodeId}

/-- What stands below younger nodes than the given one is what stood there. -/
theorem Untouched.shapes_eq {m' : Markup} (h : Untouched p m m') (hm : m.WellFormed)
    (hm' : m'.WellFormed) {id : NodeId} (hid : m.contains id = true)
    (hlt : p.number < id.number) : m'.shapes id = m.shapes id := by
  -- the nodes below are younger still, so none of them is `p`
  refine (hm.shapes_congr hm' (fun id => m.contains id = true ∧ p.number < id.number)
    ?_ ?_ ?_ ⟨hid, hlt⟩).symm
  · exact fun hid => (h.get? _ hid.1).symm
  · intro id hid
    refine (h.children id hid.1 ?_).symm
    rintro rfl
    exact absurd hid.2 (Nat.lt_irrefl _)
  · exact fun hid child hchild => ⟨hm.contains_of_mem_children hchild,
      Nat.lt_trans hid.2 (hm.number_lt hchild)⟩

/-! ## Moving nodes -/

theorem ne_root_of_lt {id : NodeId} (h : 1 < id.number) : id ≠ root := by
  rintro rfl
  exact absurd h (Nat.lt_irrefl _)

theorem eq_root_or_lt {id : NodeId} (h : 0 < id.number) : id = root ∨ 1 < id.number := by
  obtain ⟨number⟩ := id
  rw [root, NodeId.mk.injEq]
  have hpos : 0 < number := h
  show number = 1 ∨ 1 < number
  omega

/-- Where a node of a fresh tree is found after the tree has been grafted onto `m`
at the node `p`. -/
def moved (m : Markup) (p id : NodeId) : NodeId :=
  if id = root then p else ⟨m.size - 1 + id.number⟩

theorem moved_root (m : Markup) (p : NodeId) : moved m p root = p := if_pos rfl

theorem moved_of_lt {id : NodeId} (h : 1 < id.number) :
    moved m p id = ⟨m.size - 1 + id.number⟩ := if_neg (ne_root_of_lt h)

theorem not_contains_moved (hp : m.contains p = true) {id : NodeId} (h : 1 < id.number) :
    m.contains (moved m p id) = false := by
  rw [Bool.eq_false_iff, moved_of_lt h]
  intro hmoved
  have hle : m.size - 1 + id.number ≤ m.size := (contains_iff.mp hmoved).2
  have hsize := contains_iff.mp hp
  omega

theorem moved_ne (hp : m.contains p = true) {id : NodeId} (h : 1 < id.number) :
    moved m p id ≠ p := by
  intro heq
  have hout := not_contains_moved hp h
  rw [heq, hp] at hout
  cases hout

theorem moved_inj (hp : m.contains p = true) {a b : NodeId} (ha : 0 < a.number)
    (hb : 0 < b.number) : moved m p a = moved m p b ↔ a = b := by
  refine ⟨fun h => ?_, fun h => congrArg _ h⟩
  rcases eq_root_or_lt ha with rfl | ha' <;> rcases eq_root_or_lt hb with rfl | hb'
  · rfl
  · exact absurd (h.symm.trans (moved_root m p)) (moved_ne hp hb')
  · exact absurd (h.trans (moved_root m p)) (moved_ne hp ha')
  · rw [moved_of_lt ha', moved_of_lt hb', NodeId.mk.injEq] at h
    cases a
    cases b
    rw [NodeId.mk.injEq]
    exact Nat.add_left_cancel h

/-! ## Grafted trees -/

/-- The tree `grown` is the tree `m` with the tree `fresh` grafted onto it at the
node `p`: the nodes of `m` are as they were, apart from the new children of `p`, and
the nodes of `fresh` are found under their moved numbers. -/
structure Grafted (m : Markup) (p : NodeId) (fresh grown : Markup) : Prop where
  get?_root : fresh.get? root = some .document
  size_eq : grown.size = m.size - 1 + fresh.size
  untouched : Untouched p m grown
  get?_moved : ∀ {id}, 1 < id.number → grown.get? (moved m p id) = fresh.get? id
  parent?_moved : ∀ {id}, 1 < id.number →
    grown.parent? (moved m p id) = (fresh.parent? id).map (moved m p)
  /-- At the root's place the old children stand in front. -/
  children_moved : ∀ {id}, 0 < id.number →
    grown.children (moved m p id) =
      m.children (moved m p id) ++ (fresh.children id).map (moved m p)

namespace Grafted

theorem empty (hp : m.contains p = true) : Grafted m p Markup.empty m where
  get?_root := rfl
  size_eq := by
    have hsize := contains_iff.mp hp
    show m.size = m.size - 1 + 1
    omega
  untouched := .refl p m
  get?_moved := by
    intro id hid
    rw [get?_eq_none_iff.mpr (not_contains_moved hp hid), get?_empty, if_neg (ne_root_of_lt hid)]
  parent?_moved := by
    intro id hid
    rw [parent?_eq_none (not_contains_moved hp hid), parent?_empty]
    rfl
  children_moved := by
    intro id _
    rw [children_empty, List.map_nil, List.append_nil]

variable {fresh grown : Markup} (h : Grafted m p fresh grown)

include h

/-- The next node of the one tree is the next node of the other. -/
theorem moved_nextId : moved m p fresh.nextId = grown.nextId := by
  have hfresh : 0 < fresh.size := (contains_iff.mp (contains_of_get? h.get?_root)).2
  have hnumber : 1 < fresh.nextId.number := Nat.succ_lt_succ hfresh
  rw [moved_of_lt hnumber, nextId_eq, nextId_eq, NodeId.mk.injEq]
  have hsize := h.size_eq
  simp only [nextId_eq] at hnumber ⊢
  omega

theorem grow (hp : m.contains p = true) {q : NodeId} (data : NodeData)
    (hfresh : fresh.contains q = true) (hgrown : grown.contains (moved m p q) = true) :
    Grafted m p (fresh.grow q data) (grown.grow (moved m p q) data) := by
  have hq : 0 < q.number := (contains_iff.mp hfresh).1
  have hnext := h.moved_nextId
  have hnextpos : 0 < fresh.nextId.number := Nat.succ_pos _
  have hmoved : ∀ {id : NodeId}, 0 < id.number →
      (moved m p id = grown.nextId ↔ id = fresh.nextId) := by
    intro id hid
    rw [← hnext, moved_inj hp hid hnextpos]
  constructor
  case get?_root =>
    rw [get?_grow, if_neg (ne_nextId (contains_of_get? h.get?_root))]
    exact h.get?_root
  case size_eq =>
    rw [size_grow, size_grow, h.size_eq, Nat.add_assoc]
  case untouched =>
    refine h.untouched.grow ?_ hgrown data
    rcases eq_root_or_lt hq with rfl | hlt
    · exact .inl (moved_root m p)
    · exact .inr (not_contains_moved hp hlt)
  case get?_moved =>
    intro id hid
    rw [get?_grow, get?_grow, h.get?_moved hid]
    simp only [hmoved (Nat.lt_of_succ_lt hid)]
  case parent?_moved =>
    intro id hid
    rw [parent?_grow, parent?_grow, h.parent?_moved hid]
    simp only [hmoved (Nat.lt_of_succ_lt hid)]
    split <;> rfl
  case children_moved =>
    intro id hid
    rw [children_grow data hgrown, children_grow data hfresh]
    by_cases hidq : id = q
    · rw [hidq, if_pos rfl, if_pos rfl, h.children_moved hq, List.map_append, List.map_singleton,
        hnext, List.append_assoc]
    · rw [if_neg hidq, if_neg fun heq => hidq ((moved_inj hp hid hq).mp heq)]
      exact h.children_moved hid

theorem withAttribute (hp : m.contains p = true) {node : NodeId} (hnode : 1 < node.number)
    (a : Attribute) {e : ElementData} (hget : fresh.get? node = some (.element e)) :
    Grafted m p (fresh.withAttribute node a) (grown.withAttribute (moved m p node) a) := by
  have hgrown : grown.get? (moved m p node) = some (.element e) :=
    (h.get?_moved hnode).trans hget
  constructor
  case get?_root =>
    rw [get?_withAttribute a hget, if_neg (ne_root_of_lt hnode).symm]
    exact h.get?_root
  case size_eq =>
    rw [size_withAttribute, size_withAttribute]
    exact h.size_eq
  case untouched => exact h.untouched.withAttribute (not_contains_moved hp hnode) a
  case get?_moved =>
    intro id hid
    have hpos := Nat.lt_of_succ_lt hid
    rw [get?_withAttribute a hgrown, get?_withAttribute a hget, h.get?_moved hid]
    simp only [moved_inj hp hpos (Nat.lt_of_succ_lt hnode)]
  case parent?_moved =>
    intro id hid
    rw [parent?_withAttribute, parent?_withAttribute]
    exact h.parent?_moved hid
  case children_moved =>
    intro id hid
    rw [children_withAttribute, children_withAttribute]
    exact h.children_moved hid

/-- At corresponding nodes both trees refuse an append, or neither does. -/
theorem appendRefusal? (hp : m.appendRefusal? p = none) {q : NodeId} (hq : 0 < q.number) :
    grown.appendRefusal? (moved m p q) = fresh.appendRefusal? q := by
  rcases eq_root_or_lt hq with rfl | hlt
  · obtain ⟨data, hget, hdata⟩ := appendRefusal?_eq_none_iff.mp hp
    have hold := h.untouched.get? p (contains_of_get? hget)
    rw [moved_root, appendRefusal?_eq_none_iff.mpr ⟨data, hold.trans hget, hdata⟩,
      appendRefusal?_eq_none_iff.mpr ⟨.document, h.get?_root, rfl⟩]
  · rw [Markup.appendRefusal?, Markup.appendRefusal?, h.get?_moved hlt]

theorem attributeRefusal? {node : NodeId} (hnode : 1 < node.number) (name : String) :
    grown.attributeRefusal? (moved m p node) name = fresh.attributeRefusal? node name := by
  rw [Markup.attributeRefusal?, Markup.attributeRefusal?, h.get?_moved hnode]

/-! What the grafted part shows is what the fresh tree shows. -/

theorem children_place :
    grown.children p = m.children p ++ (fresh.children root).map (moved m p) := by
  have hroot := h.children_moved (show 0 < root.number by decide)
  rwa [moved_root] at hroot

theorem shapes_moved (hp : m.contains p = true) (hfresh : fresh.WellFormed)
    (hgrown : grown.WellFormed) {id : NodeId} (hid : 1 < id.number) :
    grown.shapes (moved m p id) = fresh.shapes id := by
  refine (hfresh.shapes_eq_of_similar hgrown
    (fun a b => 1 < a.number ∧ b = moved m p a) ?_ ?_ id _ ⟨hid, rfl⟩).symm
  · rintro a _ ⟨ha, rfl⟩
    exact (h.get?_moved ha).symm
  · rintro a _ ⟨ha, rfl⟩
    rw [h.children_moved (Nat.lt_of_succ_lt ha), children_eq_nil (not_contains_moved hp ha),
      List.nil_append, List.forall₂_map_right_iff, List.forall₂_same]
    exact fun child hchild => ⟨Nat.lt_trans ha (hfresh.number_lt hchild), rfl⟩

theorem flatMap_shapes_moved (hp : m.contains p = true) (hfresh : fresh.WellFormed)
    (hgrown : grown.WellFormed) :
    ((fresh.children root).map (moved m p)).flatMap grown.shapes = fresh.forest root := by
  rw [List.flatMap_map, forest]
  exact List.flatMap_congr fun child hchild =>
    h.shapes_moved hp hfresh hgrown (hfresh.number_lt hchild)

/-- Below the node where the fresh tree was grafted, its shapes follow the shapes
that were there. -/
theorem forest_place (hp : m.contains p = true) (hm : m.WellFormed)
    (hfresh : fresh.WellFormed) (hgrown : grown.WellFormed) :
    grown.forest p = m.forest p ++ fresh.forest root := by
  have hold : (m.children p).flatMap grown.shapes = m.forest p :=
    List.flatMap_congr fun child hchild =>
      h.untouched.shapes_eq hm hgrown (hm.contains_of_mem_children hchild) (hm.number_lt hchild)
  rw [forest, h.children_place, List.flatMap_append, hold,
    h.flatMap_shapes_moved hp hfresh hgrown]

end Grafted

end Markup

/-! ## The two runs

Wherever the fresh run appends, the other run appends at the moved node, and the
nodes that they get correspond. Attributes are set on such nodes only: the fresh
root would refuse them and its place need not. A leaf that names a node which it does
not have is refused in both runs. -/

section Runs

open Markup Element

variable {m : Markup} {p : NodeId}

/-- The trees of the two runs. -/
structure Beside (m : Markup) (p : NodeId) (fresh grown : Markup) : Prop where
  grafted : Grafted m p fresh grown
  fresh : fresh.WellFormed
  grown : grown.WellFormed

theorem Beside.empty (hm : m.WellFormed) (hp : m.contains p = true) :
    Beside m p Markup.empty m :=
  ⟨.empty hp, wellFormed_empty, hm⟩

/-- Trees that stay grafted stay beside each other, since calls keep both in order. -/
theorem Parallel.beside {α α' : Type} {value : α → α' → Prop} {x : Construction α}
    {y : Construction α'} (h : Parallel (Grafted m p) value x y) (call call' : Call)
    (hx : ∀ m, (x m).2 = call.run m) (hy : ∀ m, (y m).2 = call'.run m) :
    Parallel (Beside m p) value x y := by
  intro fresh grown hbeside
  obtain ⟨hanswer, hgrafted⟩ := h fresh grown hbeside.grafted
  refine ⟨hanswer, hgrafted, ?_, ?_⟩
  · rw [hx]
    exact hbeside.fresh.run call
  · rw [hy]
    exact hbeside.grown.run call'

/-- A node that was appended in the fresh run, and the same node in the other run. -/
def Created (m : Markup) (p node node' : NodeId) : Prop :=
  1 < node.number ∧ node' = moved m p node

/-- An own node of a leaf in the two runs, or a node that the leaf does not have. -/
def Named (m : Markup) (p node node' : NodeId) : Prop :=
  Created m p node node' ∨ node = ⟨0⟩ ∧ node' = ⟨0⟩

theorem named_own (q q' : NodeId) {own : List NodeId} (h : ∀ node ∈ own, 1 < node.number)
    (index : Nat) :
    Named m p ((Place.own index).node q own)
      ((Place.own index).node q' (own.map (moved m p))) := by
  rw [Place.node, Place.node, List.getD_eq_getElem?_getD, List.getD_eq_getElem?_getD,
    List.getElem?_map]
  rcases hnode : own[index]? with _ | node
  · exact .inr ⟨rfl, rfl⟩
  · exact .inl ⟨h node (List.mem_of_getElem? hnode), rfl⟩

/-- A place where the two runs draw, or no node. -/
def Matched (m : Markup) (p q q' : NodeId) : Prop :=
  0 < q.number ∧ q' = moved m p q ∨ q = ⟨0⟩ ∧ q' = ⟨0⟩

theorem Created.matched {node node' : NodeId} (h : Created m p node node') :
    Matched m p node node' :=
  .inl ⟨Nat.lt_of_succ_lt h.1, h.2⟩

theorem matched_root (m : Markup) (p : NodeId) : Matched m p root p :=
  .inl ⟨by decide, (moved_root m p).symm⟩

theorem matched_place {q q' : NodeId} (hq : Matched m p q q') {own : List NodeId}
    (h : ∀ node ∈ own, 1 < node.number) (place : Place) :
    Matched m p (place.node q own) (place.node q' (own.map (moved m p))) := by
  cases place with
  | here => exact hq
  | own index => exact (named_own q q' h index).elim Created.matched .inr

/-- What a leaf is told of an append is the same in both runs, and its own nodes afterwards
are the same up to the shift. -/
theorem Alike.appended {own : List NodeId} (hown : ∀ node ∈ own, 1 < node.number)
    {answer answer' : Except Markup.Error NodeId} (h : Alike (Created m p) answer answer') :
    answer.map (fun _ => ()) = answer'.map (fun _ => ()) ∧
      (own ++ answer.toOption.toList).map (moved m p) =
        own.map (moved m p) ++ answer'.toOption.toList ∧
      ∀ node ∈ own ++ answer.toOption.toList, 1 < node.number := by
  cases h with
  | @ok node _ hnode =>
      obtain ⟨hnode, rfl⟩ := hnode
      refine ⟨rfl, List.map_append, fun id hid => ?_⟩
      rcases List.mem_append.mp hid with hid | hid
      · exact hown id hid
      · rwa [List.mem_singleton.mp hid]
  | error e => exact ⟨rfl, List.map_append, by simpa [Except.toOption] using hown⟩

variable (hp : m.appendRefusal? p = none)

include hp

namespace Markup

theorem parallel_append {q q' : NodeId} (hq : Matched m p q q') (data : NodeData) :
    Parallel (Grafted m p) (Created m p) (append q data) (append q' data) := by
  intro fresh grown h
  rw [append_eq, append_eq]
  rcases hq with ⟨hq, rfl⟩ | ⟨rfl, rfl⟩
  · rw [h.appendRefusal? hp hq]
    split
    · exact ⟨.error _, h⟩
    · next hrefusal =>
        have hgrown := (h.appendRefusal? hp hq).trans hrefusal
        have hnumber : 1 < fresh.nextId.number := Nat.succ_lt_succ
          (contains_iff.mp (contains_of_get? h.get?_root)).2
        exact ⟨.ok ⟨hnumber, h.moved_nextId.symm⟩,
          h.grow (contains_of_appendRefusal? hp) data (contains_of_appendRefusal? hrefusal)
            (contains_of_appendRefusal? hgrown)⟩
  · exact ⟨.error _, h⟩

theorem parallel_appendElement {q q' : NodeId} (hq : Matched m p q q') (tag : String) :
    Parallel (Beside m p) (Created m p) (appendElement q tag) (appendElement q' tag) := by
  refine Parallel.beside (fun fresh grown h => ?_) (.appendElement q tag)
    (.appendElement q' tag) (fun _ => rfl) fun _ => rfl
  rw [appendElement_eq, appendElement_eq]
  split
  · exact parallel_append hp hq _ fresh grown h
  · exact ⟨.error _, h⟩

theorem parallel_appendText {q q' : NodeId} (hq : Matched m p q q') (content : String) :
    Parallel (Beside m p) (Created m p) (appendText q content) (appendText q' content) :=
  (parallel_append hp hq _).beside (.appendText q content) (.appendText q' content)
    (fun _ => rfl) fun _ => rfl

theorem parallel_setAttribute {node node' : NodeId} (hnode : Named m p node node')
    (name : String) (value : Option String) :
    Parallel (Beside m p) Eq (setAttribute node name value) (setAttribute node' name value) := by
  refine Parallel.beside (fun fresh grown h => ?_) (.setAttribute node name value)
    (.setAttribute node' name value) (fun _ => rfl) fun _ => rfl
  rw [setAttribute_eq, setAttribute_eq]
  rcases hnode with ⟨hnode, rfl⟩ | ⟨rfl, rfl⟩
  · rw [h.attributeRefusal? hnode]
    split
    · split
      · exact ⟨.error _, h⟩
      · next hrefusal =>
          obtain ⟨e, hget, -⟩ := attributeRefusal?_eq_none_iff.mp hrefusal
          exact ⟨.ok rfl, h.withAttribute (contains_of_appendRefusal? hp) hnode _ hget⟩
    · exact ⟨.error _, h⟩
  · have hnone : ∀ m : Markup, m.attributeRefusal? ⟨0⟩ name = some .unknownNode := fun _ => rfl
    rw [hnone, hnone]
    split <;> exact ⟨.error _, h⟩

end Markup

namespace Drawing

theorem parallel_emit {node node' : NodeId} (hnode : Named m p node node')
    (fields : List Field) :
    Parallel (OnCanvas (Beside m p)) Eq (emit node fields) (emit node' fields) := by
  induction fields with
  | nil => exact parallel_pure rfl
  | cons field fields ih =>
      rw [emit, emit]
      split
      · exact ih
      · rw [emitAttribute, emitAttribute]
        exact ((parallel_report _).bind fun _ _ _ =>
          (parallel_setAttribute hp hnode _ _).build).bind fun _ _ _ => ih

end Drawing

theorem Rendering.parallel_enclose {σ : Type} {q q' : NodeId} (hq : Matched m p q q')
    (tag : String) (fields : List Field) {content : NodeId → Rendering σ Unit}
    (h : ∀ {node node' : NodeId}, Matched m p node node' →
      Parallel (OnStage (Beside m p)) Eq (content node) (content node')) :
    Parallel (OnStage (Beside m p)) Eq (enclose tag fields content q)
      (enclose tag fields content q') := by
  rw [enclose, enclose]
  refine (parallel_appendElement hp hq _).build.draw.bind fun node node' hnode => ?_
  exact (Drawing.parallel_emit hp (.inl hnode) _).draw.bind fun _ _ _ => h hnode.matched

end Runs

/-! ## Whole pages -/

section Pages

variable {κ σ : Type} [KeyFamily κ]

/-- The stage on which a page's component is rendered: the tree is empty, and the beginning
is recorded. -/
def Stage.begun (page : Component κ σ) (state : σ) : Stage σ :=
  ⟨⟨Markup.empty, #[.renderStart page.componentType]⟩, state⟩

/-- What comes of a page is told by the render of its component. -/
theorem renderFresh_eq (page : Component κ σ) (env : Environment κ) (state : σ) :
    renderFresh page env state =
      match page.render env Markup.root (Stage.begun page state) with
      | (.ok (), after) => ⟨.ok after.markup,
          (after.canvas.events.push (.renderComplete page.componentType after.markup.size)).toList,
          after.hidden⟩
      | (.error e, after) => ⟨.error e, after.canvas.events.toList, after.hidden⟩ := by
  have hbegun : (⟨⟨Markup.empty, #[].push (.renderStart page.componentType)⟩, state⟩ : Stage σ) =
      Stage.begun page state := rfl
  rw [renderFresh, ExceptT.run, Stage.fresh, renderPage_apply, hbegun]
  rcases page.render env Markup.root (Stage.begun page state) with ⟨_ | _, after⟩ <;> rfl

/-- What a page comes to is the answer of its render, and the tree that is left. -/
theorem result_renderFresh (page : Component κ σ) (env : Environment κ) (state : σ) :
    (renderFresh page env state).result =
      (page.render env Markup.root (Stage.begun page state)).1.map fun _ =>
        (page.render env Markup.root (Stage.begun page state)).2.markup := by
  rw [renderFresh_eq]
  rcases page.render env Markup.root (Stage.begun page state) with ⟨_ | _, after⟩ <;> rfl

end Pages

namespace Component

open Markup Rendering

variable {κ σ : Type} [KeyFamily κ] {m : Markup} {p : NodeId}

mutual

theorem parallel_render (hp : m.appendRefusal? p = none) (env : Environment κ)
    {q q' : NodeId} (hq : Matched m p q q') :
    (c : Component κ σ) → c.Local →
      Parallel (OnStage (Beside m p)) Eq (c.render env q) (c.render env q')
  | .control c, _ => by
      rw [render_control, render_control]
      exact (parallel_report _).bind fun _ _ _ =>
        parallel_enclose hp hq _ _ fun _ => parallel_pure rfl
  | .text content, _ => by
      rw [render, render]
      exact (parallel_report _).bind fun _ _ _ =>
        (parallel_appendText hp hq _).build.draw.bind fun _ _ _ =>
          parallel_pure rfl
  | .division ⟨children, id, classes⟩, h => by
      rw [render_division, render_division]
      cases h with
      | division h =>
          exact (parallel_report _).bind fun _ _ _ =>
            parallel_enclose hp hq _ _ fun hnode => parallel_renderAll hp env hnode children h
  | .label ⟨children, target, id, classes⟩, h => by
      rw [render_label, render_label]
      cases h with
      | label h =>
          exact (parallel_report _).bind fun _ _ _ =>
            parallel_enclose hp hq _ _ fun hnode => parallel_renderAll hp env hnode children h
  | .leaf name draw, h => by
      rw [render, render]
      cases h with
      | leaf h =>
          have hown : ∀ node ∈ ([] : List NodeId), 1 < node.number := nofun
          exact (parallel_report _).bind fun _ _ _ =>
            parallel_perform hp hq hown (draw env) (h env)
  | .composing name environment body advance, h => by
      rw [render, render]
      cases h with
      | composing h =>
          refine (parallel_report _).bind fun _ _ _ => (parallel_evaluate _).bind ?_
          rintro derived _ rfl
          refine (parallel_evaluate _).bind ?_
          rintro state _ rfl
          exact parallel_render hp derived hq (body derived state) (h derived state)
  | .group members, h => by
      rw [render, render]
      cases h with
      | group h => exact parallel_renderAll hp env hq members h

theorem parallel_renderAll (hp : m.appendRefusal? p = none) (env : Environment κ)
    {q q' : NodeId} (hq : Matched m p q q') :
    (cs : List (Component κ σ)) → (∀ c ∈ cs, c.Local) →
      Parallel (OnStage (Beside m p)) Eq (renderAll env q cs) (renderAll env q' cs)
  | [], _ => by
      rw [renderAll, renderAll]
      exact parallel_pure rfl
  | c :: cs, h => by
      rw [renderAll, renderAll]
      exact (parallel_render hp env hq c (h c List.mem_cons_self)).bind fun _ _ _ =>
        parallel_renderAll hp env hq cs fun d hd => h d (List.mem_cons_of_mem _ hd)

theorem parallel_perform (hp : m.appendRefusal? p = none) {q q' : NodeId}
    (hq : Matched m p q q') {own : List NodeId} (hown : ∀ node ∈ own, 1 < node.number) :
    (program : Program κ σ) → program.Local →
      Parallel (OnStage (Beside m p)) Eq (perform q own program)
        (perform q' (own.map (moved m p)) program)
  | .done, _ => by
      rw [perform, perform]
      exact parallel_pure rfl
  | .fail error, _ => by
      rw [perform, perform]
      exact parallel_throw error
  | .element place tag next, h => by
      rw [perform, perform]
      cases h with
      | element h =>
          refine (parallel_appendElement hp (matched_place hq hown place) tag).build.ask.bind
            fun answer answer' halike => ?_
          obtain ⟨hsame, hmap, hnew⟩ := halike.appended hown
          rw [← hsame, ← hmap]
          exact parallel_perform hp hq hnew (next _) (h _)
  | .text place content next, h => by
      rw [perform, perform]
      cases h with
      | text h =>
          refine (parallel_appendText hp (matched_place hq hown place) content).build.ask.bind
            fun answer answer' halike => ?_
          obtain ⟨hsame, hmap, hnew⟩ := halike.appended hown
          rw [← hsame, ← hmap]
          exact parallel_perform hp hq hnew (next _) (h _)
  | .set index name value next, h => by
      rw [perform, perform]
      cases h with
      | set h =>
          refine (parallel_setAttribute hp (named_own q q' hown index) name value).build.ask.bind
            fun answer answer' halike => ?_
          rw [← halike.eq]
          exact parallel_perform hp hq hown (next answer) (h answer)
  | .emit index fields next, h => by
      rw [perform, perform]
      cases h with
      | emit h =>
          refine (Drawing.parallel_emit hp (named_own q q' hown index) fields).ask.bind
            fun answer answer' halike => ?_
          rw [← halike.eq]
          exact parallel_perform hp hq hown (next answer) (h answer)
  | .render place env c next, h => by
      rw [perform, perform]
      cases h with
      | render hc h =>
          refine (parallel_render hp env (matched_place hq hown place) c hc).attempt.bind
            fun answer answer' halike => ?_
          rw [← halike.eq]
          exact parallel_perform hp hq hown (next answer) (h answer)
  | .look next, h => by
      rw [perform, perform]
      cases h with
      | look hsame h =>
          refine parallel_look.bind fun fresh grown hbeside => ?_
          have hshapes : List.Forall₂ (fun id id' => fresh.shapes id = grown.shapes id') own
              (own.map (moved m p)) := by
            rw [List.forall₂_map_right_iff, List.forall₂_same]
            exact fun node hnode => (hbeside.grafted.shapes_moved (contains_of_appendRefusal? hp)
              hbeside.fresh hbeside.grown (hown node hnode)).symm
          rw [← hsame hbeside.fresh hbeside.grown hshapes]
          exact parallel_perform hp hq hown (next fresh q own) (h fresh q own)

end

/-- A render at a node that may have children ends as it ends on a fresh tree, and
leaves the fresh tree grafted there. -/
theorem render_grafted (hm : m.WellFormed) (hp : m.appendRefusal? p = none)
    {c : Component κ σ} (hc : c.Local) (env : Environment κ) (events events' : Array RenderEvent)
    (state : σ) :
    (c.render env root ⟨⟨Markup.empty, events⟩, state⟩).1 =
        (c.render env p ⟨⟨m, events'⟩, state⟩).1 ∧
      Beside m p (c.render env root ⟨⟨Markup.empty, events⟩, state⟩).2.markup
        (c.render env p ⟨⟨m, events'⟩, state⟩).2.markup := by
  obtain ⟨hanswer, hbeside, -⟩ := parallel_render hp env (matched_root m p) c hc
    ⟨⟨Markup.empty, events⟩, state⟩ ⟨⟨m, events'⟩, state⟩
    ⟨Beside.empty hm (contains_of_appendRefusal? hp), rfl⟩
  exact ⟨hanswer.eq, hbeside⟩

/-- The page that could be rendered is the tree that its render leaves behind. -/
theorem renderPage_fresh {c : Component κ σ} {env : Environment κ} {state : σ}
    {result : Except RenderError Markup} {alone : Stage σ}
    (hpage : renderPage c env (Stage.fresh state) = (result, alone)) :
    let left := c.render env root ⟨⟨Markup.empty, #[.renderStart c.componentType]⟩, state⟩
    left.1 = result.map (fun _ => ()) ∧ left.2.markup = alone.markup ∧
      ∀ page, result = .ok page → page = alone.markup := by
  intro left
  have hleft : c.render env root
      ⟨⟨Markup.empty, #[].push (.renderStart c.componentType)⟩, state⟩ = left := rfl
  rw [Stage.fresh, renderPage_apply, hleft] at hpage
  rcases left with ⟨e | _, after⟩
  · cases hpage
    exact ⟨rfl, rfl, fun page hok => by cases hok⟩
  · cases hpage
    exact ⟨rfl, rfl, fun page hok => (Except.ok.inj hok).symm⟩

/-- A component whose leaves do not look around is rendered below a node of a tree as it is
on a page of its own, where it finds the same hidden state, if it has any. It answers alike,
and gives up with the same error if it does. The nodes that were there stay as they were,
except that `p` gets new children behind its old ones. The new nodes are as many as the page
has below its root, and below the new children there are the shapes of the page; of
as much of it as was drawn, if an error ended the render. So a page that could be
rendered is written as its new children are. -/
theorem render_eq_renderPage (h : Reachable m)
    (hp : ∃ data, m.get? p = some data ∧ data.isContainer = true) {c : Component κ σ}
    (hc : c.Local) (env : Environment κ) (events : Array RenderEvent) (state : σ)
    {answer : Except RenderError Unit} {after : Stage σ}
    (hrender : c.render env p ⟨⟨m, events⟩, state⟩ = (answer, after))
    {result : Except RenderError Markup} {alone : Stage σ}
    (hpage : renderPage c env (Stage.fresh state) = (result, alone)) :
    answer = result.map (fun _ => ()) ∧
    (∀ id, m.contains id = true →
      after.markup.get? id = m.get? id ∧ after.markup.parent? id = m.parent? id ∧
        (id ≠ p → after.markup.children id = m.children id)) ∧
    after.markup.size + 1 = m.size + alone.markup.size ∧
    ∃ new, after.markup.children p = m.children p ++ new ∧
      (∀ id ∈ new, m.contains id = false) ∧
      new.flatMap after.markup.shapes = alone.markup.forest root ∧
      ∀ page, result = .ok page → ∀ options : HtmlOptions, options.doctype = false →
        String.join (new.map fun id => after.markup.nodeToHtml id options) =
          page.toHtml options := by
  have hplace := appendRefusal?_eq_none_iff.mpr hp
  have hcontains := contains_of_appendRefusal? hplace
  obtain ⟨hleft, hmarkup, hok⟩ := renderPage_fresh hpage
  obtain ⟨hanswer, hbeside⟩ :=
    render_grafted h.wellFormed hplace hc env #[.renderStart c.componentType] events state
  rw [hleft, hrender] at hanswer
  rw [hmarkup, hrender] at hbeside
  obtain ⟨hgrafted, hfresh, hgrown⟩ := hbeside
  have hshapes := hgrafted.flatMap_shapes_moved hcontains hfresh hgrown
  refine ⟨hanswer.symm, fun id hid => ⟨hgrafted.untouched.get? id hid,
    hgrafted.untouched.parent? id hid, hgrafted.untouched.children id hid⟩, ?_, _,
    hgrafted.children_place, ?_, hshapes, ?_⟩
  · have hsize : after.markup.size = m.size - 1 + alone.markup.size := hgrafted.size_eq
    have hpos := contains_iff.mp hcontains
    omega
  · intro id hid
    obtain ⟨child, hchild, rfl⟩ := List.mem_map.mp hid
    exact not_contains_moved hcontains (hfresh.number_lt hchild)
  · intro page hpage options hdoctype
    rw [hok page hpage, hfresh.toHtml_eq, HtmlOptions.heading, hdoctype, ← hshapes,
      ← String.toList_inj, String.toList_join]
    simp [List.flatMap_map, Shape.htmlAll_eq_flatMap, List.flatMap_assoc, nodeToHtml_eq]

/-- A leaf that appends two paragraphs, fills the second one first, goes on after a refused
attribute and after a component that gives up, and comes back to the first one. It is rendered
into a section behind a text, and shows what its page shows. -/
theorem render_eq_renderPage_section :
    let m := Markup.empty.runCalls [.appendElement root "section", .appendText ⟨2⟩ "before"]
    let c : Component Empty Unit := .leaf "Pair" fun env =>
      .element .here "p" fun _ => .element .here "p" fun _ => .text (.own 1) "second" fun _ =>
        .set 1 "a b" none fun _ => .render (.own 0) env (.failing "Form" "broken") fun _ =>
          .text (.own 0) "first" fun _ => .set 0 "id" (some "x") fun _ => .done
    c.Local ∧
    let after := (c.render Environment.empty ⟨2⟩ ⟨⟨m, #[]⟩, ()⟩).2.markup
    ∃ new, after.children ⟨2⟩ = ⟨3⟩ :: new ∧
      String.join (new.map fun id => after.nodeToHtml id {}) =
        "<p id=\"x\">first</p><p>second</p>" := by
  intro m c
  have hfailing : (Component.failing "Form" "broken" : Component Empty Unit).Local :=
    .custom fun _ => List.forall_mem_singleton.mpr (.fail _)
  have hc : c.Local := .leaf fun env => .element fun _ => .element fun _ => .text fun _ =>
    .set fun _ => .render hfailing fun _ => .text fun _ => .set fun _ => .done
  refine ⟨hc, ?_⟩
  intro after
  let alone := renderPage c Environment.empty (Stage.fresh ())
  have hwritten : alone.1.toOption.map (fun page => page.toHtml {}) =
      some "<p id=\"x\">first</p><p>second</p>" := by decide +kernel
  obtain ⟨page, hpage, hwritten⟩ := Option.map_eq_some_iff.mp hwritten
  have hok : alone.1 = .ok page := by
    rcases halone : alone.1 with e | page' <;> rw [halone] at hpage <;> cases hpage
    rfl
  obtain ⟨-, -, -, new, hnew, -, -, hhtml⟩ := render_eq_renderPage
    (Reachable.empty.runCalls [.appendElement root "section", .appendText ⟨2⟩ "before"])
    (p := ⟨2⟩) ⟨.element (.ofTag "section"), by decide +kernel, by decide⟩ hc
    Environment.empty #[] () (Prod.eta _).symm (Prod.eta alone).symm
  exact ⟨new, hnew, (hhtml page hok {} rfl).trans hwritten⟩

end Component

end HtmlComponents
