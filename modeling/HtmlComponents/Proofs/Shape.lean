import HtmlComponents.Markup.Html
import HtmlComponents.Proofs.WellFormed
import Mathlib.Data.List.Forall2

/-!
# The shape of a tree

What is written of a tree, and what two trees in different arenas can have in
common, is a tree without numbers: what each node holds, and the nodes below it in
order. That is its `Shape`. `shapes_of_get?` unfolds the shape below a node by one
level, which the arena's own reading does not allow at once, because it counts
down a depth; in a well-formed arena the depth is always enough.

`shapes_eq_of_similar` is how shapes are compared: two nodes have the same shape
below them if they are related by some relation that goes down along the lists of
children and joins nodes that hold the same. Writing a tree only looks at its
shape, which is `html_shape`.
-/

namespace HtmlComponents.Markup

/-- A tree without the numbers of its nodes. -/
inductive Shape where
  | node (data : NodeData) (children : List Shape)

namespace Tree

mutual

/-- The tree without its numbers. -/
def shape : Tree → Shape
  | node _ data children => .node data (shapeAll children)

def shapeAll : List Tree → List Shape
  | [] => []
  | tree :: trees => tree.shape :: shapeAll trees

end

theorem shapeAll_eq_map (trees : List Tree) : shapeAll trees = trees.map shape := by
  induction trees with
  | nil => rfl
  | cons tree trees ih => rw [shapeAll, ih, List.map_cons]

end Tree

/-- The shape of the tree below a node; no member if the node is unknown. -/
def shapes (m : Markup) (id : NodeId) : List Shape := (m.trees id).map Tree.shape

/-- The shapes of the trees below the children of a node. -/
def forest (m : Markup) (id : NodeId) : List Shape := (m.children id).flatMap m.shapes

/-! ## Reading down -/

/-- A depth that passes the last node is enough, and more changes nothing. -/
theorem WellFormed.treesBelow_eq {m : Markup} (hm : m.WellFormed) :
    ∀ {depth depth' : Nat} {id : NodeId},
      m.size < depth + id.number → m.size < depth' + id.number →
      treesBelow m depth id = treesBelow m depth' id := by
  intro depth
  induction depth with
  | zero =>
      intro depth' id h _
      have hnone : m.slot? id = none := by
        refine slot?_eq_none (Bool.eq_false_iff.mpr fun hid => ?_)
        have := (contains_iff.mp hid).2
        omega
      cases depth' with
      | zero => rfl
      | succ depth' => rw [treesBelow, treesBelow, hnone]
  | succ depth ih =>
      intro depth' id h h'
      cases depth' with
      | zero =>
          have hnone : m.slot? id = none := by
            refine slot?_eq_none (Bool.eq_false_iff.mpr fun hid => ?_)
            have := (contains_iff.mp hid).2
            omega
          rw [treesBelow, treesBelow, hnone]
      | succ depth' =>
          rw [treesBelow, treesBelow]
          rcases hslot : m.slot? id with _ | slot
          · rfl
          · have hbelow : slot.children.flatMap (treesBelow m depth) =
                slot.children.flatMap (treesBelow m depth') := by
              refine List.flatMap_congr fun child hchild => ?_
              rw [← children_of_slot? hslot] at hchild
              have hlt := hm.number_lt hchild
              exact ih (by omega) (by omega)
            simp only [hbelow]

theorem WellFormed.trees_of_slot? {m : Markup} (hm : m.WellFormed) {id : NodeId}
    {slot : Slot} (h : m.slot? id = some slot) :
    m.trees id = [.node id slot.data (slot.children.flatMap m.trees)] := by
  have hid := contains_iff.mp (contains_of_slot? h)
  obtain ⟨depth, hdepth⟩ : ∃ depth, m.size = depth + 1 := ⟨m.size - 1, by omega⟩
  rw [trees, hdepth, treesBelow, h]
  have hbelow : slot.children.flatMap (treesBelow m depth) =
      slot.children.flatMap m.trees := by
    refine List.flatMap_congr fun child hchild => ?_
    rw [← children_of_slot? h] at hchild
    have hlt := hm.number_lt hchild
    exact hm.treesBelow_eq (by omega) (by omega)
  simp only [hbelow]

theorem trees_of_not_contains {m : Markup} {id : NodeId} (h : m.contains id = false) :
    m.trees id = [] := by
  rw [trees]
  cases m.size with
  | zero => rfl
  | succ depth => rw [treesBelow, slot?_eq_none h]

theorem shapes_of_not_contains {m : Markup} {id : NodeId} (h : m.contains id = false) :
    m.shapes id = [] := by
  rw [shapes, trees_of_not_contains h, List.map_nil]

/-- The shape below a node is the node on top of the shapes below its children. -/
theorem WellFormed.shapes_of_get? {m : Markup} (hm : m.WellFormed) {id : NodeId}
    {data : NodeData} (h : m.get? id = some data) :
    m.shapes id = [.node data (m.forest id)] := by
  rw [get?_eq_slot?, Option.map_eq_some_iff] at h
  obtain ⟨slot, hslot, rfl⟩ := h
  rw [shapes, hm.trees_of_slot? hslot, forest, children_of_slot? hslot, List.map_singleton,
    Tree.shape, Tree.shapeAll_eq_map, List.map_flatMap]
  rfl

/-- To show something of every node it is enough to show it of a node whose
children have it. -/
theorem WellFormed.induction_down {m : Markup} (hm : m.WellFormed) {P : NodeId → Prop}
    (h : ∀ id, (∀ child ∈ m.children id, P child) → P id) : ∀ id, P id := by
  intro id
  induction hn : m.size + 1 - id.number using Nat.strongRecOn generalizing id with
  | ind n ih =>
      refine h id fun child hchild => ?_
      have hlt := hm.number_lt hchild
      have hle := (contains_iff.mp (hm.contains_of_mem_children hchild)).2
      exact ih _ (by omega) child rfl

/-- Related nodes have the same shape if relatives hold the same and the relation
goes down from them to their children, one by one. -/
theorem WellFormed.shapes_eq_of_similar {m m' : Markup} (hm : m.WellFormed)
    (hm' : m'.WellFormed) (similar : NodeId → NodeId → Prop)
    (hget : ∀ {id id'}, similar id id' → m.get? id = m'.get? id')
    (hchildren : ∀ {id id'}, similar id id' →
      List.Forall₂ similar (m.children id) (m'.children id')) :
    ∀ id id', similar id id' → m.shapes id = m'.shapes id' := by
  intro id
  induction id using hm.induction_down with
  | h id ih =>
      intro id' hsimilar
      have hsame := hget hsimilar
      have hforest : m.forest id = m'.forest id' := by
        have hbelow := hchildren hsimilar
        rw [forest, forest]
        generalize m'.children id' = children' at hbelow
        generalize m.children id = children at hbelow ih
        induction hbelow with
        | nil => rfl
        | cons hhead _ ihtail =>
            rw [List.flatMap_cons, List.flatMap_cons, ih _ List.mem_cons_self _ hhead,
              ihtail fun child hchild => ih child (List.mem_cons_of_mem _ hchild)]
      rcases hdata : m'.get? id' with _ | data
      · rw [shapes_of_not_contains (get?_eq_none_iff.mp (hsame.trans hdata)),
          shapes_of_not_contains (get?_eq_none_iff.mp hdata)]
      · rw [hm.shapes_of_get? (hsame.trans hdata), hm'.shapes_of_get? hdata, hforest]

/-- A part of the arena that is closed under going down, and in which nothing has
changed, has the shapes it had. -/
theorem WellFormed.shapes_congr {m m' : Markup} (hm : m.WellFormed) (hm' : m'.WellFormed)
    (unchanged : NodeId → Prop)
    (hget : ∀ {id}, unchanged id → m.get? id = m'.get? id)
    (hchildren : ∀ {id}, unchanged id → m.children id = m'.children id)
    (hdown : ∀ {id}, unchanged id → ∀ child ∈ m.children id, unchanged child) :
    ∀ {id}, unchanged id → m.shapes id = m'.shapes id := by
  intro id hid
  refine hm.shapes_eq_of_similar hm' (fun a b => a = b ∧ unchanged a) ?_ ?_ id id ⟨rfl, hid⟩
  · rintro a b ⟨rfl, ha⟩
    exact hget ha
  · rintro a b ⟨rfl, ha⟩
    rw [← hchildren ha, List.forall₂_same]
    exact fun child hchild => ⟨rfl, hdown ha child hchild⟩

/-! ## Writing -/

namespace Shape

mutual

/-- A shape written out. -/
def html (style : VoidStyle) : Shape → List Char
  | node .document children => htmlAll style children
  | node (.text content) _ => escapeText content
  | node (.element data) children =>
    if isVoid data.tag then data.opening ++ style.terminator
    else data.opening ++ ['>'] ++ htmlAll style children ++ closing data.tag

/-- Shapes written one after the other. -/
def htmlAll (style : VoidStyle) : List Shape → List Char
  | [] => []
  | shape :: shapes => shape.html style ++ htmlAll style shapes

end

theorem htmlAll_eq_flatMap (style : VoidStyle) (shapes : List Shape) :
    htmlAll style shapes = shapes.flatMap (html style) := by
  induction shapes with
  | nil => rfl
  | cons shape shapes ih => rw [htmlAll, ih, List.flatMap_cons]

theorem htmlAll_append (style : VoidStyle) (front back : List Shape) :
    htmlAll style (front ++ back) = htmlAll style front ++ htmlAll style back := by
  simp only [htmlAll_eq_flatMap, List.flatMap_append]

theorem htmlAll_flatMap (style : VoidStyle) (ids : List NodeId) (f : NodeId → List Shape) :
    htmlAll style (ids.flatMap f) = ids.flatMap fun id => htmlAll style (f id) := by
  simp only [htmlAll_eq_flatMap, List.flatMap_assoc]

end Shape

mutual

/-- Writing looks at nothing but the shape. -/
theorem Tree.html_shape (style : VoidStyle) :
    (tree : Tree) → tree.shape.html style = tree.html style
  | .node _ .document children => by
      rw [shape, Shape.html, Tree.html]
      exact htmlAll_shapeAll style children
  | .node _ (.text content) children => by
      rw [shape, Shape.html, Tree.html]
  | .node _ (.element data) children => by
      rw [shape, Shape.html, Tree.html, htmlAll_shapeAll style children]

theorem Tree.htmlAll_shapeAll (style : VoidStyle) :
    (trees : List Tree) → Shape.htmlAll style (shapeAll trees) = htmlAll style trees
  | [] => rfl
  | tree :: trees => by
      rw [shapeAll, Shape.htmlAll, htmlAll, html_shape style tree, htmlAll_shapeAll style trees]

end

theorem nodeToHtml_eq (m : Markup) (id : NodeId) (options : HtmlOptions) :
    m.nodeToHtml id options =
      String.ofList (Shape.htmlAll options.voidStyle (m.shapes id)) := by
  rw [nodeToHtml, shapes, ← Tree.shapeAll_eq_map, Tree.htmlAll_shapeAll]

theorem toList_toHtml (m : Markup) (options : HtmlOptions) :
    (m.toHtml options).toList =
      options.heading.toList ++ Shape.htmlAll options.voidStyle (m.shapes root) := by
  rw [toHtml, String.toList_append, nodeToHtml_eq, String.toList_ofList]

theorem WellFormed.htmlAll_shapes_root {m : Markup} (hm : m.WellFormed) (style : VoidStyle) :
    Shape.htmlAll style (m.shapes root) = Shape.htmlAll style (m.forest root) := by
  rw [hm.shapes_of_get? hm.get?_root, Shape.htmlAll, Shape.htmlAll, Shape.html, List.append_nil]

/-- The whole document is written as what stands below its root. -/
theorem WellFormed.toHtml_eq {m : Markup} (hm : m.WellFormed) (options : HtmlOptions) :
    m.toHtml options =
      options.heading ++ String.ofList (Shape.htmlAll options.voidStyle (m.forest root)) := by
  rw [toHtml, nodeToHtml_eq, hm.htmlAll_shapes_root]

end HtmlComponents.Markup
