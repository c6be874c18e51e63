import HtmlComponents.Markup.Html
import HtmlComponents.Markup.Walk
import HtmlComponents.Proofs.Listing

/-!
# One document order

A tree is gone through in two ways: by the walk, with a stack of nodes that wait, and
by the writer, which calls itself on the children. Both come to the nodes in the order
of the listing.

`Walks` is the walk without its budget. A stack is worked off when nothing waits any
more, and what was visited on the way is the stack's order. Working off a node and what
was pushed for it gives the node's listing, whatever waits behind it. So the walk comes
to its end, and the budget, of which a visit takes one, is never used up: no node is
listed twice.

The writer leaves no trace of the nodes in its text. `Tree.pieces` is the same writing
with the text cut into pieces, each marked with its node, and the order is that of the
nodes' first pieces.
-/

namespace HtmlComponents.Markup

/-! ## The walk -/

/-- The stack is worked off, first node first, and these are the nodes visited on the
way. A node that is unknown is dropped; any other one is visited and its children come
in front of what waits. -/
inductive Walks (m : Markup) : (stack order : List NodeId) → Prop where
  | done : Walks m [] []
  | drop {id : NodeId} {waiting order : List NodeId} (hid : m.contains id = false)
      (h : Walks m waiting order) : Walks m (id :: waiting) order
  | visit {id : NodeId} {waiting order : List NodeId} (hid : m.contains id = true)
      (h : Walks m (m.children id ++ waiting) order) : Walks m (id :: waiting) (id :: order)

section Walk

variable {m : Markup}

/-- A stack has one order. -/
theorem Walks.unique {stack order order' : List NodeId} (h : m.Walks stack order)
    (h' : m.Walks stack order') : order' = order := by
  induction h generalizing order' with
  | done =>
      cases h'
      rfl
  | drop hid _ ih =>
      cases h' with
      | drop _ hrest => exact ih hrest
      | visit hid' _ =>
          rw [hid] at hid'
          cases hid'
  | visit hid _ ih =>
      cases h' with
      | drop hid' _ =>
          rw [hid] at hid'
          cases hid'
      | visit _ hrest => rw [ih hrest]

/-- A budget of one for each visit is enough for a stack of known nodes. -/
theorem WellFormed.walkStack_eq (hm : m.WellFormed) {stack order : List NodeId}
    (h : m.Walks stack order) (hstack : ∀ id ∈ stack, m.contains id = true) {budget : Nat}
    (hbudget : order.length ≤ budget) : walkStack m budget stack = order := by
  induction h generalizing budget with
  | done => rw [walkStack]
  | drop hid _ _ =>
      rw [hstack _ List.mem_cons_self] at hid
      cases hid
  | @visit id waiting order hid _ ih =>
      obtain ⟨slot, hslot⟩ := exists_slot? hid
      rw [children_of_slot? hslot] at ih
      have hpushed : ∀ x ∈ slot.children ++ waiting, m.contains x = true := by
        intro x hx
        rcases List.mem_append.mp hx with hchild | hwaiting
        · rw [← children_of_slot? hslot] at hchild
          exact hm.contains_of_mem_children hchild
        · exact hstack x (List.mem_cons_of_mem id hwaiting)
      cases budget with
      | zero => cases hbudget
      | succ budget =>
          rw [walkStack, hslot]
          simp only [ih hpushed (Nat.le_of_succ_le_succ hbudget)]

/-- A node on top of the stack is worked off with everything below it, and then what
waits is. -/
theorem WellFormed.walks_listing (hm : m.WellFormed) (id : NodeId) {waiting order : List NodeId}
    (h : m.Walks waiting order) : m.Walks (id :: waiting) (m.listing id ++ order) := by
  induction id using hm.induction_down generalizing waiting order with
  | h id ih =>
      by_cases hid : m.contains id = true
      · have hbelow : ∀ children, (∀ child ∈ children, child ∈ m.children id) →
            m.Walks (children ++ waiting) (children.flatMap m.listing ++ order) := by
          intro children
          induction children with
          | nil => exact fun _ => h
          | cons child children ihchildren =>
              intro hmem
              rw [List.flatMap_cons, List.append_assoc]
              exact ih child (hmem child List.mem_cons_self)
                (ihchildren fun x hx => hmem x (List.mem_cons_of_mem child hx))
        rw [hm.listing_eq hid, List.cons_append]
        exact .visit hid (hbelow (m.children id) fun _ hchild => hchild)
      · rw [listing_of_not_contains (by simpa using hid)]
        exact .drop (by simpa using hid) h

theorem WellFormed.length_listing_le (hm : m.WellFormed) (id : NodeId) :
    (m.listing id).length ≤ m.size := by
  have hsub : (m.listing id) ⊆ m.ids := fun x hx => mem_ids.mpr (hm.contains_of_mem_listing hx)
  have hle := (List.subperm_of_subset (hm.nodup_listing id) hsub).length_le
  rwa [ids, List.length_map, List.length_range] at hle

theorem WellFormed.walks_start (hm : m.WellFormed) (start : NodeId) :
    m.Walks [start] (m.listing start) := by
  have h := hm.walks_listing start .done
  rwa [List.append_nil] at h

theorem WellFormed.walkStack_start (hm : m.WellFormed) (start : NodeId) {budget : Nat}
    (hbudget : m.size < budget) : walkStack m budget [start] = m.listing start := by
  by_cases hstart : m.contains start = true
  · have hlength := hm.length_listing_le start
    refine hm.walkStack_eq (hm.walks_start start) (fun id hid => ?_) (by omega)
    rwa [List.mem_singleton.mp hid]
  · have hnone : m.contains start = false := by simpa using hstart
    rw [listing_of_not_contains hnone]
    cases budget with
    | zero => cases hbudget
    | succ budget =>
        rw [walkStack, slot?_eq_none hnone]
        simp only [walkStack]

theorem WellFormed.walk_eq_listing (hm : m.WellFormed) (start : NodeId) :
    m.walk start = m.listing start :=
  hm.walkStack_start start (Nat.lt_succ_self _)

end Walk

/-! ## The writer -/

/-- A piece of what is written of a node: its beginning, which may be all of it, or its
end, which comes when all below it is written. -/
inductive Piece where
  | beginning (id : NodeId) (text : List Char)
  | ending (id : NodeId) (text : List Char)

namespace Piece

def text : Piece → List Char
  | beginning _ text | ending _ text => text

/-- The node that the piece begins. -/
def begun? : Piece → Option NodeId
  | beginning id _ => some id
  | ending _ _ => none

end Piece

namespace Tree

mutual

/-- A tree written in pieces. -/
def pieces (style : VoidStyle) : Tree → List Piece
  | node id .document children => .beginning id [] :: piecesAll style children
  | node id (.text content) _ => [.beginning id (escapeText content)]
  | node id (.element data) children =>
    if isVoid data.tag then [.beginning id (data.opening ++ style.terminator)]
    else
      .beginning id (data.opening ++ ['>']) :: piecesAll style children ++
        [.ending id (closing data.tag)]

/-- Trees written in pieces, one after the other. -/
def piecesAll (style : VoidStyle) : List Tree → List Piece
  | [] => []
  | tree :: trees => tree.pieces style ++ piecesAll style trees

end

theorem piecesAll_eq_flatMap (style : VoidStyle) (trees : List Tree) :
    piecesAll style trees = trees.flatMap (pieces style) := by
  induction trees with
  | nil => rfl
  | cons tree trees ih => rw [piecesAll, ih, List.flatMap_cons]

mutual

/-- The pieces make up the text. -/
theorem text_pieces (style : VoidStyle) :
    (tree : Tree) → (tree.pieces style).flatMap Piece.text = tree.html style
  | .node id .document children => by
      rw [pieces, html, List.flatMap_cons, text_piecesAll style children]
      rfl
  | .node id (.text content) children => by
      rw [pieces, html, List.flatMap_cons, List.flatMap_nil, List.append_nil]
      rfl
  | .node id (.element data) children => by
      rw [pieces, html]
      split
      · rw [List.flatMap_cons, List.flatMap_nil, List.append_nil]
        rfl
      · rw [List.flatMap_append, List.flatMap_cons, text_piecesAll style children,
          List.flatMap_cons, List.flatMap_nil, List.append_nil]
        rfl

theorem text_piecesAll (style : VoidStyle) :
    (trees : List Tree) → (piecesAll style trees).flatMap Piece.text = htmlAll style trees
  | [] => rfl
  | tree :: trees => by
      rw [piecesAll, htmlAll, List.flatMap_append, text_pieces style tree,
        text_piecesAll style trees]

end

end Tree

section Writer

variable {m : Markup}

/-- The nodes begin in the order of the listing. Where the writer does not look below a
node, there is nothing below it. -/
theorem WellFormed.begun_pieces (hm : m.WellFormed) (style : VoidStyle) (id : NodeId) :
    (Tree.piecesAll style (m.trees id)).filterMap Piece.begun? = m.listing id := by
  induction id using hm.induction_down with
  | h id ih =>
      rcases hget : m.get? id with _ | data
      · have hid := get?_eq_none_iff.mp hget
        rw [trees_of_not_contains hid, listing_of_not_contains hid]
        rfl
      · obtain ⟨slot, hslot, rfl⟩ :=
          Option.map_eq_some_iff.mp ((get?_eq_slot? m id).symm.trans hget)
        have hbelow : (Tree.piecesAll style (slot.children.flatMap m.trees)).filterMap
            Piece.begun? = (m.children id).flatMap m.listing := by
          rw [Tree.piecesAll_eq_flatMap, List.flatMap_assoc, List.filterMap_flatMap,
            children_of_slot? hslot]
          refine List.flatMap_congr fun child hchild => ?_
          rw [← children_of_slot? hslot] at hchild
          rw [← Tree.piecesAll_eq_flatMap, ih child hchild]
        have hchildless := hm.children_eq_nil_of_isContainer_eq_false hget
        rw [hm.trees_of_slot? hslot, hm.listing_eq (contains_of_get? hget), Tree.piecesAll,
          Tree.piecesAll, List.append_nil]
        rcases hdata : slot.data with _ | e | content
        · rw [Tree.pieces, List.filterMap_cons, hbelow]
          rfl
        · rw [Tree.pieces]
          split
          · next hvoid =>
              rw [hchildless (by simp [hdata, NodeData.isContainer, hvoid])]
              rfl
          · rw [List.filterMap_append, List.filterMap_cons, hbelow, List.filterMap_cons]
            simp only [Piece.begun?, List.filterMap_nil, List.append_nil]
        · rw [Tree.pieces, hchildless (by rw [hdata]; rfl)]
          rfl

theorem text_piecesAll_trees (m : Markup) (id : NodeId) (options : HtmlOptions) :
    String.ofList ((Tree.piecesAll options.voidStyle (m.trees id)).flatMap Piece.text) =
      m.nodeToHtml id options := by
  rw [nodeToHtml, Tree.text_piecesAll]

end Writer

/-! ## Both -/

/-- The walk from a node comes to its end, with any budget above the size of the tree,
and its order is that of going down: the node, and then the walks from its children, one
after the other. It is empty if the node is unknown. Otherwise it has the node and each
node below it, once, and from the root it has every node of the tree. The writer begins
the nodes in the same order: what it writes of a node falls into pieces whose nodes, as
they begin, are those of the walk. -/
theorem walk_documentOrder {m : Markup} (hm : Reachable m) (start : NodeId) :
    (m.Walks [start] (m.walk start) ∧
      (∀ order, m.Walks [start] order → order = m.walk start) ∧
      ∀ budget, m.size < budget → walkStack m budget [start] = m.walk start) ∧
    (m.walk start = m.listing start ∧
      (m.contains start = true →
        m.walk start = start :: (m.children start).flatMap m.walk)) ∧
    (m.walk start = [] ↔ m.contains start = false) ∧
    ((m.walk start).Nodup ∧
      ∀ id, id ∈ m.walk start ↔ m.contains start = true ∧ m.Above start id) ∧
    ((m.walk root).length = m.size ∧ ∀ id, id ∈ m.walk root ↔ m.contains id = true) ∧
    ∀ options : HtmlOptions,
      String.ofList ((Tree.piecesAll options.voidStyle (m.trees start)).flatMap Piece.text) =
        m.nodeToHtml start options ∧
      (Tree.piecesAll options.voidStyle (m.trees start)).filterMap Piece.begun? =
        m.walk start := by
  have hw := hm.wellFormed
  have hwalk : m.walk = m.listing := funext hw.walk_eq_listing
  rw [hwalk]
  have hperm := hw.listing_root_perm
  refine ⟨⟨hw.walks_start start, fun order h => (hw.walks_start start).unique h,
      fun budget => hw.walkStack_start start⟩, ⟨rfl, hw.listing_eq⟩, ⟨fun hnil => ?_,
      listing_of_not_contains⟩, ⟨hw.nodup_listing start, fun id => hw.mem_listing_iff⟩,
      ⟨?_, fun id => hperm.mem_iff.trans mem_ids⟩, fun options =>
      ⟨text_piecesAll_trees m start options, hw.begun_pieces options.voidStyle start⟩⟩
  · by_contra hstart
    rw [hw.listing_eq (by simpa using hstart)] at hnil
    cases hnil
  · rw [hperm.length_eq, ids, List.length_map, List.length_range]

/-- The first of two elements gets its children after the second one is there, and a void
element gets none. -/
theorem walk_documentOrder_late :
    let m := Markup.empty.runCalls
      [.appendElement root "div", .appendElement root "p", .appendElement ⟨2⟩ "input",
        .appendText ⟨2⟩ "late", .appendText ⟨4⟩ "lost"]
    m.Walks [root] [root, ⟨2⟩, ⟨4⟩, ⟨5⟩, ⟨3⟩] ∧
      (Tree.piecesAll .html (m.trees root)).filterMap Piece.begun? =
        [root, ⟨2⟩, ⟨4⟩, ⟨5⟩, ⟨3⟩] := by
  intro m
  obtain ⟨⟨hwalks, -⟩, -, -, -, -, hwriter⟩ :=
    walk_documentOrder (Reachable.empty.runCalls _ : Reachable m) root
  exact ⟨hwalks, (hwriter ⟨false, .html⟩).2.trans rfl⟩

end HtmlComponents.Markup
