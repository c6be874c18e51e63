import HtmlComponents.Proofs.Shape
import Mathlib.Data.List.Nodup
import Mathlib.Data.List.Pairwise
import Mathlib.Data.List.Perm.Basic

/-!
# Every node once

The listing of a node has the node and everything below it, in document order. It is
read off the lists of children, and this module shows that these lead to no node twice,
and from the root to every node: the listing of the root is the arena's nodes in another
order.

The proof counts. As often as a node's parent is listed, the node itself is listed as
one of its children, and there is no other way to come to it, unless the listing
begins with it (`count_listing_child`). So how often a node is listed is found by
going up from it. That ends at the node where the listing begins, which is listed once,
since everything below it is younger, or else at the root, which is then not listed.
-/

namespace HtmlComponents.Markup

theorem Tree.preorderAll_eq_flatMap (trees : List Tree) :
    preorderAll trees = trees.flatMap preorder := by
  induction trees with
  | nil => rfl
  | cons tree trees ih => rw [preorderAll, ih, List.flatMap_cons]

/-- A node and everything below it, in document order; nothing if it is unknown. -/
def listing (m : Markup) (id : NodeId) : List NodeId := Tree.preorderAll (m.trees id)

/-- The nodes of the arena in the order of creation. -/
def ids (m : Markup) : List NodeId := (List.range m.size).map fun place => ⟨place + 1⟩

theorem mem_ids {m : Markup} {id : NodeId} : id ∈ m.ids ↔ m.contains id = true := by
  obtain ⟨number⟩ := id
  rw [ids, List.mem_map, contains_iff]
  constructor
  · rintro ⟨place, hplace, heq⟩
    rw [List.mem_range] at hplace
    rw [NodeId.mk.injEq] at heq
    show 0 < number ∧ number ≤ m.size
    omega
  · intro hnumber
    have hpos : 0 < number := hnumber.1
    have hle : number ≤ m.size := hnumber.2
    refine ⟨number - 1, List.mem_range.mpr (by omega), ?_⟩
    rw [NodeId.mk.injEq]
    omega

/-- A new node comes last in the order of creation. -/
theorem ids_grow (m : Markup) (parent : NodeId) (data : NodeData) :
    (m.grow parent data).ids = m.ids ++ [m.nextId] := by
  rw [ids, ids, size_grow, List.range_succ, List.map_append]
  rfl

theorem nodup_ids (m : Markup) : m.ids.Nodup := by
  refine List.Nodup.map (fun a b hab => ?_) List.nodup_range
  rw [NodeId.mk.injEq] at hab
  omega

theorem count_flatMap_add {children : List NodeId} {f : NodeId → List NodeId} {x y : NodeId}
    (h : ∀ c ∈ children, (f c).count x = (if c = x then 1 else 0) + (f c).count y) :
    (children.flatMap f).count x = children.count x + (children.flatMap f).count y := by
  induction children with
  | nil => rfl
  | cons c children ih =>
      have hhead := h c List.mem_cons_self
      have htail := ih fun c' hc' => h c' (List.mem_cons_of_mem c hc')
      rw [List.flatMap_cons, List.count_append, List.count_append, hhead, htail, List.count_cons]
      simp only [beq_iff_eq]
      omega

theorem listing_of_not_contains {m : Markup} {id : NodeId} (h : m.contains id = false) :
    m.listing id = [] := by
  rw [listing, trees_of_not_contains h]
  rfl

theorem contains_of_listing_ne_nil {m : Markup} {id : NodeId} (h : m.listing id ≠ []) :
    m.contains id = true := by
  by_contra hid
  exact h (listing_of_not_contains (by simpa using hid))

/-- The first node is the second one, or the second one is below it. -/
abbrev Above (m : Markup) : NodeId → NodeId → Prop :=
  Relation.ReflTransGen fun parent child => child ∈ m.children parent

variable {m : Markup}

section WellFormed

variable (hm : m.WellFormed)

include hm

/-- A node is followed by the listings of its children. -/
theorem WellFormed.listing_eq {id : NodeId} (h : m.contains id = true) :
    m.listing id = id :: (m.children id).flatMap m.listing := by
  obtain ⟨slot, hslot⟩ := exists_slot? h
  have hbelow : Tree.preorderAll (slot.children.flatMap m.trees) =
      slot.children.flatMap m.listing := by
    rw [Tree.preorderAll_eq_flatMap, List.flatMap_assoc]
    refine List.flatMap_congr fun child _ => ?_
    rw [listing, Tree.preorderAll_eq_flatMap]
  rw [listing, hm.trees_of_slot? hslot, Tree.preorderAll, Tree.preorder, Tree.preorderAll,
    List.append_nil, children_of_slot? hslot, hbelow]

theorem WellFormed.contains_of_mem_listing {id x : NodeId} (h : x ∈ m.listing id) :
    m.contains x = true := by
  induction id using hm.induction_down with
  | h id ih =>
      by_cases hid : m.contains id = true
      · rw [hm.listing_eq hid] at h
        rcases List.mem_cons.mp h with rfl | hbelow
        · exact hid
        · obtain ⟨child, hchild, hx⟩ := List.mem_flatMap.mp hbelow
          exact ih child hchild hx
      · rw [listing_of_not_contains (by simpa using hid)] at h
        cases h

/-- What is listed with a node is not older than it. -/
theorem WellFormed.number_le_of_mem_listing {id x : NodeId} (h : x ∈ m.listing id) :
    id.number ≤ x.number := by
  induction id using hm.induction_down with
  | h id ih =>
      by_cases hid : m.contains id = true
      · rw [hm.listing_eq hid] at h
        rcases List.mem_cons.mp h with rfl | hbelow
        · exact Nat.le_refl _
        · obtain ⟨child, hchild, hx⟩ := List.mem_flatMap.mp hbelow
          have hlt := hm.number_lt hchild
          have hle := ih child hchild hx
          omega
      · rw [listing_of_not_contains (by simpa using hid)] at h
        cases h

theorem WellFormed.count_listing_self {id : NodeId} (h : m.contains id = true) :
    (m.listing id).count id = 1 := by
  have hbelow : id ∉ (m.children id).flatMap m.listing := by
    intro hmem
    obtain ⟨child, hchild, hid⟩ := List.mem_flatMap.mp hmem
    have hlt := hm.number_lt hchild
    have hle := hm.number_le_of_mem_listing hid
    omega
  rw [hm.listing_eq h, List.count_cons_self, List.count_eq_zero.mpr hbelow]

theorem WellFormed.count_children {parent child : NodeId} (h : m.parent? child = some parent)
    (id : NodeId) : (m.children id).count child = if id = parent then 1 else 0 := by
  split
  · next hid =>
      rw [hid]
      exact List.count_eq_one_of_mem (hm.nodup_children parent) (hm.mem_children_iff.mpr h)
  · next hid =>
      rw [List.count_eq_zero, hm.mem_children_iff, h]
      intro heq
      exact hid (Option.some.inj heq).symm

/-- A node is listed whenever its parent is, and when the listing begins with it. -/
theorem WellFormed.count_listing_child {parent child : NodeId}
    (h : m.parent? child = some parent) (id : NodeId) :
    (m.listing id).count child = (if id = child then 1 else 0) + (m.listing id).count parent := by
  induction id using hm.induction_down with
  | h id ih =>
      by_cases hid : m.contains id = true
      · -- below `id`, the child heads a listing once if `id` is the parent, and never otherwise
        rw [hm.listing_eq hid, List.count_cons, List.count_cons, count_flatMap_add ih,
          hm.count_children h id]
        simp only [beq_iff_eq]
        omega
      · have hne : id ≠ child := by
          rintro rfl
          exact hid (hm.contains_of_mem_children (hm.mem_children_iff.mpr h))
        rw [listing_of_not_contains (by simpa using hid), if_neg hne]
        rfl

theorem WellFormed.count_listing_le_one (id x : NodeId) : (m.listing id).count x ≤ 1 := by
  -- upwards from `x`, to the node where the listing begins or past it to the root
  induction hn : x.number using Nat.strongRecOn generalizing x with
  | ind n ih =>
      by_cases hx : x ∈ m.listing id
      · have hcontains := hm.contains_of_mem_listing hx
        by_cases hid : id = x
        · rw [hid]
          exact Nat.le_of_eq (hm.count_listing_self hcontains)
        · have hroot : x ≠ root := by
            rintro rfl
            have hle : id.number ≤ 1 := hm.number_le_of_mem_listing hx
            have hpos := (contains_iff.mp (contains_of_listing_ne_nil (List.ne_nil_of_mem hx))).1
            obtain ⟨number⟩ := id
            exact hid (congrArg NodeId.mk (Nat.le_antisymm hle hpos))
          obtain ⟨parent, hparent, hlt⟩ := hm.exists_parent hcontains hroot
          rw [hm.count_listing_child hparent id, if_neg hid, Nat.zero_add]
          exact ih parent.number (hn ▸ hlt) parent rfl
      · rw [List.count_eq_zero.mpr hx]
        exact Nat.zero_le 1

/-- Going down from any node comes to no node twice. -/
theorem WellFormed.nodup_listing (id : NodeId) : (m.listing id).Nodup :=
  List.nodup_iff_count_le_one.mpr (hm.count_listing_le_one id)

/-- What is listed is the node itself and what is below it. -/
theorem WellFormed.mem_listing_iff {id x : NodeId} :
    x ∈ m.listing id ↔ m.contains id = true ∧ m.Above id x := by
  constructor
  · intro h
    refine ⟨contains_of_listing_ne_nil (List.ne_nil_of_mem h), ?_⟩
    induction id using hm.induction_down with
    | h id ih =>
        have hid := contains_of_listing_ne_nil (List.ne_nil_of_mem h)
        rw [hm.listing_eq hid] at h
        rcases List.mem_cons.mp h with rfl | hbelow
        · exact .refl
        · obtain ⟨child, hchild, hx⟩ := List.mem_flatMap.mp hbelow
          exact (ih child hchild hx).head hchild
  · rintro ⟨hid, habove⟩
    induction habove using Relation.ReflTransGen.head_induction_on with
    | refl =>
        rw [hm.listing_eq hid]
        exact List.mem_cons_self
    | @head id child hchild _ ih =>
        have hx := ih (hm.contains_of_mem_children hchild)
        rw [hm.listing_eq hid]
        exact List.mem_cons_of_mem id (List.mem_flatMap.mpr ⟨child, hchild, hx⟩)

/-- Going down from the root comes to every node, and to each one once. -/
theorem WellFormed.listing_root_perm : (m.listing root).Perm m.ids := by
  refine (List.perm_ext_iff_of_nodup (hm.nodup_listing root) m.nodup_ids).mpr fun x => ?_
  rw [mem_ids]
  exact ⟨hm.contains_of_mem_listing, fun hx =>
    hm.mem_listing_iff.mpr ⟨m.contains_root, hm.below_root hx⟩⟩

theorem WellFormed.number_le_of_above {id x : NodeId} (hid : m.contains id = true)
    (h : m.Above id x) : id.number ≤ x.number :=
  hm.number_le_of_mem_listing (hm.mem_listing_iff.mpr ⟨hid, h⟩)

/-- A child is not above its parent. -/
theorem WellFormed.not_above_parent {parent child : NodeId} (h : child ∈ m.children parent) :
    ¬ m.Above child parent := by
  intro habove
  have hle := hm.number_le_of_above (hm.contains_of_mem_children h) habove
  have hlt := hm.number_lt h
  omega

/-- What is below one child of a node is below none of the others. -/
theorem WellFormed.eq_of_above {parent child sibling x : NodeId}
    (hchild : child ∈ m.children parent) (hsibling : sibling ∈ m.children parent)
    (hx : m.Above child x) (hx' : m.Above sibling x) : child = sibling := by
  have hparent := hm.contains_parent (hm.mem_children_iff.mp hchild)
  have hnodup := hm.nodup_listing parent
  rw [hm.listing_eq hparent, List.nodup_cons, List.nodup_flatMap] at hnodup
  by_contra hne
  have hsymm : Std.Symm (Function.onFun List.Disjoint m.listing) := ⟨fun _ _ h _ hb ha => h ha hb⟩
  have hdisjoint := hnodup.2.2.forall hchild hsibling hne
  exact hdisjoint (hm.mem_listing_iff.mpr ⟨hm.contains_of_mem_children hchild, hx⟩)
    (hm.mem_listing_iff.mpr ⟨hm.contains_of_mem_children hsibling, hx'⟩)

end WellFormed

/-! ## What the nodes hold -/

/-- What the nodes of the arena hold, in the order of creation. -/
def contents (m : Markup) : List NodeData := m.maps.nodes.toList

theorem filterMap_range_getElem? {α : Type} (l : List α) :
    ((List.range l.length).filterMap fun place => l[place]?) = l := by
  induction l with
  | nil => rfl
  | cons a l ih =>
      rw [List.length_cons, List.range_succ_eq_map, List.filterMap_cons, List.filterMap_map]
      simpa [Function.comp_def] using ih

theorem filterMap_ids (m : Markup) : m.ids.filterMap m.get? = m.contents := by
  have hget : (m.get? ∘ fun place => (⟨place + 1⟩ : NodeId)) = fun place => m.contents[place]? := by
    funext place
    rw [contents, Array.getElem?_toList]
    rfl
  have hsize : m.size = m.contents.length := by
    rw [contents, Array.length_toList, size]
  rw [ids, List.filterMap_map, hget, hsize, filterMap_range_getElem?]

/-- What is met on the way down from the root is what the arena holds. -/
theorem WellFormed.contents_perm (hm : m.WellFormed) :
    ((m.listing root).filterMap m.get?).Perm m.contents := by
  rw [← filterMap_ids]
  exact hm.listing_root_perm.filterMap m.get?

theorem mem_contents {data : NodeData} : data ∈ m.contents ↔ ∃ id, m.get? id = some data := by
  rw [← filterMap_ids, List.mem_filterMap]
  constructor
  · rintro ⟨id, -, hget⟩
    exact ⟨id, hget⟩
  · rintro ⟨id, hget⟩
    exact ⟨id, mem_ids.mpr (contains_of_get? hget), hget⟩

end HtmlComponents.Markup
