import HtmlComponents.Proofs.Arena
import HtmlComponents.Proofs.Run
import Mathlib.Logic.Relation
import Mathlib.Data.List.Nodup

/-!
# The arena is a tree

The arena keeps a node's parent and a node's children apart, and nothing in its
type makes the two agree. `WellFormed` says that they do, that parents are older
than their children, and what the nodes hold; it is kept by the only two changes
that a tree undergoes, and so by every call and by every run.

The clauses lean on each other. That the new node is in no list of children
before it is appended, for instance, is known because it has no parent yet, and
that a childless node stays childless because an append asks first whether the
parent is a container.
-/

namespace HtmlComponents

namespace Markup

/-- An element whose names can all be written: the tag and the attributes' names
are names, and no two attributes share one. -/
structure ElementData.Valid (e : ElementData) : Prop where
  isName_tag : isName e.tag = true
  isName_attribute : ∀ a ∈ e.attributes, isName a.name = true
  nodup_attributeNames : e.attributeNames.Nodup

theorem ElementData.valid_ofTag {tag : String} (h : isName tag = true) :
    (ElementData.ofTag tag).Valid where
  isName_tag := h
  isName_attribute := by simp [ElementData.ofTag]
  nodup_attributeNames := List.nodup_nil

theorem ElementData.Valid.addAttribute {e : ElementData} (he : e.Valid) {a : Attribute}
    (hname : isName a.name = true) (hnew : e.hasAttribute a.name = false) :
    (e.addAttribute a).Valid where
  isName_tag := he.isName_tag
  isName_attribute := by
    intro b hb
    rcases List.mem_append.mp hb with hold | hadded
    · exact he.isName_attribute b hold
    · rw [List.mem_singleton.mp hadded]
      exact hname
  nodup_attributeNames := by
    rw [attributeNames, ElementData.addAttribute, List.map_append, List.map_singleton,
      ← List.concat_eq_append, List.nodup_concat]
    exact ⟨hasAttribute_eq_false_iff.mp hnew, he.nodup_attributeNames⟩

/-- The arena keeps an ordered tree. -/
structure WellFormed (m : Markup) : Prop where
  get?_root : m.get? root = some .document
  parent?_root : m.parent? root = none
  /-- The root is the only document. -/
  eq_root : ∀ {id}, m.get? id = some .document → id = root
  /-- Every other node has a parent, and the parent was there before it. -/
  exists_parent : ∀ {id}, m.contains id = true → id ≠ root →
    ∃ parent, m.parent? id = some parent ∧ parent.number < id.number
  /-- Parents and children agree. -/
  mem_children_iff : ∀ {parent child},
    child ∈ m.children parent ↔ m.parent? child = some parent
  nodup_children : ∀ id, (m.children id).Nodup
  isContainer : ∀ {id data}, m.get? id = some data → m.children id ≠ [] →
    data.isContainer = true
  valid : ∀ {id e}, m.get? id = some (.element e) → e.Valid

/-! ## Kept by every call -/

theorem wellFormed_empty : WellFormed Markup.empty where
  get?_root := rfl
  parent?_root := rfl
  eq_root := by
    intro id h
    rw [get?_empty] at h
    by_contra hid
    rw [if_neg hid] at h
    cases h
  exists_parent := by
    intro id h hid
    rw [contains_empty, decide_eq_false hid] at h
    cases h
  mem_children_iff := by
    intro parent child
    simp [children_empty, parent?_empty]
  nodup_children := by
    intro id
    rw [children_empty]
    exact List.nodup_nil
  isContainer := by
    intro id data _ h
    exact absurd (children_empty id) h
  valid := by
    intro id e h
    rw [get?_empty] at h
    split at h <;> cases h

section Kept

variable {m : Markup} (hm : m.WellFormed)

include hm

theorem WellFormed.contains_of_mem_children {parent child : NodeId}
    (h : child ∈ m.children parent) : m.contains child = true := by
  have hparent := hm.mem_children_iff.mp h
  exact contains_of_parent? hparent

theorem WellFormed.contains_parent {parent child : NodeId}
    (h : m.parent? child = some parent) : m.contains parent = true := by
  by_contra hparent
  have hmem := hm.mem_children_iff.mpr h
  rw [children_eq_nil (by simpa using hparent)] at hmem
  cases hmem

theorem WellFormed.children_eq_nil_of_isContainer_eq_false {id : NodeId} {data : NodeData}
    (hget : m.get? id = some data) (hdata : data.isContainer = false) : m.children id = [] := by
  by_contra hchildren
  rw [hm.isContainer hget hchildren] at hdata
  cases hdata

/-- A child is younger than its parent. -/
theorem WellFormed.number_lt {parent child : NodeId} (h : child ∈ m.children parent) :
    parent.number < child.number := by
  have hparent := hm.mem_children_iff.mp h
  have hne : child ≠ root := by
    rintro rfl
    rw [hm.parent?_root] at hparent
    cases hparent
  obtain ⟨parent', hparent', hlt⟩ := hm.exists_parent (hm.contains_of_mem_children h) hne
  rw [hparent] at hparent'
  cases hparent'
  exact hlt

theorem WellFormed.not_mem_children_nextId (parent : NodeId) :
    m.nextId ∉ m.children parent := by
  intro h
  have hcontains := hm.contains_of_mem_children h
  exact ne_nextId hcontains rfl

/-- The new node is on its parent's list and on no other. -/
theorem WellFormed.mem_children_grow_iff {parent : NodeId} (data : NodeData)
    (hparent : m.contains parent = true) {q child : NodeId} :
    child ∈ (m.grow parent data).children q ↔
      (m.grow parent data).parent? child = some q := by
  rw [children_grow data hparent, parent?_grow]
  by_cases hnext : child = m.nextId
  · rw [if_pos hnext, hnext]
    by_cases hq : q = parent
    · simp [hq]
    · rw [if_neg hq]
      exact ⟨fun h => absurd h (hm.not_mem_children_nextId q),
        fun h => absurd (Option.some.inj h).symm hq⟩
  · rw [if_neg hnext, ← hm.mem_children_iff]
    by_cases hq : q = parent
    · simp [hq, hnext]
    · rw [if_neg hq]

theorem WellFormed.nodup_children_grow {parent : NodeId} (data : NodeData)
    (hparent : m.contains parent = true) (id : NodeId) :
    ((m.grow parent data).children id).Nodup := by
  rw [children_grow data hparent]
  split
  · rw [← List.concat_eq_append, List.nodup_concat]
    exact ⟨hm.not_mem_children_nextId parent, hm.nodup_children parent⟩
  · exact hm.nodup_children id

/-- Only the parent has a child that it did not have, and it was asked. -/
theorem WellFormed.isContainer_grow {parent : NodeId} {data : NodeData}
    (hp : m.appendRefusal? parent = none) {id : NodeId} {held : NodeData}
    (hget : (m.grow parent data).get? id = some held)
    (hchildren : (m.grow parent data).children id ≠ []) : held.isContainer = true := by
  have hparent := contains_of_appendRefusal? hp
  rw [get?_grow] at hget
  rw [children_grow data hparent] at hchildren
  by_cases hnext : id = m.nextId
  · rw [if_neg (hnext ▸ (ne_nextId hparent).symm), hnext,
      children_eq_nil m.contains_nextId] at hchildren
    exact absurd rfl hchildren
  · rw [if_neg hnext] at hget
    by_cases hid : id = parent
    · obtain ⟨data', hdata', hcontainer⟩ := appendRefusal?_eq_none_iff.mp hp
      rw [hid, hdata'] at hget
      cases hget
      exact hcontainer
    · rw [if_neg hid] at hchildren
      exact hm.isContainer hget hchildren

theorem WellFormed.grow {parent : NodeId} {data : NodeData}
    (hp : m.appendRefusal? parent = none) (hdocument : data ≠ .document)
    (hvalid : ∀ e, data = .element e → e.Valid) : (m.grow parent data).WellFormed := by
  have hparent := contains_of_appendRefusal? hp
  have hroot : root ≠ m.nextId := ne_nextId m.contains_root
  constructor
  case get?_root =>
    rw [get?_grow, if_neg hroot]
    exact hm.get?_root
  case parent?_root =>
    rw [parent?_grow, if_neg hroot]
    exact hm.parent?_root
  case eq_root =>
    intro id h
    rw [get?_grow] at h
    split at h
    · exact absurd (Option.some.inj h) hdocument
    · exact hm.eq_root h
  case exists_parent =>
    intro id h hid
    rw [parent?_grow]
    by_cases hnext : id = m.nextId
    · have hle := (contains_iff.mp hparent).2
      refine ⟨parent, if_pos hnext, ?_⟩
      rw [hnext]
      exact Nat.lt_succ_of_le hle
    · rw [if_neg hnext]
      rcases (contains_grow m parent data id).mp h with hold | hnew
      · exact hm.exists_parent hold hid
      · exact absurd hnew hnext
  case mem_children_iff => exact hm.mem_children_grow_iff data hparent
  case nodup_children => exact hm.nodup_children_grow data hparent
  case isContainer => exact hm.isContainer_grow hp
  case valid =>
    intro id e hget
    rw [get?_grow] at hget
    split at hget
    · exact hvalid e (Option.some.inj hget)
    · exact hm.valid hget

theorem WellFormed.withAttribute {node : NodeId} {a : Attribute}
    (hn : m.attributeRefusal? node a.name = none) (hname : isName a.name = true) :
    (m.withAttribute node a).WellFormed := by
  obtain ⟨e, hget, hnew⟩ := attributeRefusal?_eq_none_iff.mp hn
  have hvalid := (hm.valid hget).addAttribute hname hnew
  constructor
  case get?_root =>
    rw [get?_withAttribute a hget]
    split
    · next hroot =>
        rw [← hroot, hm.get?_root] at hget
        cases hget
    · exact hm.get?_root
  case parent?_root =>
    rw [parent?_withAttribute]
    exact hm.parent?_root
  case eq_root =>
    intro id h
    rw [get?_withAttribute a hget] at h
    split at h
    · cases h
    · exact hm.eq_root h
  case exists_parent =>
    intro id h hid
    rw [contains_withAttribute] at h
    rw [parent?_withAttribute]
    exact hm.exists_parent h hid
  case mem_children_iff =>
    intro parent child
    rw [children_withAttribute, parent?_withAttribute]
    exact hm.mem_children_iff
  case nodup_children =>
    intro id
    rw [children_withAttribute]
    exact hm.nodup_children id
  case isContainer =>
    intro id data h hchildren
    rw [children_withAttribute] at hchildren
    rw [get?_withAttribute a hget] at h
    split at h
    · next hid =>
        -- the element was a container before, and its tag is the same
        rw [hid] at hchildren
        cases h
        have hcontainer := hm.isContainer hget hchildren
        exact hcontainer
    · exact hm.isContainer h hchildren
  case valid =>
    intro id e' h
    rw [get?_withAttribute a hget] at h
    split at h
    · cases h
      exact hvalid
    · exact hm.valid h

theorem WellFormed.append {parent : NodeId} {data : NodeData}
    (hdocument : data ≠ .document) (hvalid : ∀ e, data = .element e → e.Valid) :
    (append parent data m).2.WellFormed := by
  rw [append_eq]
  split
  · exact hm
  · next hp => exact hm.grow hp hdocument hvalid

theorem WellFormed.run (call : Call) : (call.run m).WellFormed := by
  cases call with
  | appendElement parent tag =>
      rw [Call.run, appendElement_eq]
      split
      · next htag =>
          refine hm.append (fun h => by cases h) fun e he => ?_
          cases he
          exact ElementData.valid_ofTag htag
      · exact hm
  | appendText parent content =>
      exact hm.append (fun h => by cases h) fun e he => by cases he
  | setAttribute node name value =>
      rw [Call.run, setAttribute_eq]
      split
      · next hname =>
          split
          · exact hm
          · next hn => exact hm.withAttribute hn hname
      · exact hm

end Kept

theorem Leads.wellFormed {m m' : Markup} (h : Leads m m') (hm : m.WellFormed) : m'.WellFormed :=
  h.keeps (fun _ call hm => hm.run call) hm

theorem Reachable.wellFormed {m : Markup} (h : Reachable m) : m.WellFormed :=
  h.calls.wellFormed wellFormed_empty

/-! ## How large the tree is -/

theorem size_append (parent : NodeId) (data : NodeData) (m : Markup) :
    (append parent data m).2.size = m.size + (append parent data m).1.isOk.toNat := by
  rw [append_eq]
  split
  · rfl
  · exact size_grow m parent data

theorem size_run (m : Markup) (call : Call) :
    (call.run m).size = m.size + (call.appends m).toNat := by
  cases call with
  | appendElement parent tag =>
      rw [Call.run, Call.appends, appendElement_eq]
      split
      · exact size_append _ _ m
      · rfl
  | appendText parent content => exact size_append _ _ m
  | setAttribute node name value =>
      rw [Call.run, Call.appends, setAttribute_eq]
      split
      · split
        · rfl
        · exact size_withAttribute _ _ _
      · rfl

/-- Each append that succeeds adds one node, and nothing else does. -/
theorem size_runCalls (m : Markup) (calls : List Call) :
    (m.runCalls calls).size = m.size + m.countAppends calls := by
  induction calls generalizing m with
  | nil => rfl
  | cons call calls ih =>
      rw [countAppends, ← Nat.add_assoc, ← size_run]
      exact ih (call.run m)

/-! ## How the tree hangs together -/

/-- Going from a node to its parent and on ends at the root. -/
theorem WellFormed.below_root {m : Markup} (hm : m.WellFormed) :
    ∀ {id : NodeId}, m.contains id = true →
      Relation.ReflTransGen (fun parent child => child ∈ m.children parent) root id := by
  intro id
  induction hn : id.number using Nat.strongRecOn generalizing id with
  | ind n ih =>
      intro h
      by_cases hid : id = root
      · rw [hid]
      · obtain ⟨parent, hparent, hlt⟩ := hm.exists_parent h hid
        exact (ih parent.number (hn ▸ hlt) rfl (hm.contains_parent hparent)).tail
          (hm.mem_children_iff.mpr hparent)

theorem WellFormed.isEmpty_iff {m : Markup} (hm : m.WellFormed) :
    m.isEmpty = true ↔ m.size = 1 := by
  rw [isEmpty, List.isEmpty_iff]
  have hroot : 1 ≤ m.size := (contains_iff.mp m.contains_root).2
  constructor
  · intro h
    by_contra hsize
    -- only the root is older than the second node, so the root is its parent
    have hsecond : m.contains ⟨2⟩ = true :=
      contains_iff.mpr ⟨Nat.zero_lt_two, show 2 ≤ m.size by omega⟩
    obtain ⟨⟨number⟩, hparent, hlt⟩ := hm.exists_parent hsecond (by simp [root])
    have hpos := (contains_iff.mp (hm.contains_parent hparent)).1
    have hnumber : number = 1 := Nat.le_antisymm (Nat.le_of_lt_succ hlt) hpos
    rw [hnumber] at hparent
    have hmem : (⟨2⟩ : NodeId) ∈ m.children root := hm.mem_children_iff.mpr hparent
    rw [h] at hmem
    cases hmem
  · intro h
    by_contra hne
    obtain ⟨child, hchild⟩ := List.exists_mem_of_ne_nil _ hne
    have hlt : 1 < child.number := hm.number_lt hchild
    have hle := (contains_iff.mp (hm.contains_of_mem_children hchild)).2
    omega

/-! ## All of it -/

/-- Every tree that comes up is an ordered tree below the document. The root is
the document and has no parent. Any other node is an element or a text, is
younger than its one parent, and stands once in its parent's list of children and
in no other list. Lists of children name nodes that exist, texts and void
elements have no children, names are names, and no element has two attributes of
one name. Every node is reached from the root. Whichever calls have made the
tree, its size is one more than the number of the appends among them that
succeeded, and it is empty just when that number is zero. -/
theorem reachable_wellFormed {m : Markup} (h : Reachable m) :
    (m.get? root = some .document ∧ m.parent? root = none) ∧
    (∀ id, m.contains id = true → id ≠ root →
      (∃ data, m.get? id = some data ∧ data ≠ .document) ∧
      ∃ parent, m.parent? id = some parent ∧ m.contains parent = true ∧
        parent.number < id.number ∧ (m.children parent).count id = 1 ∧
        ∀ other, other ≠ parent → id ∉ m.children other) ∧
    (∀ id, ∀ child ∈ m.children id, m.contains child = true) ∧
    (∀ id content, m.get? id = some (.text content) → m.children id = []) ∧
    (∀ id e, m.get? id = some (.element e) → isVoid e.tag = true → m.children id = []) ∧
    (∀ id e, m.get? id = some (.element e) →
      isName e.tag = true ∧ (∀ a ∈ e.attributes, isName a.name = true) ∧
        e.attributeNames.Nodup) ∧
    (∀ id, m.contains id = true →
      Relation.ReflTransGen (fun parent child => child ∈ m.children parent) root id) ∧
    ((∃ calls, Markup.empty.runCalls calls = m) ∧
      ∀ calls, Markup.empty.runCalls calls = m →
        m.size = 1 + Markup.empty.countAppends calls) ∧
    (m.isEmpty = true ↔ m.size = 1) := by
  have hm := h.wellFormed
  refine ⟨⟨hm.get?_root, hm.parent?_root⟩, ?_, fun id child => hm.contains_of_mem_children,
    ?_, ?_, ?_, fun id => hm.below_root, ⟨h.calls, ?_⟩, hm.isEmpty_iff⟩
  · intro id hid hne
    obtain ⟨slot, hslot⟩ := exists_slot? hid
    have hget := get?_of_slot? hslot
    obtain ⟨parent, hparent, hlt⟩ := hm.exists_parent hid hne
    have hmem := hm.mem_children_iff.mpr hparent
    refine ⟨⟨slot.data, hget, fun hdocument => hne (hm.eq_root (hdocument ▸ hget))⟩,
      parent, hparent, hm.contains_parent hparent, hlt,
      List.count_eq_one_of_mem (hm.nodup_children parent) hmem, ?_⟩
    intro other hother hmem'
    rw [hm.mem_children_iff, hparent] at hmem'
    exact hother (Option.some.inj hmem').symm
  · intro id content hget
    by_contra hchildren
    have hcontainer := hm.isContainer hget hchildren
    simp [NodeData.isContainer] at hcontainer
  · intro id e hget hvoid
    by_contra hchildren
    have hcontainer := hm.isContainer hget hchildren
    simp [NodeData.isContainer, hvoid] at hcontainer
  · intro id e hget
    have he := hm.valid hget
    exact ⟨he.isName_tag, he.isName_attribute, he.nodup_attributeNames⟩
  · intro calls hcalls
    rw [← hcalls, size_runCalls]
    rfl

/-- A render that ends in the middle of a division leaves an ordered tree behind,
which holds the division and what was drawn in it. -/
theorem reachable_wellFormed_failing :
    let page : Component Empty Unit := .division
      { children := [.text "a", .custom "Gauge" fun _ =>
          [.element "p" [] [.fail (.component "Gauge" "no data")]], .text "b"] }
    let outcome := page.render Environment.empty root ⟨⟨Markup.empty, #[]⟩, ()⟩
    let m := outcome.2.markup
    outcome.1 = .error (.component "Gauge" "no data") ∧ m.size = 4 ∧
      ∀ id, m.contains id = true →
        Relation.ReflTransGen (fun parent child => child ∈ m.children parent) root id :=
  ⟨rfl, rfl, (reachable_wellFormed (.render .empty Environment.empty root _ #[] ())).2.2.2.2.2.2.1⟩

end Markup

end HtmlComponents
