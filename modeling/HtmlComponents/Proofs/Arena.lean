import HtmlComponents.Markup.Arena

/-!
# What one tree operation does to the tree

A tree shows what its maps hold, so an operation is understood once it is known which
maps it leaves behind. There are only two ways in which a tree ever changes: `grow` puts
a new node under a parent, and `withAttribute` adds an attribute to an element.
`append_eq` and `setAttribute_eq` say that the operations do one of these or nothing,
and in particular that the refusal after the insertion is never reached: the parent was
seen among the nodes before the insertion, the maps are in step, and so it has a list of
children after it.

The lemmas on `grow` and `withAttribute` give the whole tree afterwards, node by node and
through every way of looking. Later modules argue from them and leave the maps alone.
-/

namespace HtmlComponents

namespace Markup

/-! ## Looking -/

theorem isSome_slot? (m : Markup) (id : NodeId) : (m.slot? id).isSome = m.contains id := by
  rw [slot?, Option.isSome_map]
  rfl

theorem slot?_eq_none {m : Markup} {id : NodeId} (h : m.contains id = false) :
    m.slot? id = none := by
  rwa [← isSome_slot?, Option.isSome_eq_false_iff, Option.isNone_iff_eq_none] at h

theorem contains_of_slot? {m : Markup} {id : NodeId} {slot : Slot}
    (h : m.slot? id = some slot) : m.contains id = true := by
  rw [← isSome_slot?, h]
  rfl

theorem exists_slot? {m : Markup} {id : NodeId} (h : m.contains id = true) :
    ∃ slot, m.slot? id = some slot := by
  rwa [← isSome_slot?, Option.isSome_iff_exists] at h

theorem get?_eq_slot? (m : Markup) (id : NodeId) : m.get? id = (m.slot? id).map Slot.data := by
  rw [slot?, Option.map_map]
  exact Option.map_id'.symm

/-- A tree has the nodes whose numbers run from 1 to its size. -/
theorem contains_iff {m : Markup} {id : NodeId} :
    m.contains id = true ↔ 0 < id.number ∧ id.number ≤ m.size := by
  obtain ⟨number⟩ := id
  cases number with
  | zero => simp [contains, Maps.contains, Maps.get?]
  | succ place =>
      rw [contains, Maps.contains, Maps.get?, Option.isSome_iff_exists]
      simp only [Array.getElem?_eq_some_iff, size]
      constructor
      · rintro ⟨_, h, _⟩
        exact ⟨by omega, h⟩
      · rintro ⟨-, h⟩
        exact ⟨_, h, rfl⟩

theorem get?_of_slot? {m : Markup} {id : NodeId} {slot : Slot}
    (h : m.slot? id = some slot) : m.get? id = some slot.data := by
  rw [get?_eq_slot?, h]
  rfl

theorem children_of_slot? {m : Markup} {id : NodeId} {slot : Slot}
    (h : m.slot? id = some slot) : m.children id = slot.children := by
  obtain ⟨data, -, rfl⟩ := Option.map_eq_some_iff.mp h
  rfl

theorem children_eq_nil {m : Markup} {id : NodeId} (h : m.contains id = false) :
    m.children id = [] := by
  have hnone : m.maps.children.get? id = none := by
    rw [← Option.isNone_iff_eq_none, ← Option.isSome_eq_false_iff, m.inStep.children]
    exact h
  rw [children, hnone]
  rfl

theorem parent?_eq_none {m : Markup} {id : NodeId} (h : m.contains id = false) :
    m.parent? id = none := by
  rw [← Option.isNone_iff_eq_none, ← Option.isSome_eq_false_iff, parent?, m.inStep.parent,
    ← contains, h, Bool.false_and]

theorem contains_of_parent? {m : Markup} {id parent : NodeId} (h : m.parent? id = some parent) :
    m.contains id = true := by
  have hsome := m.inStep.parent id
  rw [← parent?, h] at hsome
  exact (Bool.and_eq_true_iff.mp hsome.symm).1

theorem get?_eq_none_iff {m : Markup} {id : NodeId} :
    m.get? id = none ↔ m.contains id = false := by
  rw [contains, Maps.contains, Option.isSome_eq_false_iff, Option.isNone_iff_eq_none]
  rfl

theorem contains_of_get? {m : Markup} {id : NodeId} {data : NodeData}
    (h : m.get? id = some data) : m.contains id = true := by
  rw [contains, Maps.contains, ← get?, h]
  rfl

theorem contains_nextId (m : Markup) : m.contains m.nextId = false := m.maps.contains_nextId

theorem ne_nextId {m : Markup} {id : NodeId} (h : m.contains id = true) :
    id ≠ m.nextId := by
  rintro rfl
  rw [contains_nextId] at h
  exact Bool.noConfusion h

theorem nextId_eq (m : Markup) : m.nextId = ⟨m.size + 1⟩ := rfl

theorem contains_root (m : Markup) : m.contains root = true := m.inStep.contains_root

theorem contains_empty {id : NodeId} : Markup.empty.contains id = decide (id = root) := by
  obtain ⟨_ | _ | place⟩ := id
  · rfl
  · rfl
  · simp [contains, Maps.contains, Maps.get?, Markup.empty, Maps.empty, root]

theorem get?_empty (id : NodeId) :
    Markup.empty.get? id = if id = root then some .document else none := by
  split
  · next h =>
      rw [h]
      rfl
  · next h => rw [get?_eq_none_iff, contains_empty, decide_eq_false h]

theorem parent?_empty (id : NodeId) : Markup.empty.parent? id = none := SideMap.get?_empty id

theorem children_empty (id : NodeId) : Markup.empty.children id = [] := by
  by_cases h : id = root
  · rw [h]
    rfl
  · exact children_eq_nil (by rw [contains_empty, decide_eq_false h])

/-! ## The two changes -/

/-- The maps with a new node as the last child of a parent. -/
def Maps.grow (maps : Maps) (parent : NodeId) (data : NodeData) : Maps :=
  let inserted := maps.insert parent data
  (inserted.link? parent maps.nextId).getD inserted

theorem Maps.InStep.grow {maps : Maps} (h : maps.InStep) (parent : NodeId) (data : NodeData) :
    (maps.grow parent data).InStep := by
  rw [Maps.grow]
  rcases hlink : (maps.insert parent data).link? parent maps.nextId with _ | linked
  · exact h.insert parent data
  · exact (h.insert parent data).link? hlink

/-- A parent that is there has a list of children, also after the insertion. -/
theorem Maps.InStep.link?_insert {maps : Maps} (h : maps.InStep) {parent : NodeId}
    (hp : maps.contains parent = true) (data : NodeData) :
    (maps.insert parent data).link? parent maps.nextId = some (maps.grow parent data) := by
  have hsome : ((maps.insert parent data).children.get? parent).isSome = true := by
    rw [(h.insert parent data).children, Maps.contains_insert, hp, Bool.or_true]
  obtain ⟨siblings, hsiblings⟩ := Option.isSome_iff_exists.mp hsome
  rw [Maps.grow, Maps.link?, hsiblings]
  rfl

/-- The tree with a new node as the last child of a parent. -/
def grow (m : Markup) (parent : NodeId) (data : NodeData) : Markup :=
  ⟨m.maps.grow parent data, m.inStep.grow parent data⟩

/-- The tree with one more attribute on a node, if that is an element. -/
def withAttribute (m : Markup) (node : NodeId) (a : Attribute) : Markup :=
  ⟨m.maps.modify node (NodeData.addAttribute a), m.inStep.modify node _⟩

/-- The tree with more attributes on a node, one after the other. -/
def withAttributes (m : Markup) (node : NodeId) (attributes : List Attribute) : Markup :=
  attributes.foldl (fun m a => m.withAttribute node a) m

section Grow

variable {m : Markup} {parent : NodeId} (data : NodeData)

/-- The list of children of a parent does not matter to the other two maps. -/
theorem Maps.grow_eq_insert (maps : Maps) (parent : NodeId) (data : NodeData) :
    (maps.grow parent data).nodes = (maps.insert parent data).nodes ∧
      (maps.grow parent data).parent = (maps.insert parent data).parent := by
  rw [Maps.grow, Maps.link?]
  rcases (maps.insert parent data).children.get? parent with _ | siblings <;> exact ⟨rfl, rfl⟩

theorem get?_grow (m : Markup) (parent : NodeId) (data : NodeData) (id : NodeId) :
    (m.grow parent data).get? id = if id = m.nextId then some data else m.get? id := by
  refine Eq.trans ?_ (m.maps.get?_insert parent data id)
  rw [get?, grow, Maps.get?, (m.maps.grow_eq_insert parent data).1, Maps.get?]

theorem parent?_grow (m : Markup) (parent : NodeId) (data : NodeData) (id : NodeId) :
    (m.grow parent data).parent? id = if id = m.nextId then some parent else m.parent? id := by
  rw [parent?, grow, (m.maps.grow_eq_insert parent data).2]
  exact SideMap.get?_insert _ (Nat.succ_pos _) parent id

theorem children_grow (hp : m.contains parent = true) (id : NodeId) :
    (m.grow parent data).children id =
      if id = parent then m.children parent ++ [m.nextId] else m.children id := by
  have hnext : 0 < m.nextId.number := Nat.succ_pos _
  have hnew : ∀ id, ((m.maps.insert parent data).children.get? id).getD [] = m.children id := by
    intro id
    show ((m.maps.children.insert m.nextId []).get? id).getD [] = m.children id
    rw [SideMap.get?_insert _ hnext]
    split
    · next hid => rw [hid, children_eq_nil m.contains_nextId, Option.getD_some]
    · rfl
  obtain ⟨siblings, hsiblings, hgrow⟩ :=
    Option.map_eq_some_iff.mp (m.inStep.link?_insert hp data)
  have hparent : m.children parent = siblings := by
    rw [← hnew, hsiblings, Option.getD_some]
  have hchildren : (m.grow parent data).maps.children =
      (m.maps.insert parent data).children.insert parent (siblings ++ [m.nextId]) :=
    congrArg Maps.children hgrow.symm
  rw [children, hchildren, SideMap.get?_insert _ (contains_iff.mp hp).1]
  split
  · rw [hparent]
    rfl
  · exact hnew id

theorem size_grow (m : Markup) (parent : NodeId) (data : NodeData) :
    (m.grow parent data).size = m.size + 1 := by
  rw [size, grow, (m.maps.grow_eq_insert parent data).1, Maps.insert, Array.size_push]
  rfl

theorem contains_grow (m : Markup) (parent : NodeId) (data : NodeData) (id : NodeId) :
    (m.grow parent data).contains id = true ↔ m.contains id = true ∨ id = m.nextId := by
  rw [contains_iff, contains_iff, size_grow]
  obtain ⟨number⟩ := id
  simp only [nextId_eq, NodeId.mk.injEq]
  omega

end Grow

section WithAttribute

variable (m : Markup) (node : NodeId) (a : Attribute)

/-- Only the map of nodes is changed. -/
theorem Maps.modify_sides (maps : Maps) (id : NodeId) (change : NodeData → NodeData) :
    (maps.modify id change).children = maps.children ∧
      (maps.modify id change).parent = maps.parent ∧
      (maps.modify id change).nodes.size = maps.nodes.size := by
  unfold Maps.modify
  split
  · exact ⟨rfl, rfl, rfl⟩
  · exact ⟨rfl, rfl, Array.size_modify⟩

theorem parent?_withAttribute (id : NodeId) :
    (m.withAttribute node a).parent? id = m.parent? id := by
  rw [parent?, withAttribute, (Maps.modify_sides _ _ _).2.1, parent?]

theorem children_withAttribute (id : NodeId) :
    (m.withAttribute node a).children id = m.children id := by
  rw [children, withAttribute, (Maps.modify_sides _ _ _).1, children]

theorem size_withAttribute : (m.withAttribute node a).size = m.size :=
  (Maps.modify_sides _ _ _).2.2

theorem contains_withAttribute (id : NodeId) :
    (m.withAttribute node a).contains id = m.contains id :=
  Maps.contains_modify _ _ _ id

theorem get?_withAttribute_eq (id : NodeId) :
    (m.withAttribute node a).get? id =
      if id = node then (m.get? id).map (NodeData.addAttribute a) else m.get? id := by
  refine (Maps.get?_modify _ _ _ id).trans ?_
  split
  · next hid =>
      rw [hid]
      rfl
  · rfl

variable {m node} in
theorem get?_withAttribute {e : ElementData} (h : m.get? node = some (.element e))
    (id : NodeId) :
    (m.withAttribute node a).get? id =
      if id = node then some (.element (e.addAttribute a)) else m.get? id := by
  rw [get?_withAttribute_eq]
  split
  · next hid =>
      rw [hid, h]
      rfl
  · rfl

theorem children_withAttributes (m : Markup) (node : NodeId) (attributes : List Attribute)
    (id : NodeId) : (m.withAttributes node attributes).children id = m.children id := by
  induction attributes generalizing m with
  | nil => rfl
  | cons a attributes ih =>
      rw [withAttributes, List.foldl_cons, ← withAttributes, ih, children_withAttribute]

theorem get?_withAttributes {m : Markup} {node : NodeId} (attributes : List Attribute)
    {e : ElementData} (h : m.get? node = some (.element e)) :
    (m.withAttributes node attributes).get? node =
      some (.element { e with attributes := e.attributes ++ attributes }) := by
  induction attributes generalizing m e with
  | nil => rw [List.append_nil, withAttributes, List.foldl_nil, h]
  | cons a attributes ih =>
      have hadded := (get?_withAttribute a h node).trans (if_pos rfl)
      rw [withAttributes, List.foldl_cons, ← withAttributes, ih hadded,
        ElementData.addAttribute, List.append_assoc, List.singleton_append]

end WithAttribute

/-- The trees have the same nodes in the same places, whatever the nodes hold. -/
structure SameFrame (m m' : Markup) : Prop where
  size : m'.size = m.size
  parent? : ∀ id, m'.parent? id = m.parent? id
  children : ∀ id, m'.children id = m.children id

theorem SameFrame.refl (m : Markup) : m.SameFrame m := ⟨rfl, fun _ => rfl, fun _ => rfl⟩

theorem SameFrame.grow {m m' : Markup} (h : m.SameFrame m') {p : NodeId}
    (hp : m.contains p = true) (hp' : m'.contains p = true) (data data' : NodeData) :
    (m.grow p data).SameFrame (m'.grow p data') := by
  have hnext : m'.nextId = m.nextId := congrArg (fun size => NodeId.mk (size + 1)) h.size
  constructor
  case size => rw [size_grow, size_grow, h.size]
  case parent? =>
    intro id
    rw [parent?_grow, parent?_grow, hnext, h.parent?]
  case children =>
    intro id
    rw [children_grow _ hp, children_grow _ hp', hnext, h.children, h.children]

theorem SameFrame.trans {a b c : Markup} (hab : a.SameFrame b) (hbc : b.SameFrame c) :
    a.SameFrame c :=
  ⟨hbc.size.trans hab.size, fun id => (hbc.parent? id).trans (hab.parent? id),
    fun id => (hbc.children id).trans (hab.children id)⟩

theorem sameFrame_withAttribute (m : Markup) (node : NodeId) (a : Attribute) :
    m.SameFrame (m.withAttribute node a) :=
  ⟨size_withAttribute m node a, parent?_withAttribute m node a, children_withAttribute m node a⟩

/-! ## The operations -/

/-- Why a node cannot get a child. -/
def appendRefusal? (m : Markup) (parent : NodeId) : Option Markup.Error :=
  childRefusal? (m.get? parent)

/-- Why a node cannot get an attribute of a name. -/
def attributeRefusal? (m : Markup) (node : NodeId) (name : String) : Option Markup.Error :=
  settingRefusal? name (m.get? node)

theorem contains_of_appendRefusal? {m : Markup} {parent : NodeId}
    (h : m.appendRefusal? parent = none) : m.contains parent = true := by
  unfold appendRefusal? childRefusal? at h
  split at h
  · cases h
  · cases h
  · next hget => exact contains_of_get? hget
  · next hget => exact contains_of_get? hget

/-- A node gets a child just when it is there and may have children. -/
theorem appendRefusal?_eq_none_iff {m : Markup} {parent : NodeId} :
    m.appendRefusal? parent = none ↔
      ∃ data, m.get? parent = some data ∧ data.isContainer = true := by
  unfold appendRefusal? childRefusal?
  split
  · next hget => simp [hget]
  · next hget => simp [hget, NodeData.isContainer]
  · next e hget => simp [hget, NodeData.isContainer]
  · next hget => simp [hget, NodeData.isContainer]

theorem Construction.ofMaps_eq {α : Type} {step : Maps.Step α}
    {hkeeps : ∀ {maps : Maps}, maps.InStep → (step maps).2.InStep} {m m' : Markup}
    {answer : Except Markup.Error α} (h : step m.maps = (answer, m'.maps)) :
    Construction.ofMaps step hkeeps m = (answer, m') :=
  Prod.ext (show (step m.maps).1 = answer by rw [h])
    (Markup.ext (show (step m.maps).2 = m'.maps by rw [h]))

/-- An append is refused before anything is written, or it grows the tree. The
refusal that follows the insertion is not among the outcomes. -/
theorem append_eq (parent : NodeId) (data : NodeData) (m : Markup) :
    append parent data m =
      match m.appendRefusal? parent with
      | some refusal => (.error refusal, m)
      | none => (.ok m.nextId, m.grow parent data) := by
  rcases h : m.appendRefusal? parent with _ | refusal
  · have hlink := m.inStep.link?_insert (contains_of_appendRefusal? h) data
    rw [appendRefusal?, get?] at h
    refine Construction.ofMaps_eq ?_
    simp only [Maps.append, Maps.appendRefusal?, h, hlink]
    rfl
  · rw [appendRefusal?, get?] at h
    refine Construction.ofMaps_eq ?_
    simp only [Maps.append, Maps.appendRefusal?, h]

theorem appendElement_eq (parent : NodeId) (tag : String) (m : Markup) :
    appendElement parent tag m =
      if isName tag then append parent (.element (.ofTag tag)) m
      else (.error (.invalidName .tag tag), m) := by
  unfold appendElement Construction.ofMaps append
  simp only [Maps.appendElement]
  split <;> rfl

/-- An attribute is refused and nothing is written, or the element has it. -/
theorem setAttribute_eq (node : NodeId) (name : String) (value : Option String)
    (m : Markup) :
    setAttribute node name value m =
      if isName name then
        match m.attributeRefusal? node name with
        | some refusal => (.error refusal, m)
        | none => (.ok (), m.withAttribute node ⟨name, value⟩)
      else (.error (.invalidName .attribute name), m) := by
  by_cases hname : isName name = true
  · rw [if_pos hname]
    rcases h : m.attributeRefusal? node name with _ | refusal <;>
      rw [attributeRefusal?, get?] at h
    all_goals
      refine Construction.ofMaps_eq ?_
      simp only [Maps.setAttribute, Maps.attributeRefusal?, hname, h]
      rfl
  · rw [if_neg hname]
    refine Construction.ofMaps_eq ?_
    simp only [Maps.setAttribute, hname]
    rfl

theorem ElementData.hasAttribute_eq_false_iff {e : ElementData} {name : String} :
    e.hasAttribute name = false ↔ name ∉ e.attributeNames := by
  simp [hasAttribute, attribute?, attributeNames]

/-- A node gets an attribute just when it is an element without one of that
name. -/
theorem attributeRefusal?_eq_none_iff {m : Markup} {node : NodeId} {name : String} :
    m.attributeRefusal? node name = none ↔
      ∃ e, m.get? node = some (.element e) ∧ e.hasAttribute name = false := by
  unfold attributeRefusal? settingRefusal?
  split
  · next hget => simp [hget]
  · next hget => simp [hget]
  · next hget => simp [hget]
  · next e hget => simp [hget]

theorem append_eq_ok {m m' : Markup} {parent id : NodeId} {data : NodeData}
    (h : append parent data m = (.ok id, m')) :
    m.appendRefusal? parent = none ∧ id = m.nextId ∧ m' = m.grow parent data := by
  rw [append_eq] at h
  split at h
  · cases h
  · next hp =>
      cases h
      exact ⟨hp, rfl, rfl⟩

theorem appendElement_eq_ok {m m' : Markup} {parent id : NodeId} {tag : String}
    (h : appendElement parent tag m = (.ok id, m')) :
    append parent (.element (.ofTag tag)) m = (.ok id, m') := by
  rw [appendElement_eq] at h
  split at h
  · exact h
  · cases h

theorem setAttribute_eq_ok {m m' : Markup} {node : NodeId} {name : String} {value : Option String}
    (h : setAttribute node name value m = (.ok (), m')) :
    ∃ e, m.get? node = some (.element e) ∧ m' = m.withAttribute node ⟨name, value⟩ := by
  rw [setAttribute_eq] at h
  split at h
  · split at h
    · cases h
    · next hnone =>
        cases h
        obtain ⟨e, hget, -⟩ := attributeRefusal?_eq_none_iff.mp hnone
        exact ⟨e, hget, rfl⟩
  · cases h

end Markup

end HtmlComponents
