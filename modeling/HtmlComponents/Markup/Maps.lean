import HtmlComponents.Markup.Error
import HtmlComponents.Markup.Node

/-!
# The maps of a markup tree

A tree under construction is kept in three maps: what each node holds, the children of
each node, and the parent of each node. The nodes themselves are numbered in the order
of creation, which is the place of a node in the first map; the other two are keyed by
these numbers and know nothing of the first one.

The operations write one map after the other. Nothing in the types says that the maps
agree on which nodes there are, or that a refused operation has written nothing. An
append even looks for its parent twice: in the first map before it writes, and in the
map of children after it has put the new node into all three. The second look can fail
only if the maps are out of step. `InStep` says that they are not, and every operation
keeps it, also when it refuses.
-/

namespace HtmlComponents.Markup

/-- The document's number. -/
def root : NodeId := ⟨1⟩

/-- A map from nodes to values. It has a place for every number up to the greatest one
that was ever put in, and most places may be vacant. -/
structure SideMap (α : Type) where
  places : Array (Option α)
  deriving DecidableEq

namespace SideMap

variable {α : Type}

def empty : SideMap α := ⟨#[]⟩

def get? (map : SideMap α) (id : NodeId) : Option α :=
  match id.number with
  | 0 => none
  | place + 1 => map.places[place]?.join

/-- So many vacant places behind those that are there. -/
def room (places : Array (Option α)) : (missing : Nat) → Array (Option α)
  | 0 => places
  | missing + 1 => room (places.push none) missing

/-- Put a value in, and make room for it first if there is none. -/
def insert (map : SideMap α) (id : NodeId) (value : α) : SideMap α :=
  match id.number with
  | 0 => map
  | place + 1 =>
    ⟨(room map.places (place + 1 - map.places.size)).setIfInBounds place (some value)⟩

theorem get?_empty (id : NodeId) : (empty : SideMap α).get? id = none := by
  unfold get?
  split <;> rfl

theorem room_eq (places : Array (Option α)) (missing : Nat) :
    room places missing = places ++ Array.replicate missing none := by
  induction missing generalizing places with
  | zero => exact Array.append_empty.symm
  | succ missing ih =>
      rw [room, ih, Array.push_eq_append, Array.append_assoc, Array.replicate_succ']

theorem get?_insert (map : SideMap α) {id : NodeId} (h : 0 < id.number) (value : α)
    (other : NodeId) :
    (map.insert id value).get? other = if other = id then some value else map.get? other := by
  obtain ⟨number⟩ := id
  obtain ⟨number'⟩ := other
  cases number with
  | zero => exact absurd h (Nat.lt_irrefl 0)
  | succ place =>
      cases number' with
      | zero => simp [get?]
      | succ place' =>
          simp only [get?, insert, room_eq, NodeId.mk.injEq, Nat.add_right_cancel_iff]
          rw [Array.getElem?_setIfInBounds]
          by_cases hplace : place = place'
          · subst hplace
            rw [if_pos rfl, if_pos rfl, if_pos (by simp; omega)]
            rfl
          · rw [if_neg hplace, if_neg (Ne.symm hplace), Array.getElem?_append,
              Array.getElem?_replicate]
            split
            · rfl
            · next hout =>
                rw [Array.getElem?_eq_none (Nat.not_lt.mp hout)]
                split <;> rfl

end SideMap

/-- Why a node that holds this cannot get a child: there is no such node, or it is text,
or it is a void element. -/
def childRefusal? : Option NodeData → Option Error
  | none => some .unknownNode
  | some (.text _) => some .notAContainer
  | some (.element data) => if isVoid data.tag then some (.voidElement data.tag) else none
  | some .document => none

/-- Why a node that holds this cannot get an attribute: it is missing or no element, or it
has an attribute of that name. -/
def settingRefusal? (name : String) : Option NodeData → Option Error
  | none => some .unknownNode
  | some .document | some (.text _) => some .notAnElement
  | some (.element data) =>
    if data.hasAttribute name then some (.duplicateAttribute data.tag name) else none

/-- The maps of a tree. -/
structure Maps where
  nodes : Array NodeData
  children : SideMap (List NodeId)
  parent : SideMap NodeId
  deriving DecidableEq

namespace Maps

/-- A step of changing the maps. They are kept as they are left when the step fails. -/
abbrev Step (α : Type) := ExceptT Error (StateM Maps) α

/-- The maps of the tree that holds nothing but the document. -/
def empty : Maps := ⟨#[.document], SideMap.empty.insert root [], .empty⟩

/-- What a node holds. -/
def get? (maps : Maps) (id : NodeId) : Option NodeData :=
  match id.number with
  | 0 => none
  | place + 1 => maps.nodes[place]?

def contains (maps : Maps) (id : NodeId) : Bool := (maps.get? id).isSome

/-- The number that the next node gets. -/
def nextId (maps : Maps) : NodeId := ⟨maps.nodes.size + 1⟩

/-! ## Changing -/

/-- Put a new node into all maps. It knows its parent, and the parent does not know it
yet. -/
def insert (maps : Maps) (parent : NodeId) (data : NodeData) : Maps where
  nodes := maps.nodes.push data
  children := maps.children.insert maps.nextId []
  parent := maps.parent.insert maps.nextId parent

/-- Make a node the last child of its parent, if the map of children has the parent. -/
def link? (maps : Maps) (parent child : NodeId) : Option Maps :=
  (maps.children.get? parent).map fun siblings =>
    { maps with children := maps.children.insert parent (siblings ++ [child]) }

/-- Change what a node holds; an unknown node changes nothing. -/
def modify (maps : Maps) (id : NodeId) (change : NodeData → NodeData) : Maps :=
  match id.number with
  | 0 => maps
  | place + 1 => { maps with nodes := maps.nodes.modify place change }

/-- Why a node cannot get a child. -/
def appendRefusal? (maps : Maps) (parent : NodeId) : Option Error :=
  childRefusal? (maps.get? parent)

/-- Append a node as the last child of `parent`. -/
def append (parent : NodeId) (data : NodeData) : Step NodeId := fun maps =>
  match maps.appendRefusal? parent with
  | some refusal => (.error refusal, maps)
  | none =>
    let inserted := maps.insert parent data
    match inserted.link? parent maps.nextId with
    | some linked => (.ok maps.nextId, linked)
    | none => (.error .unknownNode, inserted)

/-- Append an element without attributes. Its tag is judged before its place. -/
def appendElement (parent : NodeId) (tag : String) : Step NodeId :=
  if isName tag then append parent (.element (.ofTag tag))
  else throw (.invalidName .tag tag)

/-- Append a run of text. -/
def appendText (parent : NodeId) (content : String) : Step NodeId :=
  append parent (.text content)

/-- Why a node cannot get an attribute. -/
def attributeRefusal? (maps : Maps) (node : NodeId) (name : String) : Option Error :=
  settingRefusal? name (maps.get? node)

/-- Set an attribute of an element. An attribute can be set once: a second value
is refused and the first one stays. -/
def setAttribute (node : NodeId) (name : String) (value : Option String) : Step Unit :=
  fun maps =>
    if isName name then
      match maps.attributeRefusal? node name with
      | some refusal => (.error refusal, maps)
      | none => (.ok (), maps.modify node fun data => data.addAttribute ⟨name, value⟩)
    else (.error (.invalidName .attribute name), maps)

/-! ## In step -/

/-- The maps agree: every node has a list of children, every node but the document has a
parent, and nothing else has either. -/
structure InStep (maps : Maps) : Prop where
  contains_root : maps.contains root = true
  children : ∀ id, (maps.children.get? id).isSome = maps.contains id
  parent : ∀ id, (maps.parent.get? id).isSome = (maps.contains id && id ≠ root)

variable {maps : Maps}

theorem contains_nextId (maps : Maps) : maps.contains maps.nextId = false := by
  simp [contains, get?, nextId]

theorem get?_insert (maps : Maps) (parent : NodeId) (data : NodeData) (id : NodeId) :
    (maps.insert parent data).get? id = if id = maps.nextId then some data else maps.get? id := by
  obtain ⟨number⟩ := id
  cases number with
  | zero => simp [get?, nextId]
  | succ place =>
      simp only [get?, insert, nextId, Array.getElem?_push, NodeId.mk.injEq,
        Nat.add_right_cancel_iff]

theorem get?_modify (maps : Maps) (id : NodeId) (change : NodeData → NodeData) (other : NodeId) :
    (maps.modify id change).get? other =
      if other = id then (maps.get? id).map change else maps.get? other := by
  obtain ⟨number⟩ := id
  obtain ⟨number'⟩ := other
  cases number <;> cases number' <;> simp only [get?, modify, NodeId.mk.injEq]
  case zero.zero => rfl
  case zero.succ place => simp
  case succ.zero place => simp
  case succ.succ place place' =>
    rw [Array.getElem?_modify]
    simp only [Nat.add_right_cancel_iff, eq_comm]
    by_cases h : place = place'
    · rw [if_pos h, if_pos h, h]
    · rw [if_neg h, if_neg h]

theorem contains_insert (maps : Maps) (parent : NodeId) (data : NodeData) (id : NodeId) :
    (maps.insert parent data).contains id = (decide (id = maps.nextId) || maps.contains id) := by
  rw [contains, get?_insert]
  split
  · next h => simp [h]
  · next h => simp [h, contains]

theorem contains_modify (maps : Maps) (id : NodeId) (change : NodeData → NodeData)
    (other : NodeId) : (maps.modify id change).contains other = maps.contains other := by
  rw [contains, get?_modify]
  split
  · next h => rw [Option.isSome_map, h, contains]
  · rfl

namespace InStep

theorem empty : Maps.empty.InStep := by
  have hchildren := SideMap.get?_insert (SideMap.empty (α := List NodeId))
    (show 0 < root.number by decide) []
  have hcontains : ∀ id, Maps.empty.contains id = decide (id = root) := by
    rintro ⟨_ | _ | place⟩ <;> simp [contains, get?, Maps.empty, root]
  refine ⟨rfl, fun id => ?_, fun id => ?_⟩
  · rw [hcontains, Maps.empty, hchildren, SideMap.get?_empty]
    split <;> simp_all
  · rw [hcontains, Maps.empty, SideMap.get?_empty]
    by_cases hid : id = root <;> simp [hid]

theorem nextId_ne_root (h : maps.InStep) : maps.nextId ≠ root := by
  intro hnext
  have hnone := maps.contains_nextId
  rw [hnext, h.contains_root] at hnone
  cases hnone

theorem insert (h : maps.InStep) (parent : NodeId) (data : NodeData) :
    (maps.insert parent data).InStep := by
  have hnext : 0 < maps.nextId.number := Nat.succ_pos _
  refine ⟨?_, fun id => ?_, fun id => ?_⟩
  · rw [contains_insert, h.contains_root, Bool.or_true]
  · rw [contains_insert, Maps.insert, SideMap.get?_insert _ hnext, ← h.children]
    split <;> simp_all
  · rw [contains_insert, Maps.insert, SideMap.get?_insert _ hnext]
    by_cases hid : id = maps.nextId
    · simp [hid, h.nextId_ne_root]
    · simpa [hid] using h.parent id

theorem link? (h : maps.InStep) {parent child : NodeId} {linked : Maps}
    (hlink : maps.link? parent child = some linked) : linked.InStep := by
  obtain ⟨siblings, hsiblings, rfl⟩ := Option.map_eq_some_iff.mp hlink
  have hparent : maps.contains parent = true := by
    rw [← h.children, hsiblings]
    rfl
  have hpos : 0 < parent.number := by
    obtain ⟨_ | place⟩ := parent
    · cases hparent
    · exact Nat.succ_pos place
  refine ⟨h.contains_root, fun id => ?_, h.parent⟩
  show ((maps.children.insert parent _).get? id).isSome = maps.contains id
  rw [SideMap.get?_insert _ hpos]
  split
  · next hid => rw [hid, hparent]; rfl
  · exact h.children id

theorem modify (h : maps.InStep) (id : NodeId) (change : NodeData → NodeData) :
    (maps.modify id change).InStep := by
  have hsides : (maps.modify id change).children = maps.children ∧
      (maps.modify id change).parent = maps.parent := by
    unfold Maps.modify
    split <;> exact ⟨rfl, rfl⟩
  refine ⟨?_, fun other => ?_, fun other => ?_⟩
  · rw [contains_modify, h.contains_root]
  · rw [contains_modify, hsides.1, h.children]
  · rw [contains_modify, hsides.2, h.parent]

end InStep

/-! Every operation keeps the maps in step, whether it answers or refuses. An append that
is refused late would have put a node in, and would have done so in all three maps. -/

theorem append_inStep (parent : NodeId) (data : NodeData) (h : maps.InStep) :
    (append parent data maps).2.InStep := by
  unfold append
  split
  · exact h
  · simp only []
    split
    · next hlink => exact (h.insert parent data).link? hlink
    · exact h.insert parent data

theorem appendElement_inStep (parent : NodeId) (tag : String) (h : maps.InStep) :
    (appendElement parent tag maps).2.InStep := by
  unfold appendElement
  split
  · exact append_inStep parent _ h
  · exact h

theorem setAttribute_inStep (node : NodeId) (name : String) (value : Option String)
    (h : maps.InStep) : (setAttribute node name value maps).2.InStep := by
  unfold setAttribute
  split
  · split
    · exact h
    · exact h.modify node _
  · exact h

end Maps

end HtmlComponents.Markup
