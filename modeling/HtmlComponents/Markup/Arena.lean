import HtmlComponents.Markup.Maps

/-!
# Markup trees

A tree under construction is its maps, together with the proof that they are in step. It
is read as an arena: a row of slots, one for each node in the order of creation, each
with what the node is, its parent and its children. The tree only grows. A node is
created as the last child of a node that is there already and never moves, so a parent's
number is always smaller than its children's and no cycle can form.

An operation on a tree is the operation on its maps. It is a step from tree to tree that
also answers, and it gives back a tree when it refuses as well. Nothing in the types says
that a refused step leaves the tree alone; that is a property of each operation, and it
rests on the order in which the operation looks and writes.
-/

namespace HtmlComponents

open HtmlComponents.Markup

/-- A markup tree. -/
@[ext]
structure Markup where
  maps : Maps
  inStep : maps.InStep
  deriving DecidableEq

namespace Markup

/-- One node with its place in the tree. -/
structure Slot where
  data : NodeData
  parent : Option NodeId
  children : List NodeId
  deriving DecidableEq

/-- A step of building a tree. The tree is kept also when the step fails. -/
abbrev Construction := ExceptT Markup.Error (StateM Markup)

/-- The tree that holds nothing but the document. -/
def empty : Markup := ⟨.empty, .empty⟩

/-! ## Looking -/

/-- What a node holds. -/
def get? (m : Markup) (id : NodeId) : Option NodeData := m.maps.get? id

/-- What a node holds as an element, if it is one. -/
def element? (m : Markup) (id : NodeId) : Option ElementData :=
  (m.get? id).bind NodeData.element?

def contains (m : Markup) (id : NodeId) : Bool := m.maps.contains id

/-- The parent of a node; the document and unknown nodes have none. -/
def parent? (m : Markup) (id : NodeId) : Option NodeId := m.maps.parent.get? id

/-- The children of a node, in order; an unknown node has none. -/
def children (m : Markup) (id : NodeId) : List NodeId := (m.maps.children.get? id).getD []

/-- The slot of a node, if the tree has the node. -/
def slot? (m : Markup) (id : NodeId) : Option Slot :=
  (m.get? id).map fun data => ⟨data, m.parent? id, m.children id⟩

/-- The number of nodes, the document included. -/
def size (m : Markup) : Nat := m.maps.nodes.size

/-- Whether the document has no content. -/
def isEmpty (m : Markup) : Bool := (m.children root).isEmpty

/-! ## Changing -/

/-- The number that the next node of the tree gets. -/
def nextId (m : Markup) : NodeId := m.maps.nextId

/-- The operation on the maps as one on the tree. -/
def Construction.ofMaps {α : Type} (step : Maps.Step α)
    (hkeeps : ∀ {maps : Maps}, maps.InStep → (step maps).2.InStep) : Construction α := fun m =>
  ((step m.maps).1, ⟨(step m.maps).2, hkeeps m.inStep⟩)

/-- Append a node as the last child of `parent`. -/
def append (parent : NodeId) (data : NodeData) : Construction NodeId :=
  .ofMaps (Maps.append parent data) (Maps.append_inStep parent data)

/-- Append an element without attributes. -/
def appendElement (parent : NodeId) (tag : String) : Construction NodeId :=
  .ofMaps (Maps.appendElement parent tag) (Maps.appendElement_inStep parent tag)

/-- Append a run of text. -/
def appendText (parent : NodeId) (content : String) : Construction NodeId :=
  append parent (.text content)

/-- Set an attribute of an element. -/
def setAttribute (node : NodeId) (name : String) (value : Option String) : Construction Unit :=
  .ofMaps (Maps.setAttribute node name value) (Maps.setAttribute_inStep node name value)

end Markup

end HtmlComponents
