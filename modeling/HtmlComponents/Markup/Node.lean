import HtmlComponents.Text.Outline

/-!
# Nodes of a markup tree

A node is the document, an element with its attributes, or a run of text. What a
node holds does not mention its place in the tree; places are kept by the arena.

Some elements are void: they never have content, so no children and no closing tag.
Tag names are compared without regard to the case of ASCII letters, and of those
only, so a dotless i does not make an `input`.
-/

namespace HtmlComponents.Markup

open HtmlComponents.Text

/-- The number of a node in its tree. Numbers are handed out from 1, which is the
document's, so 0 names no node. -/
structure NodeId where
  number : Nat
  deriving DecidableEq

/-- An attribute of an element. Without a value it is written as its bare name. -/
structure Attribute where
  name : String
  value : Option String
  deriving DecidableEq

namespace Attribute

/-- An attribute with a value. -/
def valued (name value : String) : Attribute := ⟨name, some value⟩

/-- An attribute that says all it has to say by being there. -/
def flag (name : String) : Attribute := ⟨name, none⟩

def isFlag (a : Attribute) : Bool := a.value.isNone

def outline (a : Attribute) : Outline :=
  .record "Attribute" [("name", .quoted a.name), ("value", .ofText? a.value)]

end Attribute

/-- What an element node holds. Attributes keep the order in which they were set,
and are written in that order. -/
structure ElementData where
  tag : String
  attributes : List Attribute
  deriving DecidableEq

namespace ElementData

/-- An element without attributes. -/
def ofTag (tag : String) : ElementData := ⟨tag, []⟩

/-- The first attribute with the given name. -/
def attribute? (e : ElementData) (name : String) : Option Attribute :=
  e.attributes.find? fun a => a.name = name

def hasAttribute (e : ElementData) (name : String) : Bool :=
  (e.attribute? name).isSome

def attributeNames (e : ElementData) : List String :=
  e.attributes.map Attribute.name

/-- The element with one more attribute, which comes last. -/
def addAttribute (e : ElementData) (a : Attribute) : ElementData :=
  { e with attributes := e.attributes ++ [a] }

def outline (e : ElementData) : Outline :=
  .record "ElementData"
    [("tag", .quoted e.tag), ("attributes", .list (e.attributes.map Attribute.outline))]

end ElementData

/-- The tags of the void elements, in lower case. -/
def voidTags : List String :=
  ["area", "base", "br", "col", "embed", "hr", "img", "input", "link", "meta", "source",
    "track", "wbr"]

/-- Whether elements with this tag are void. -/
def isVoid (tag : String) : Bool :=
  voidTags.any fun void => void.toList = tag.toList.map Char.toLower

/-- What a node holds. -/
inductive NodeData where
  /-- The root of a tree, written as its children alone. -/
  | document
  | element (data : ElementData)
  | text (content : String)
  deriving DecidableEq

namespace NodeData

/-- What the node holds as an element, if it is one. -/
def element? : NodeData → Option ElementData
  | element data => some data
  | document | text _ => none

/-- The node with one more attribute, if it is an element. -/
def addAttribute (a : Attribute) : NodeData → NodeData
  | element data => element (data.addAttribute a)
  | document => document
  | text content => text content

/-- Whether the node may have children. Text and void elements may not. -/
def isContainer : NodeData → Bool
  | document => true
  | element data => !isVoid data.tag
  | text _ => false

end NodeData

end HtmlComponents.Markup
