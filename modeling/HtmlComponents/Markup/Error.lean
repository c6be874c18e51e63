import HtmlComponents.Text.Character
import HtmlComponents.Text.Outline

/-!
# Why a change to a tree is refused

Every refusal of the tree operations, with the text that reports it.

A change is refused for the name of a tag or an attribute, among other things. A name
is anything that a start tag can hold without ambiguity. Whatever ends a name in a
start tag is kept out of it: white space and control characters, the slash and the
angle brackets, both quotes, and the equals sign that would begin a value.
-/

namespace HtmlComponents.Markup

open HtmlComponents.Text

/-- Whether a character ends a name in a start tag. -/
def endsName (c : Char) : Bool :=
  isBlank c || isControl c || ['/', '>', '<', '"', '\'', '='].contains c

/-- Whether a text can name a tag or an attribute: it is not empty, and no
character of it ends a name. -/
def isName (text : String) : Bool :=
  !text.toList.isEmpty && !text.toList.any endsName

/-- The two kinds of names. -/
inductive NameKind where
  | tag
  | attribute
  deriving DecidableEq

/-- The causes for which a tree operation is refused. -/
inductive Error where
  /-- The tree has no node of the given number. -/
  | unknownNode
  /-- The parent is a text node. -/
  | notAContainer
  /-- The parent is a void element. -/
  | voidElement (tag : String)
  /-- The node that was to get an attribute is the document or a text node. -/
  | notAnElement
  | invalidName (kind : NameKind) (name : String)
  | duplicateAttribute (tag name : String)
  deriving DecidableEq

/-- How a kind of name is called in a report. -/
def NameKind.word : NameKind → String
  | .tag => "tag"
  | .attribute => "attribute"

namespace Error

/-- The text that reports the error. -/
def message : Error → String
  | unknownNode => "node does not exist in this markup tree"
  | notAContainer => "cannot append children to a text node"
  | voidElement tag => "<" ++ tag ++ "> is a void element and cannot have children"
  | notAnElement => "attributes can only be set on elements"
  | invalidName kind name => "invalid " ++ kind.word ++ " name: " ++ Quoted.encode name
  | duplicateAttribute tag name =>
    "attribute `" ++ name ++ "` is already set on <" ++ tag ++ ">"

end Error

end HtmlComponents.Markup
