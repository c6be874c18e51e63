import HtmlComponents.Markup.Walk

/-!
# Markup as HTML

How a tree is written. Text has its ampersands and angle brackets escaped; an
attribute value also its double quotes, since it stands between two of them. An
attribute without a value is its bare name. A void element is its start tag
alone, and whatever children it were to have are not written.
-/

namespace HtmlComponents

namespace Markup

open HtmlComponents.Text

/-- How the start tag of a void element ends. -/
inductive VoidStyle where
  /-- With a slash: `<br />`. -/
  | selfClosing
  /-- Like any start tag: `<br>`. -/
  | html
  deriving DecidableEq

/-- The choices that writing leaves open. -/
structure HtmlOptions where
  /-- Whether the document begins with a doctype. -/
  doctype : Bool := false
  voidStyle : VoidStyle := .selfClosing
  deriving DecidableEq

/-- What ends the start tag of a void element. -/
def VoidStyle.terminator : VoidStyle → List Char
  | selfClosing => [' ', '/', '>']
  | html => ['>']

/-- One character of a text. -/
def escapeTextChar (c : Char) : List Char :=
  match c with
  | '&' => "&amp;".toList
  | '<' => "&lt;".toList
  | '>' => "&gt;".toList
  | c => [c]

/-- One character of an attribute value. -/
def escapeValueChar (c : Char) : List Char :=
  match c with
  | '"' => "&quot;".toList
  | c => escapeTextChar c

def escapeText (text : String) : List Char := text.toList.flatMap escapeTextChar

def escapeValue (value : String) : List Char := value.toList.flatMap escapeValueChar

/-- An attribute in a start tag, with the space in front of it. -/
def Attribute.html (a : Attribute) : List Char :=
  ' ' :: a.name.toList ++
    match a.value with
    | none => []
    | some value => ['=', '"'] ++ escapeValue value ++ ['"']

/-- A start tag without its end. -/
def ElementData.opening (e : ElementData) : List Char :=
  '<' :: e.tag.toList ++ e.attributes.flatMap Attribute.html

/-- The closing tag of an element. -/
def closing (tag : String) : List Char := ['<', '/'] ++ tag.toList ++ ['>']

namespace Tree

mutual

/-- A tree written out. -/
def html (style : VoidStyle) : Tree → List Char
  | node _ .document children => htmlAll style children
  | node _ (.text content) _ => escapeText content
  | node _ (.element data) children =>
    if isVoid data.tag then data.opening ++ style.terminator
    else data.opening ++ ['>'] ++ htmlAll style children ++ closing data.tag

/-- Trees written one after the other. -/
def htmlAll (style : VoidStyle) : List Tree → List Char
  | [] => []
  | tree :: trees => tree.html style ++ htmlAll style trees

end

end Tree

/-- A node and everything below it. An unknown node is written as nothing, and a
doctype is never written. -/
def nodeToHtml (m : Markup) (id : NodeId) (options : HtmlOptions) : String :=
  String.ofList (Tree.htmlAll options.voidStyle (m.trees id))

/-- The doctype, if it is asked for. -/
def HtmlOptions.heading (options : HtmlOptions) : String :=
  if options.doctype then "<!DOCTYPE html>" else ""

/-- The whole document. -/
def toHtml (m : Markup) (options : HtmlOptions) : String :=
  options.heading ++ m.nodeToHtml root options

/-- A tree is shown by its size and its document. -/
def outline (m : Markup) : Outline :=
  .record "Markup" [("nodes", .ofNat m.size), ("html", .quoted (m.toHtml {}))]

end Markup

end HtmlComponents
