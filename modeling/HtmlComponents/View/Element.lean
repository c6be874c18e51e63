import HtmlComponents.Text.Outline
import HtmlComponents.View.Token

/-!
# Elements of a view

A view is a row of elements, written like markup: a tag with attributes, and
children up to the closing tag unless the element closes itself. Attribute values
and children may be expressions of the program around the view. What an
expression is does not matter here, so it is a parameter.
-/

namespace HtmlComponents.View

open HtmlComponents.Text

/-- A string literal: how it is written, and the text that it denotes. -/
structure StringLiteral where
  written : String
  value : String
  deriving DecidableEq

/-- The string literal that a literal is, if it is one. -/
def Literal.string? (literal : Literal) : Option StringLiteral :=
  match literal.kind with
  | .string value => some ⟨literal.written, value⟩
  | _ => none

/-- A string literal as a token. -/
def StringLiteral.token (literal : StringLiteral) : Token :=
  .literal ⟨literal.written, .string literal.value⟩

/-- What stands to the right of an attribute's name. -/
inductive AttributeValue (ε : Type) where
  | text (literal : StringLiteral)
  | truth (value : Bool)
  | expression (expression : ε)
  /-- Nothing: the name stands alone. -/
  | flag

/-- An attribute as it is written. -/
structure Attribute (ε : Type) where
  name : Ident
  value : AttributeValue ε

mutual

/-- An element as it is written. One that closes itself has no children. -/
inductive Element (ε : Type) where
  | mk (tag : Ident) (attributes : List (Attribute ε)) (children : List (Child ε))
    (selfClosing : Bool)

/-- What stands between the tags of an element. -/
inductive Child (ε : Type) where
  | element (element : Element ε)
  | text (literal : StringLiteral)
  | expression (expression : ε)

end

variable {ε : Type}

namespace Element

def tag : Element ε → Ident
  | mk tag _ _ _ => tag

def attributes : Element ε → List (Attribute ε)
  | mk _ attributes _ _ => attributes

def children : Element ε → List (Child ε)
  | mk _ _ children _ => children

def selfClosing : Element ε → Bool
  | mk _ _ _ selfClosing => selfClosing

end Element

/-- The expression that an attribute has for its value. -/
def Attribute.expression? (a : Attribute ε) : Option ε :=
  match a.value with
  | .expression e => some e
  | .text _ | .truth _ | .flag => none

mutual

/-- The expressions of an element in the order in which they are written. -/
def Element.expressions : Element ε → List ε
  | .mk _ attributes children _ =>
    attributes.filterMap Attribute.expression? ++ Child.expressionsAll children

def Child.expressions : Child ε → List ε
  | .element e => e.expressions
  | .text _ => []
  | .expression e => [e]

def Child.expressionsAll : List (Child ε) → List ε
  | [] => []
  | child :: children => child.expressions ++ Child.expressionsAll children

end

/-! ## Outlines -/

/-- An attribute value is shown as one text: a string in quotes, an expression in
braces. -/
def AttributeValue.shown (written : ε → String) : AttributeValue ε → String
  | text literal => Quoted.encode literal.value
  | truth value => if value then "true" else "false"
  | expression e => "\x7b" ++ written e ++ "\x7d"
  | flag => "<flag>"

def Attribute.outline (written : ε → String) (a : Attribute ε) : Outline :=
  .record "Attribute"
    [("name", .quoted a.name.written), ("value", .quoted (a.value.shown written))]

mutual

def Element.outline (written : ε → String) : Element ε → Outline
  | .mk tag attributes children selfClosing =>
    .record "Element"
      [("tag", .quoted tag.written),
        ("attrs", .list (attributes.map fun a => a.outline written)),
        ("children", .list (Child.outlines written children)),
        ("self_closing", .ofBool selfClosing)]

def Child.outline (written : ε → String) : Child ε → Outline
  | .element e => e.outline written
  | .text literal => .tagged "Text" (.quoted literal.value)
  | .expression e => .tagged "Expr" (.quoted (written e))

def Child.outlines (written : ε → String) : List (Child ε) → List Outline
  | [] => []
  | child :: children => child.outline written :: Child.outlines written children

end

end HtmlComponents.View
