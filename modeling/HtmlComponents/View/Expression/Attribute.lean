import HtmlComponents.View.Expression.Transcript

/-!
# Attributes and blocks

An attribute is a path without arguments, and perhaps an argument in brackets,
which is anything, or a value, which is an expression. Outer attributes stand in
front of a thing, inner ones at the start of its braces.
-/

namespace HtmlComponents.View.Expression

open Copying

/-! ## Paths without arguments -/

/-- The keywords that can be a segment of a path without arguments. -/
def modulePathWords : List String := ["super", "self", "Self", "crate"]

/-- Whether tokens begin with a segment of a path without arguments. -/
def beginsModuleSegment (tokens : List Token) : Bool :=
  beginsIdent tokens || beginsOneOf modulePathWords tokens

/-- Copy a path without arguments. -/
def modulePath : Copying Unit := do
  let _ ← symbol? "::"
  if !beginsModuleSegment (← rest) then identifier
  else repeated do
    one
    if !(← symbol? "::") then return false
    if beginsModuleSegment (← rest) then return true
    fail (.unmet "expected path segment after `::`")

/-- The tokens behind the segments of a path without arguments, if they begin with
some. -/
def afterModuleSegments? : List Token → Option (List Token)
  | .ident i :: .punct ':' .joint :: .punct ':' _ :: rest =>
    if beginsModuleSegment [.ident i] then afterModuleSegments? rest else none
  | .ident i :: rest => if beginsModuleSegment [.ident i] then some rest else none
  | _ => none

/-- The tokens behind a path without arguments, if they begin with one. -/
def afterModulePath? (tokens : List Token) : Option (List Token) :=
  afterModuleSegments? ((afterSymbol? [':', ':'] tokens).getD tokens)

/-! ## Attributes -/

/-- The value of an attribute: a literal, or else an expression. -/
def attributeValue : Copying Unit := do
  symbol "="
  let tokens ← rest
  if afterLiteral? tokens matches some [] then literal
  else if begins "#" tokens && beginsGroup .bracket (behind tokens) then
    fail (.unmet "unexpected attribute inside of attribute")
  else copy (.expression true)

/-- What is behind the sign of an attribute. -/
def attributeContent : Copying Unit := inside .bracket do
  if !(← keyword? "unsafe") then modulePath
  match ← rest with
  | .group _ _ :: _ => one
  | tokens => if begins "=" tokens then attributeValue

/-- Attributes in front of a thing. -/
def outerAttributes : Copying Unit := repeated do
  if !(← symbol? "#") then return false
  attributeContent
  return true

/-- Attributes at the start of a thing's braces. -/
def innerAttributes : Copying Unit := repeated do
  let tokens ← rest
  if !(begins "#" tokens && begins "!" (behind tokens)) then return false
  symbol "#"
  symbol "!"
  attributeContent
  return true

/-! ## Blocks -/

/-- Statements in braces. -/
def block : Copying Unit := inside .brace (copy .statements)

/-- Statements in braces, perhaps with attributes in front of them. -/
def body : Copying Unit := inside .brace do
  innerAttributes
  copy .statements

end HtmlComponents.View.Expression
