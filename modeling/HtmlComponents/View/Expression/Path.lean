import HtmlComponents.View.Expression.Attribute

/-!
# Paths

A path is a row of names with arguments for types. In an expression the
arguments have to be introduced by two colons, since a bracket alone compares;
in a type they need not be, and a name may have the inputs and the output of a
function for its arguments.
-/

namespace HtmlComponents.View.Expression

open Copying

/-- What later steps need to know of a path. -/
structure PathShape where
  /-- It begins with a type in angle brackets, of which it is a member. -/
  qualified : Bool
  /-- It is a single name, whatever the name's arguments. -/
  single : Bool
  /-- None of its names has arguments. -/
  simple : Bool
  /-- Its last name has no arguments. -/
  endsBare : Bool

namespace PathShape

/-- The shape of a path that consists of one name. -/
def ofName (bare : Bool) : PathShape := ⟨false, true, bare, bare⟩

/-- The shape of a path that goes on with a further name. -/
def followedBy (shape : PathShape) (bare : Bool) : PathShape :=
  { shape with single := false, simple := shape.simple && bare, endsBare := bare }

/-- The shape of a path whose last name was given inputs for its arguments. -/
def withInputs (shape : PathShape) : PathShape :=
  { shape with single := false, simple := false, endsBare := false }

/-- Whether the path can name what is called with a bang. -/
def isModular (shape : PathShape) : Bool := !shape.qualified && shape.simple

end PathShape

/-- The keywords that can be a segment of a path but have no arguments. -/
def pathWords : List String := ["super", "self", "crate", "try"]

/-- Whether arguments in angle brackets follow a name. -/
def beginsArguments (inExpression : Bool) (tokens : List Token) : Bool :=
  (!inExpression && begins "<" tokens && !begins "<=" tokens && !begins "<<=" tokens) ||
    (begins "::" tokens && begins "<" (behind (behind tokens)))

/-- A segment of a path. The answer says whether it has no arguments. -/
def pathSegment (inExpression : Bool) : Copying Bool := do
  if beginsOneOf pathWords (← rest) then
    one
    return true
  if !(← keyword? "Self") then identifier
  if !beginsArguments inExpression (← rest) then return true
  let _ ← symbol? "::"
  copy .arguments
  return false

/-- Whether two colons with a group in parentheses behind them come next. They
are no separator of a path. -/
def beginsInputsBehindColons (tokens : List Token) : Bool :=
  begins "::" tokens && beginsGroup .parenthesis (behind (behind tokens))

/-- Further segments of a path of the given shape. -/
def furtherSegments (inExpression : Bool) (shape : PathShape) : Copying PathShape :=
  iterate shape fun shape => do
    let tokens ← rest
    if !begins "::" tokens || beginsInputsBehindColons tokens then return (shape, false)
    symbol "::"
    return (shape.followedBy (← pathSegment inExpression), true)

/-- A path of names. -/
def namePath (inExpression : Bool) : Copying PathShape := do
  let rooted ← symbol? "::"
  let shape := PathShape.ofName (← pathSegment inExpression)
  furtherSegments inExpression { shape with single := !rooted }

/-- A path that begins with a type, or with that and a path in which the type is
looked at. -/
def qualifiedPath (inExpression : Bool) : Copying PathShape := do
  symbol "<"
  copy (.type true)
  if ← keyword? "as" then
    let _ ← namePath false
  symbol ">"
  symbol "::"
  let bare ← iterate true fun _ => do
    let bare ← pathSegment inExpression
    return (bare, ← symbol? "::")
  return ⟨true, false, bare, bare⟩

/-- A path. -/
def path (inExpression : Bool) : Copying PathShape := do
  if ← sees "<" then qualifiedPath inExpression else namePath inExpression

/-! ## Inputs for arguments -/

/-- What a function returns, if it says so. `several` says whether that may be
several bounds. -/
def output? (several : Bool) : Copying (Option Shape) := do
  if ← symbol? "->" then return some (← goal (.type several)) else return none

/-- The inputs of a function and what it returns, if they come next. Two colons in
front of them are left out. -/
def inputs? (shape : PathShape) : Copying (Option (Option Shape)) := do
  let tokens ← rest
  let colons := beginsInputsBehindColons tokens
  if !shape.endsBare || !(colons || beginsGroup .parenthesis tokens) then return none
  if colons then silently (symbol "::")
  inside .parenthesis (commaSeparated (copy (.type true)))
  return some (← output? false)

/-- A path in a type. Behind inputs it may go on, unless it says what is returned
and that is not in parentheses. -/
def typePath : Copying PathShape := do
  iterate (← path false) fun shape => do
    match ← inputs? shape with
    | none => return (shape, false)
    | some none | some (some .parenthesized) =>
      return (← furtherSegments false shape.withInputs, true)
    | some (some _) => return (shape.withInputs, false)

end HtmlComponents.View.Expression
