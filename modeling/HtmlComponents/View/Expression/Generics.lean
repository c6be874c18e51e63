import HtmlComponents.View.Expression.Type

/-!
# Arguments and parameters for types

Arguments and parameters stand in angle brackets, the lifetimes in front of the
others. What parameters are asked to have can also be said behind what is
declared with them.
-/

namespace HtmlComponents.View.Expression

open Copying

/-! ## Arguments -/

/-- Whether tokens begin with a value that can be an argument as it stands. -/
def beginsValueArgument (tokens : List Token) : Bool :=
  beginsLiteral tokens || beginsGroup .brace tokens

/-- A value that is an argument. -/
def valueArgument : Copying Unit := do
  let tokens ← rest
  if beginsLiteral tokens then literal
  else if beginsIdent tokens then one
  else if beginsGroup .brace tokens then body
  else fail .nothingFits

/-- An argument: a lifetime, a value or a type. A name can be given a value, a
type or bounds. The answer says whether it is a lifetime. -/
def argument : Copying Bool := do
  let tokens ← rest
  if beginsLifetime tokens && !begins "+" (behind tokens) then
    lifetime
    return true
  if beginsValueArgument tokens then
    valueArgument
    return false
  if (← goal (.type true)) ≠ .name then return false
  if ← symbol? "=" then
    if beginsValueArgument (← rest) then valueArgument else copy (.type true)
  else if ← symbol? ":" then
    boundsUntil fun tokens => begins "," tokens || begins ">" tokens
  return false

/-- Arguments in angle brackets. -/
def arguments : Copying Unit := angleBrackets argument (symbol ",") true

/-! ## Parameters -/

/-- Whether parameters in angle brackets begin here, and not a type of which
something is a member. -/
def beginsParameters (tokens : List Token) : Bool :=
  let first := behind tokens
  let second := behind first
  begins "<" tokens &&
    (begins ">" first || begins "#" first || beginsWord "const" first ||
      ((beginsLifetime first || beginsIdent first) &&
        (begins ">" second || begins "," second || beginsColon second || begins "=" second)))

/-- A parameter: a lifetime, a type or a value. The answer says whether it is a
lifetime. -/
def parameter : Copying Bool := do
  outerAttributes
  let tokens ← rest
  if beginsLifetime tokens then
    lifetime
    let _ ← boundsBehindColon? <| lifetimesUntil fun tokens =>
      tokens.isEmpty || begins "," tokens || begins ">" tokens
    return true
  else if beginsIdent tokens then
    one
    let _ ← boundsBehindColon? <| boundsUntil fun tokens =>
      tokens.isEmpty || begins "," tokens || begins ">" tokens || begins "=" tokens
    if ← symbol? "=" then copy (.type true)
    return false
  else if beginsWord "const" tokens then
    one
    identifier
    symbol ":"
    copy (.type true)
    if ← symbol? "=" then valueArgument
    return false
  else if beginsWord "_" tokens then
    one
    return false
  else failOneOf [.lifetime, .identifier, .word "const"]

/-- Parameters in angle brackets, if brackets come next. The answer says whether
they do. -/
def parameters? : Copying Bool := do
  if !(← sees "<") then return false
  angleBrackets parameter (symbol ",") false
  return true

/-! ## Conditions on parameters -/

/-- Whether conditions on parameters, or the bounds in one of them, end here. -/
def endsConditions (tokens : List Token) : Bool :=
  tokens.isEmpty || beginsGroup .brace tokens || begins "," tokens || begins ";" tokens ||
    beginsColon tokens || begins "=" tokens

/-- A condition: a lifetime or a type, and the bounds that it has to have. -/
def condition : Copying Unit := do
  let tokens ← rest
  if beginsLifetime tokens && begins ":" (behind tokens) then
    lifetime
    symbol ":"
    lifetimesUntil fun tokens => endsConditions tokens || begins ":" tokens
  else
    let _ ← binder?
    copy (.type true)
    symbol ":"
    boundsUntil endsConditions

/-- Conditions on parameters, if they come next. They are left out if there are
none. The answer says whether their keyword was there. -/
def conditions? : Copying Bool := do
  if !(← seesWord "where") then return false
  let (_, word) ← captured (keyword "where")
  if beginsParameters (← rest) then
    fail (.unmet "generic parameters on `where` clauses are reserved for future use")
  let (_, tokens) ← captured <| repeated do
    if endsConditions (← rest) then return false
    condition
    symbol? ","
  if !tokens.isEmpty then write (word ++ tokens)
  return true

end HtmlComponents.View.Expression
