import HtmlComponents.View.Expression.Bound

/-!
# Types

A type is a path, a function's type, bounds, or one of several forms with signs
and brackets.
-/

namespace HtmlComponents.View.Expression

open Copying

/-! ## Types of functions -/

/-- The word for a foreign function, with the name of its convention, if it is
there. -/
def convention? : Copying Unit := do
  if ← keyword? "extern" then
    if beginsString (← rest) then one

/-- Whether tokens begin with inputs whose number is left open. -/
def beginsOpenInputs (tokens : List Token) : Bool :=
  begins "..." tokens ||
    ((beginsIdent tokens || beginsWord "_" tokens) && begins ":" (behind tokens) &&
      begins "..." (behind (behind tokens)))

/-- Inputs whose number is left open. -/
def openInputs : Copying Unit := do
  if beginsAnyWord (← rest) then
    one
    symbol ":"
  symbol "..."
  let _ ← symbol? ","

/-- An input of a function: a type, perhaps with a name. The first one may be the
function's receiver; one that can be changed is kept as it is written. -/
def functionInput (first : Bool) : Copying Unit := do
  let start ← get
  let changing := first && (← seesWord "mut") && beginsWord "self" (behind (← rest))
  if changing then one
  let tokens ← rest
  let receiver := first && beginsWord "self" tokens
  let named := (beginsIdent tokens || beginsWord "_" tokens || receiver) &&
    beginsColon (behind tokens)
  if named then
    one
    symbol ":"
  let tokens ← rest
  if first && !(named && receiver) && beginsWord "mut" tokens &&
      beginsWord "self" (behind tokens) then
    one
    one
    asWrittenSince start
  else if changing && !named then
    keyword "self"
    asWrittenSince start
  else
    copy (.type true)
    if changing then asWrittenSince start

/-- The inputs of a function. -/
def functionInputs : Copying Unit := inside .parenthesis do
  discard <| iterate true fun first => do
    if ← finished then return (first, false)
    outerAttributes
    if beginsOpenInputs (← rest) then
      openInputs
      return (first, false)
    functionInput first
    if ← finished then return (false, false)
    symbol ","
    return (false, true)

/-- The type of a function. -/
def functionType : Copying Shape := do
  let _ ← binder?
  let _ ← keyword? "unsafe"
  convention?
  keyword "fn"
  functionInputs
  let _ ← output? false
  return .plain

/-! ## Bounds as types -/

/-- Bounds that are a type. Lifetimes alone are not enough. -/
def objectBounds (several : Bool) : Copying Unit := do
  if !(← bounds several false false) then
    refuse (.unmet "at least one trait is required for an object type")

/-- An object of some type that has the bounds. -/
def objectType (several : Bool) : Copying Shape := do
  let start ← get
  keyword "dyn"
  let starred ← symbol? "*"
  objectBounds several
  if starred then asWrittenSince start
  return .plain

/-- A type that is not named, but has the bounds. -/
def hiddenType (several : Bool) : Copying Shape := do
  keyword "impl"
  if !(← bounds several true true) then refuse (.unmet "at least one trait must be specified")
  return .plain

/-- A path, what is called by a path, or bounds of which the first is a path. -/
def pathType (several bound : Bool) : Copying Shape := do
  let shape ← typePath
  if shape.qualified then return .plain
  if shape.simple && beginsBang (← rest) then
    symbol "!"
    let _ ← anyGroup
    return .plain
  if several && (← sees "+") then
    let _ ← furtherBounds false false
    return .plain
  return if bound then .bound else if shape.single then .name else .path

/-! ## Parentheses -/

/-- What a group in parentheses is, where a type is wanted. -/
inductive Enclosed where
  /-- Any number of types. -/
  | row
  /-- Bounds of which the first is a lifetime. -/
  | lifetimes
  /-- A bound that is not asked for. -/
  | negated
  /-- A type of the given shape. -/
  | type (shape : Shape)

/-- The content of a group in parentheses. -/
def enclosed : Copying Enclosed := do
  let tokens ← rest
  if tokens.isEmpty then return .row
  if beginsLifetime tokens then
    objectBounds true
    return .lifetimes
  if begins "?" tokens then
    let _ ← pathBound false
    return .negated
  let first ← goal (.type true)
  if !(← symbol? ",") then return .type first
  commaSeparated (copy (.type true))
  return .row

/-- Further bounds with plus signs in front of them, if there are some. The answer
says whether there are. -/
def addedBounds : Copying Bool := iterate false fun found => do
  if !(← symbol? "+") then return (found, false)
  let _ ← bound false false
  return (true, true)

/-- A row of types, a type in parentheses, or bounds of which the first is in
parentheses. -/
def parenthesizedType (several : Bool) : Copying Shape := do
  match ← inside .parenthesis enclosed with
  | .row => return .plain
  | .lifetimes => return .parenthesized
  | .negated => return if ← addedBounds then .plain else .bound
  | .type shape =>
    let canBeBound := shape = .name || shape = .path || shape = .bound
    let added ← if several && canBeBound then addedBounds else pure false
    return if added then .plain else .parenthesized

/-! ## All types -/

/-- The words with which a function's type begins. -/
def functionWords : List String := ["fn", "unsafe", "extern"]

/-- The keywords with which a path begins. -/
def pathStarts : List String := ["super", "self", "Self", "crate"]

/-- An array or a slice. -/
def arrayType : Copying Shape := inside .bracket do
  copy (.type true)
  if ← symbol? ";" then copy (.expression true)
  return .plain

/-- A pointer. -/
def pointerType : Copying Shape := do
  symbol "*"
  let tokens ← rest
  if beginsOneOf ["const", "mut"] tokens then one else failOneOf [.word "const", .word "mut"]
  copy (.type false)
  return .plain

/-- A reference. -/
def referenceType : Copying Shape := do
  symbol "&"
  lifetime?
  let _ ← keyword? "mut"
  copy (.type false)
  return .plain

/-- What a type can begin with. -/
def typeBeginnings : List Expectation :=
  [.word "for", .group .parenthesis, .word "fn", .word "unsafe", .word "extern", .identifier,
    .symbol "::", .symbol "<", .word "dyn", .group .bracket, .symbol "*", .symbol "&",
    .symbol "!", .word "impl", .word "_", .lifetime]

/-- What a type can go on with behind lifetimes that hold for all. -/
def boundTypeBeginnings : List Expectation :=
  [.identifier, .word "fn", .word "unsafe", .word "extern", .word "super", .word "self",
    .word "Self", .word "crate"]

/-- A type. `several` says whether it may be several bounds. -/
def type (several : Bool) : Copying Shape := do
  let bound ← binder?
  let tokens ← rest
  if bound && !boundTypeBeginnings.any (fun beginning => beginning.isMet tokens) then
    failOneOf boundTypeBeginnings
  else if beginsGroup .parenthesis tokens then parenthesizedType several
  else if beginsOneOf functionWords tokens then functionType
  else if beginsIdent tokens || beginsOneOf pathStarts tokens || begins "::" tokens ||
      begins "<" tokens then
    pathType several bound
  else if beginsWord "dyn" tokens then objectType several
  else if beginsGroup .bracket tokens then arrayType
  else if begins "*" tokens then pointerType
  else if begins "&" tokens then referenceType
  else if begins "!" tokens then
    symbol "!"
    return .plain
  else if beginsWord "_" tokens then
    one
    return .plain
  else if beginsWord "impl" tokens then hiddenType several
  else if beginsLifetime tokens then
    objectBounds true
    return .plain
  else failOneOf typeBeginnings

end HtmlComponents.View.Expression
