import HtmlComponents.View.Expression.Declaration.Definition

/-!
# Traits, implementations and foreign items

What is declared in the braces of a trait, of an implementation, or of a block of
foreign items. A declaration that says something which does not belong there is
kept as it is written.
-/

namespace HtmlComponents.View.Expression

open Copying

/-! ## Calls that declare -/

/-- What the path of a call can begin with. -/
def callBeginnings : List Expectation :=
  [.identifier, .word "self", .word "super", .word "crate", .symbol "::"]

/-- Whether tokens begin with the path of a call. -/
def beginsCall (tokens : List Token) : Bool :=
  callBeginnings.any fun beginning => beginning.isMet tokens

/-- A call of something that declares. If `named`, what is called may be given a
name to declare. -/
def declaringCall (named : Bool) : Copying Unit := do
  modulePath
  symbol "!"
  let tokens ← rest
  if named && (beginsIdent tokens || beginsWord "try" tokens) then one
  if !(← anyGroup) then symbol ";"

/-! ## Constants -/

/-- What the declaration of a constant says. -/
structure Constant where
  general : Bool
  hasValue : Bool

/-- A constant from its keyword on. It is general if it has parameters or conditions
on them. -/
def constant : Copying Constant := do
  keyword "const"
  identifierOrNone
  let parametrized ← parameters?
  symbol ":"
  copy (.type true)
  let hasValue ← symbol? "="
  if hasValue then copy (.expression true)
  let conditional ← conditions?
  symbol ";"
  return ⟨parametrized || conditional, hasValue⟩

/-! ## Members of traits -/

/-- A function of a trait. Its body may be left out. -/
def traitFunction : Copying Unit := do
  let _ ← signature false
  if ← seesGroup .brace then body
  else if ← sees ";" then symbol ";"
  else failOneOf [.group .brace, .symbol ";"]

/-- A member of a trait. -/
def traitMember : Copying Unit := do
  let start ← get
  outerAttributes
  let visible ← visibility?
  let isDefault ← keyword? "default"
  let unmarked := !visible && !isDefault
  let tokens ← rest
  let mut formed := unmarked
  if beginsSignature false tokens then traitFunction
  else if beginsWord "const" tokens then
    if (← constant).general then formed := false
  else if beginsWord "type" tokens then discard (typeName .behind)
  else if unmarked && beginsCall tokens then declaringCall false
  else
    failOneOf ([.word "fn", .word "const", .word "type"] ++
      if unmarked then callBeginnings else [])
  if !formed then asWrittenSince start

/-! ## Members of implementations -/

/-- A function of an implementation. The answer says whether it has a body. -/
def implementedFunction : Copying Bool := do
  let _ ← signature false
  if ← symbol? ";" then return false
  body
  return true

/-- A member of an implementation. -/
def implementedMember : Copying Unit := do
  let start ← get
  outerAttributes
  let (visible, tokens) ← ahead visibility?
  let isDefault := beginsWord "default" tokens && !begins "!" (behind tokens)
  let tokens := if isDefault then behind tokens else tokens
  let unmarked := !visible && !isDefault
  let marks : Copying Unit := do
    let _ ← visibility?
    if isDefault then keyword "default"
  let mut formed := true
  if beginsSignature false tokens then
    marks
    formed ← implementedFunction
  else if beginsWord "const" tokens then
    marks
    let declared ← constant
    formed := declared.hasValue && !declared.general
  else if beginsWord "type" tokens then
    marks
    let declared ← typeName .behind
    formed := declared.defined && !declared.bounded
  else if unmarked && beginsCall tokens then declaringCall false
  else
    throw (Expectation.unmet ((if isDefault then [] else [.word "default"]) ++
      [.word "fn", .word "const", .word "type"] ++ if unmarked then callBeginnings else []) tokens)
  if !formed then asWrittenSince start

/-! ## Foreign items -/

/-- A foreign function. The answer says whether it has neither a body nor a promise
that it is safe. -/
def foreignFunction : Copying Bool := do
  let _ ← visibility?
  let safe ← signature true
  if ← seesGroup .brace then
    body
    return false
  symbol ";"
  return !safe

/-- Whether tokens begin with a variable. It may say how safe it is to use. -/
def beginsForeignVariable (tokens : List Token) : Bool :=
  beginsWord "static" tokens ||
    (beginsOneOf ["unsafe", "safe"] tokens && beginsWord "static" (behind tokens))

/-- A foreign variable. The answer says whether it has neither a value nor a word on
how safe it is. -/
def foreignVariable : Copying Bool := do
  let _ ← visibility?
  let marked := beginsOneOf ["unsafe", "safe"] (← rest)
  if marked then one
  keyword "static"
  let _ ← keyword? "mut"
  identifier
  symbol ":"
  copy (.type true)
  let hasValue ← symbol? "="
  if hasValue then copy (.expression true)
  symbol ";"
  return !marked && !hasValue

/-- A foreign item. -/
def foreignItem : Copying Unit := do
  let start ← get
  outerAttributes
  let (visible, tokens) ← ahead visibility?
  let mut formed := true
  if beginsSignature true tokens then formed ← foreignFunction
  else if beginsForeignVariable tokens then formed ← foreignVariable
  else if beginsWord "type" tokens then
    let _ ← visibility?
    let declared ← typeName .either
    formed := !declared.bounded && !declared.defined
  else if !visible && beginsCall tokens then declaringCall false
  else
    throw (Expectation.unmet ([.word "fn", .word "static", .word "type"] ++
      if visible then [] else callBeginnings) tokens)
  if !formed then asWrittenSince start

end HtmlComponents.View.Expression
