import HtmlComponents.View.Expression.Declaration.Associated
import HtmlComponents.View.Expression.Declaration.Import

/-!
# Declarations

What can be declared in a block or in a module. A declaration that the language
knows only in part is kept as it is written.
-/

namespace HtmlComponents.View.Expression

open Copying

/-! ## Modules, functions, variables -/

/-- What is in braces: attributes, and members up to the end. -/
def members (member : Copying Unit) : Copying Unit := inside .brace do
  innerAttributes
  many member

/-- A module. Its content may be somewhere else. -/
def moduleDeclaration : Copying Unit := do
  let _ ← visibility?
  let _ ← keyword? "unsafe"
  keyword "mod"
  if !(← keyword? "try") then identifier
  if ← sees ";" then symbol ";"
  else if ← seesGroup .brace then members (copy .item)
  else failOneOf [.symbol ";", .group .brace]

/-- A block of foreign items. -/
def foreignBlock : Copying Unit := do
  let _ ← keyword? "unsafe"
  if !(← seesWord "extern") then keyword "extern"
  convention?
  members foreignItem

/-- A function. The answer says whether it has a body. -/
def function : Copying Bool := do
  let _ ← visibility?
  implementedFunction

/-- A variable. The answer says whether it has both a type and a value. -/
def variableDeclaration : Copying Bool := do
  let _ ← visibility?
  keyword "static"
  let _ ← keyword? "mut"
  identifier
  if ← symbol? "=" then
    copy (.expression true)
    symbol ";"
    return false
  symbol ":"
  copy (.type true)
  if ← symbol? ";" then return false
  symbol "="
  copy (.expression true)
  symbol ";"
  return true

/-! ## Traits and implementations -/

/-- A trait from the bounds on. -/
def traitRest : Copying Unit := do
  let _ ← boundsBehindColon? <| boundsBefore true fun tokens =>
    beginsWord "where" tokens || beginsGroup .brace tokens
  let _ ← conditions?
  members traitMember

/-- A name for bounds, from the bounds on. -/
def traitNameRest : Copying Unit := do
  symbol "="
  boundsBefore false fun tokens => beginsWord "where" tokens || begins ";" tokens
  let _ ← conditions?
  symbol ";"

/-- A trait with a word on how it is implemented. -/
def markedTrait : Copying Unit := do
  let _ ← visibility?
  let _ ← keyword? "unsafe"
  let _ ← keyword? "auto"
  keyword "trait"
  identifier
  let _ ← parameters?
  traitRest

/-- A trait, or a name for bounds. -/
def trait : Copying Unit := do
  let _ ← visibility?
  keyword "trait"
  identifier
  let _ ← parameters?
  let tokens ← rest
  if beginsGroup .brace tokens || begins ":" tokens || beginsWord "where" tokens then traitRest
  else if begins "=" tokens then traitNameRest
  else failOneOf [.group .brace, .symbol ":", .word "where", .symbol "="]

/-- An implementation. The answer says whether it is one of a trait that a path
names, or of none, without a word on where it holds. -/
def implementation : Copying Bool := do
  let visible ← visibility?
  let _ ← keyword? "default"
  let _ ← keyword? "unsafe"
  keyword "impl"
  if beginsParameters (← rest) then discard parameters?
  let tokens ← rest
  let conditional := beginsWord "const" tokens ||
    (begins "?" tokens && beginsWord "const" (behind tokens))
  if conditional then
    let _ ← symbol? "?"
    keyword "const"
  let tokens ← rest
  let negative := begins "!" tokens && !beginsGroup .brace (behind tokens)
  if negative then symbol "!"
  let implemented ← goal (.type true)
  let ofTrait ← keyword? "for"
  if ofTrait then copy (.type true)
  else if negative then refuse (.unmet "inherent impls cannot be negative")
  let _ ← conditions?
  members implementedMember
  return !visible && !conditional && (!ofTrait || implemented = .name || implemented = .path)

/-! ## Rules -/

/-- A rule for calls, kept as it is written. -/
def ruleDeclaration : Copying Unit := do
  let _ ← visibility?
  keyword "macro"
  identifier
  let parametrized ← seesGroup .parenthesis
  if parametrized then one
  if ← seesGroup .brace then one
  else failOneOf ((if parametrized then [] else [.group .parenthesis]) ++ [.group .brace])

/-! ## All declarations -/

/-- What a declaration can begin with behind the word on who can see it. -/
def itemBeginnings : List Expectation :=
  ["fn", "extern", "use", "static", "const", "unsafe", "mod", "type", "struct", "enum", "union",
    "trait", "auto", "impl", "default", "macro"].map .word

/-- What comes of the foreign word at the start of a declaration: a library, or a
block of foreign items. -/
def foreignDeclaration (tokens : List Token) : Copying Unit := do
  let next := behind tokens
  if beginsWord "crate" next then libraryImport
  else if beginsGroup .brace next then foreignBlock
  else if beginsString next then
    if beginsGroup .brace (behind next) then foreignBlock
    else throw (Expectation.unmet [.group .brace] (behind next))
  else throw (Expectation.unmet [.word "crate", .group .brace, .string] next)

/-- What comes of the word that takes guarantees away. The answer says whether the
declaration has a form. -/
def unguardedDeclaration (tokens : List Token) : Copying Bool := do
  let next := behind tokens
  if beginsWord "trait" next || (beginsWord "auto" next && beginsWord "trait" (behind next)) then
    markedTrait
    return true
  else if beginsWord "impl" next then implementation
  else if beginsWord "extern" next then
    foreignBlock
    return true
  else if beginsWord "mod" next then
    moduleDeclaration
    return true
  else
    throw (Expectation.unmet (["trait", "auto", "impl", "extern", "mod"].map .word) next)

/-- A declaration, behind its attributes. `start` is the transcript in front of
them. -/
def itemSince (start : Transcript) : Copying Unit := do
  let (visible, tokens) ← ahead visibility?
  let next := behind tokens
  let mut formed := true
  if beginsSignature false tokens then formed ← function
  else if beginsWord "extern" tokens then foreignDeclaration tokens
  else if beginsWord "use" tokens then formed := !(← importing)
  else if beginsWord "static" tokens then formed ← variableDeclaration
  else if beginsWord "const" tokens then
    let _ ← visibility?
    let declared ← constant
    formed := declared.hasValue && !declared.general
  else if beginsWord "unsafe" tokens then formed ← unguardedDeclaration tokens
  else if beginsWord "mod" tokens then moduleDeclaration
  else if beginsWord "type" tokens then
    let _ ← visibility?
    let declared ← typeName .inFront
    formed := declared.defined && !declared.bounded
  else if beginsWord "struct" tokens then struct
  else if beginsWord "enum" tokens then enumeration
  else if beginsWord "union" tokens && beginsIdent next then union
  else if beginsWord "trait" tokens then trait
  else if beginsWord "auto" tokens && beginsWord "trait" next then markedTrait
  else if beginsWord "impl" tokens || (beginsWord "default" tokens && !begins "!" next) then
    formed ← implementation
  else if beginsWord "macro" tokens then
    ruleDeclaration
    formed := false
  else if !visible && beginsCall tokens then declaringCall true
  else throw (Expectation.unmet (itemBeginnings ++ if visible then [] else callBeginnings) tokens)
  if !formed then asWrittenSince start

/-- A declaration. -/
def item : Copying Unit := do
  let start ← get
  outerAttributes
  itemSince start

end HtmlComponents.View.Expression
