import HtmlComponents.View.Expression.Declaration.Signature

/-!
# Definitions of types

Structures, enumerations, unions, and other names for types.
-/

namespace HtmlComponents.View.Expression

open Copying

/-! ## Fields -/

/-- A field with a name. One without a name can have fields instead of a type, and
is kept as it is written then. -/
def namedField : Copying Unit := do
  outerAttributes
  let _ ← visibility?
  let nameless ← keyword? "_"
  if !nameless then identifier
  symbol ":"
  let start ← get
  let tokens ← rest
  if nameless && (beginsWord "struct" tokens ||
      (beginsWord "union" tokens && beginsGroup .brace (behind tokens))) then
    one
    inside .brace (copy .fields)
    asWrittenSince start
  else copy (.type true)

/-- Fields with names, up to the end of the tokens. -/
def fields : Copying Unit := commaSeparated namedField

/-- Fields with names, in braces. -/
def namedFields : Copying Unit := inside .brace (copy .fields)

/-- Fields without names. -/
def tupleFields : Copying Unit := inside .parenthesis <| commaSeparated do
  outerAttributes
  let _ ← visibility?
  copy (.type true)

/-! ## Structures, enumerations, unions -/

/-- The end of a structure with fields that have no names. -/
def tupleEnd : Copying Unit := do
  let conditional ← conditions?
  if ← sees ";" then symbol ";"
  else failOneOf ((if conditional then [] else [.word "where"]) ++ [.symbol ";"])

/-- A structure. -/
def struct : Copying Unit := do
  let _ ← visibility?
  keyword "struct"
  identifier
  let _ ← parameters?
  let conditional ← conditions?
  let tokens ← rest
  if !conditional && beginsGroup .parenthesis tokens then
    tupleFields
    tupleEnd
  else if beginsGroup .brace tokens then namedFields
  else if begins ";" tokens then symbol ";"
  else failOneOf ((if conditional then [] else [.word "where", .group .parenthesis]) ++
    [.group .brace, .symbol ";"])

/-- A variant of an enumeration. It does not say who can see it. -/
def variant : Copying Unit := do
  outerAttributes
  let _ ← silently visibility?
  identifier
  let tokens ← rest
  if beginsGroup .brace tokens then namedFields
  else if beginsGroup .parenthesis tokens then tupleFields
  if ← symbol? "=" then copy (.expression true)

/-- An enumeration. -/
def enumeration : Copying Unit := do
  let _ ← visibility?
  keyword "enum"
  identifier
  let _ ← parameters?
  let _ ← conditions?
  inside .brace (commaSeparated variant)

/-- A union. -/
def union : Copying Unit := do
  let _ ← visibility?
  keyword "union"
  identifier
  let _ ← parameters?
  let _ ← conditions?
  namedFields

/-! ## Names for types -/

/-- Where conditions stand in the definition of a name for a type. -/
inductive ConditionPlace where
  | inFront
  | behind
  | either
  deriving DecidableEq

/-- What the definition of a name for a type says. -/
structure TypeName where
  bounded : Bool
  defined : Bool

/-- A name for a type, with bounds or a definition, from its keyword on. -/
def typeName (place : ConditionPlace) : Copying TypeName := do
  keyword "type"
  identifier
  let _ ← parameters?
  let bounded ← boundsBehindColon? <| boundsBefore true fun tokens =>
    beginsWord "where" tokens || begins "=" tokens || begins ";" tokens
  let early ← if place = .behind then pure false else conditions?
  let defined ← symbol? "="
  if defined then copy (.type true)
  if place ≠ .inFront && !early then discard conditions?
  symbol ";"
  return ⟨bounded, defined⟩

end HtmlComponents.View.Expression
