import HtmlComponents.View.Expression.Declaration.Signature

/-!
# Imports

A path makes known what it names, everything below it, or what a row of paths in
braces names below it.
-/

namespace HtmlComponents.View.Expression

open Copying

/-- The words with which a segment of an import can begin. -/
def importWords : List String := ["self", "super", "crate", "try"]

/-- What an import can begin with. -/
def importBeginnings : List Expectation :=
  .identifier :: importWords.map .word ++ [.symbol "*", .group .brace]

/-- A further name for what is imported. -/
def otherName : Copying Unit := do
  if beginsIdent (← rest) then one
  else if !(← keyword? "_") then fail (.unmet "expected identifier or underscore")

/-- What is imported, from a segment of its path on. A path that begins at the root
although it is not the first one has no form, nor has the row that it is in. -/
def imports (root : Bool) : Copying Shape := do
  let tokens ← rest
  if beginsIdent tokens || beginsOneOf importWords tokens then
    one
    if ← symbol? "::" then return ← goal (.imports false)
    if ← keyword? "as" then otherName
    return .plain
  else if begins "*" tokens then
    symbol "*"
    return .plain
  else if beginsGroup .brace tokens then
    inside .brace <| iterate .plain fun shape => do
      if ← finished then return (shape, false)
      let rooted ← if root then symbol? "::" else pure false
      let inner ← goal (.imports (root && !rooted))
      let shape := if rooted || inner = .unformed then .unformed else shape
      if ← finished then return (shape, false)
      symbol ","
      return (shape, true)
  else failOneOf importBeginnings

/-- An import. The answer says whether it is to be kept as it is written. -/
def importing : Copying Bool := do
  let _ ← visibility?
  keyword "use"
  let rooted ← symbol? "::"
  let shape ← goal (.imports !rooted)
  symbol ";"
  return shape = .unformed

/-- A library is made known, perhaps under another name. -/
def libraryImport : Copying Unit := do
  let _ ← visibility?
  keyword "extern"
  keyword "crate"
  if !(← keyword? "self") then identifier
  if ← keyword? "as" then
    if !(← keyword? "_") then identifier
  symbol ";"

end HtmlComponents.View.Expression
