import HtmlComponents.View.Expression.Member
import HtmlComponents.View.Expression.Path

/-!
# Patterns

What stands to the left of a binding, of an arm of a match, or between the bars
of a closure. Ends of ranges are literals, paths, or blocks of constants.
-/

namespace HtmlComponents.View.Expression

open Copying

/-! ## Ranges -/

/-- A block whose value is known beforehand. -/
def constantBlock : Copying Unit := do
  keyword "const"
  body

/-- Whether a range goes no further than its points. -/
def endsOpenRange (tokens : List Token) : Bool :=
  tokens.isEmpty || begins "|" tokens || begins "=" tokens || beginsColon tokens ||
    begins "," tokens || begins ";" tokens || beginsWord "if" tokens

/-- What an end of a range can begin with. -/
def rangeEndBeginnings : List Expectation :=
  [.literal, .identifier, .symbol "::", .symbol "<", .word "self", .word "Self", .word "super",
    .word "crate", .word "const"]

/-- An end of a range. -/
def rangeEnd : Copying Unit := do
  let tokens ← rest
  if beginsLiteral tokens then literal
  else if beginsWord "const" tokens then constantBlock
  else if rangeEndBeginnings.any (fun beginning => beginning.isMet tokens) then
    let _ ← path true
  else failOneOf rangeEndBeginnings

/-- The points of a range and what is behind them. The answer says whether the
range has an upper end. Three points mean the same as two points and a sign of
equality, and are copied as that. -/
def rangeFromPoints : Copying Bool := do
  let tokens ← rest
  let closed := begins "..=" tokens || begins "..." tokens
  if begins "..." tokens then
    silently (symbol "...")
    write (Token.symbol ['.', '.', '='])
  else symbol (if closed then "..=" else "..")
  if !endsOpenRange (← rest) then
    rangeEnd
    return true
  if closed then fail (.unmet "expected range upper bound")
  return false

/-- The rest of a range behind its lower end, if it is a range. -/
def range? : Copying Shape := do
  if !(← sees "..") then return .plain
  return if ← rangeFromPoints then .plain else .openRange

/-- A range without a lower end. Without an upper one it stands for any number of
things. -/
def rangeWithoutStart : Copying Shape := do
  return if ← rangeFromPoints then .openRange else .plain

/-! ## Several patterns -/

/-- Patterns with bars between them, perhaps with one in front. -/
def patterns : Copying Shape := do
  let barred ← symbol? "|"
  let first ← goal .pattern
  iterate (if barred then .plain else first) fun shape => do
    if !beginsBar (← rest) then return (shape, false)
    symbol "|"
    copy .pattern
    return (.plain, true)

/-- Patterns in parentheses. -/
def patternRow : Copying Unit :=
  inside .parenthesis (commaSeparated (discard patterns))

/-- Patterns in square brackets. A range that lacks an end has to be in
parentheses there. -/
def slicePattern : Copying Unit := inside .bracket <| commaSeparated do
  if (← patterns) = .openRange then
    refuse (.unmet "range pattern is not allowed unparenthesized inside slice pattern")

/-! ## Structures -/

/-- A field of a structure: its name, or its name or number and patterns. -/
def patternField : Copying Unit := do
  let boxed ← keyword? "box"
  let borrowed ← keyword? "ref"
  let changing ← keyword? "mut"
  if boxed || borrowed || changing then identifier
  else
    let named ← member
    if !named || (← sees ":") then
      symbol ":"
      discard patterns

/-- The fields of a structure. Two points stand for those that are not named. -/
def structPattern : Copying Unit := inside .brace <| repeated do
  if ← finished then return false
  outerAttributes
  if ← symbol? ".." then return false
  patternField
  if ← finished then return false
  symbol ","
  return true

/-! ## Single patterns -/

/-- Whether a pattern that begins with an identifier goes on as a path. -/
def continuesPath (tokens : List Token) : Bool :=
  begins "::" tokens || begins "!" tokens || beginsGroup .brace tokens ||
    beginsGroup .parenthesis tokens || begins ".." tokens

/-- Whether a pattern begins with a path. -/
def beginsPathPattern (tokens : List Token) : Bool :=
  (beginsIdent tokens && continuesPath (behind tokens)) ||
    (beginsWord "self" tokens && begins "::" (behind tokens)) ||
    begins "::" tokens || begins "<" tokens || beginsOneOf ["Self", "super", "crate"] tokens

/-- A pattern that begins with a path. -/
def pathPattern : Copying Shape := do
  let shape ← path true
  let tokens ← rest
  if shape.isModular && beginsBang tokens then
    symbol "!"
    let _ ← anyGroup
    return .plain
  else if beginsGroup .brace tokens then
    structPattern
    return .plain
  else if beginsGroup .parenthesis tokens then
    patternRow
    return .plain
  else range?

/-- A name that is bound, perhaps to what a further pattern describes. -/
def bindingPattern : Copying Unit := do
  let _ ← keyword? "ref"
  let _ ← keyword? "mut"
  if !(← keyword? "self") then identifier
  if ← symbol? "@" then copy .pattern

/-- A pattern for what is in a box. It is kept as it is written. -/
def boxPattern : Copying Unit := do
  let start ← get
  keyword "box"
  copy .pattern
  asWrittenSince start

/-- A pattern for what is referred to. -/
def referencePattern : Copying Unit := do
  symbol "&"
  let _ ← keyword? "mut"
  copy .pattern

/-- What a pattern can begin with. -/
def patternBeginnings : List Expectation :=
  [.identifier, .symbol "::", .symbol "<", .word "_", .literal, .word "const", .word "ref",
    .word "mut", .symbol "&", .group .parenthesis, .group .bracket, .symbol ".."]

/-- One pattern. -/
def pattern : Copying Shape := do
  let tokens ← rest
  if beginsPathPattern tokens then pathPattern
  else if beginsWord "_" tokens then plainly one
  else if beginsWord "box" tokens then plainly boxPattern
  else if begins "-" tokens || beginsLiteral tokens || beginsWord "const" tokens then
    rangeEnd
    range?
  else if beginsIdent tokens || beginsOneOf ["ref", "mut", "self"] tokens then
    plainly bindingPattern
  else if begins "&" tokens then plainly referencePattern
  else if beginsGroup .parenthesis tokens then plainly patternRow
  else if beginsGroup .bracket tokens then plainly slicePattern
  else if begins ".." tokens && !begins "..." tokens then rangeWithoutStart
  else failOneOf patternBeginnings
where
  /-- A step after which nothing needs to be known. -/
  plainly (step : Copying Unit) : Copying Shape := do
    step
    return .plain

end HtmlComponents.View.Expression
