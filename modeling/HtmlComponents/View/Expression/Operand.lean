import HtmlComponents.View.Expression.Generics
import HtmlComponents.View.Expression.Operator
import HtmlComponents.View.Expression.Pattern

/-!
# Operands

An operand is an atom with signs in front of it and calls, members, indices and
question marks behind it. Atoms are literals, paths, everything in brackets, and
the expressions that begin with a keyword.
-/

namespace HtmlComponents.View.Expression

open Copying

/-! ## What is behind an atom -/

/-- Inputs of a call. -/
def callInputs : Copying Unit :=
  inside .parenthesis (commaSeparated (copy (.expression true)))

/-- A member, or the call of a method. -/
def memberOrCall : Copying Unit := do
  if ← keyword? "await" then return ()
  if (← member) && (← sees "::") then
    symbol "::"
    copy .arguments
    callInputs

/-- Calls, members, indices and question marks behind an atom. -/
def trailers (atom : Shape) : Copying Shape :=
  iterate atom fun atom => do
    let tokens ← rest
    if beginsGroup .parenthesis tokens then callInputs
    else if beginsGroup .bracket tokens then inside .bracket (copy (.expression true))
    else if beginsPoint tokens && atom ≠ .range then
      symbol "."
      if ← awaitsMember then memberOrCall
    else if begins "?" tokens && atom ≠ .range then symbol "?"
    else return (atom, false)
    return (.plain, true)

/-! ## Blocks and loops -/

/-- A block in front of which a word stands. -/
def qualifiedBlock (word : String) : Copying Unit := do
  keyword word
  body

/-- A condition with its block, and what happens otherwise. -/
def conditional : Copying Unit := repeated do
  keyword "if"
  copy (.expression false)
  block
  if !(← keyword? "else") then return false
  if ← seesWord "if" then return true
  if !(← seesGroup .brace) then failOneOf [.word "if", .group .brace]
  block
  return false

/-- A loop or a block, behind its label if it has one. -/
def loop : Copying Unit := do
  if ← keyword? "while" then copy (.expression false)
  else if ← keyword? "for" then
    let _ ← patterns
    keyword "in"
    copy (.expression false)
  else if !(← keyword? "loop") then
    if !(← seesGroup .brace) then fail (.unmet "expected loop or block expression")
  body

/-- A loop or a block with a label. -/
def labeled : Copying Unit := do
  lifetime
  symbol ":"
  loop

/-- An arm of a match. If it ends with a block it needs no comma. -/
def arm : Copying Unit := do
  outerAttributes
  let _ ← patterns
  if ← keyword? "if" then copy (.expression true)
  symbol "=>"
  let right ← goal .statementExpression
  if right = .block || (← finished) then discard (symbol? ",") else symbol ","

/-- A match. -/
def matching : Copying Unit := do
  keyword "match"
  copy (.expression false)
  inside .brace do
    innerAttributes
    many arm

/-- The condition of a binding. -/
def letting (structs : Bool) : Copying Unit := do
  keyword "let"
  let _ ← patterns
  symbol "="
  let left ← goal (.operand structs)
  copy (.operators left structs .compare)

/-! ## Closures -/

/-- Whether tokens begin with a closure. -/
def beginsClosure (tokens : List Token) : Bool :=
  let next := behind tokens
  begins "|" tokens || beginsOneOf ["move", "static"] tokens ||
    (beginsWord "for" tokens && beginsParameters next) ||
    (beginsWord "const" tokens && !beginsGroup .brace next) ||
    (beginsWord "async" tokens && (begins "|" next || beginsWord "move" next))

/-- An input of a closure. -/
def closureInput : Copying Unit := do
  outerAttributes
  copy .pattern
  if ← symbol? ":" then copy (.type true)

/-- The inputs of a closure between their bars. -/
def closureInputs : Copying Unit := do
  symbol "|"
  repeated do
    if ← sees "|" then return false
    closureInput
    if ← sees "|" then return false
    symbol ","
    return true
  symbol "|"

/-- A closure. If it says what it returns, its body is a block. -/
def closure (structs : Bool) : Copying Unit := do
  let _ ← binder?
  let _ ← keyword? "const"
  let _ ← keyword? "static"
  let _ ← keyword? "async"
  let _ ← keyword? "move"
  closureInputs
  match ← output? true with
  | some _ => block
  | none => copy (.expression structs)

/-! ## Leaving -/

/-- Whether tokens can begin an expression. -/
def canBegin (tokens : List Token) : Bool :=
  let single (symbol : String) (others : List String) : Bool :=
    begins symbol tokens && !others.any fun other => begins other tokens
  match tokens with
  | .literal _ :: _ | .group _ _ :: _ => true
  | .ident _ :: _ => !beginsWord "as" tokens
  | _ =>
    beginsLifetime tokens || begins ".." tokens || begins "::" tokens || begins "#" tokens ||
      single "!" ["!="] || single "-" ["-=", "->"] || single "*" ["*="] || single "|" ["|="] ||
      single "&" ["&="] || single "<" ["<=", "<<="]

/-- A function or a step of it is left, perhaps with a value. -/
def leaving : Copying Unit := do
  one
  if canBegin (← rest) then copy (.expression true)

/-- A loop or a block is left, perhaps with a value. A label in front of it is not
that of a loop inside of the value. -/
def breaking (structs : Bool) : Copying Unit := do
  keyword "break"
  let tokens ← rest
  if beginsLifetime tokens && begins ":" (behind tokens) then
    copy (.expression true)
    refuse (.unmet "parentheses required")
  lifetime?
  let tokens ← rest
  if canBegin tokens && (structs || !beginsGroup .brace tokens) then copy (.expression true)

/-- A function is left for another one. It is kept as it is written. -/
def becoming : Copying Unit := do
  let start ← get
  keyword "become"
  copy (.expression true)
  asWrittenSince start

/-! ## Paths and brackets -/

/-- Whether tokens begin with a path. -/
def beginsPath (tokens : List Token) : Bool :=
  beginsIdent tokens || begins "::" tokens || begins "<" tokens ||
    beginsOneOf ["self", "Self", "super", "crate"] tokens ||
    (beginsWord "try" tokens && (begins "!" (behind tokens) || begins "::" (behind tokens)))

/-- A field of a structure. The value of a field may be left out if it has a name. -/
def structField : Copying Unit := do
  outerAttributes
  let named ← member
  if !named || (← sees ":") then
    symbol ":"
    copy (.expression true)

/-- The fields of a structure. The last one may be what the others come from. -/
def structFields : Copying Unit := inside .brace <| repeated do
  if ← finished then return false
  if ← symbol? ".." then
    if !(← finished) then copy (.expression true)
    return false
  structField
  if ← finished then return false
  symbol ","
  return true

/-- A path, or what a path begins: a call in brackets of its own choice, or a
structure. -/
def pathAtom (structs : Bool) : Copying Shape := do
  let shape ← path true
  let tokens ← rest
  if shape.isModular && beginsBang tokens then
    symbol "!"
    return if ← anyGroup then .bracedCall else .plain
  if structs && beginsGroup .brace tokens then structFields
  return .plain

/-- An array: its members, or one member and how often it is repeated. -/
def array : Copying Unit := inside .bracket do
  if ← finished then return ()
  copy (.expression true)
  if ← finished then return ()
  if ← symbol? "," then commaSeparated (copy (.expression true))
  else if ← symbol? ";" then copy (.expression true)
  else fail (.unmet "expected `,` or `;`")

/-- Whether tokens begin with a call of something that is built in. -/
def beginsBuiltin (tokens : List Token) : Bool :=
  beginsWord "builtin" tokens && begins "#" (behind tokens)

/-- A call of something that is built in. It is kept as it is written. -/
def builtin : Copying Unit := do
  let start ← get
  keyword "builtin"
  symbol "#"
  identifier
  inside .parenthesis (many one)
  asWrittenSince start

/-! ## Atoms -/

/-- Whether tokens begin with a block that is a value of its own, to be waited for. -/
def beginsAsyncBlock (tokens : List Token) : Bool :=
  let next := behind tokens
  beginsWord "async" tokens && beginsGroup .brace (behindWord "move" next)

/-- A block that is a value of its own. -/
def asyncBlock : Copying Unit := do
  keyword "async"
  let _ ← keyword? "move"
  block

/-- Whether tokens begin with an expression that ends with a block and can stand as
a statement. -/
def beginsBlock (tokens : List Token) : Bool :=
  beginsOneOf ["if", "while", "loop", "match", "unsafe"] tokens ||
    (beginsWord "for" tokens && !beginsParameters (behind tokens)) ||
    (beginsOneOf ["try", "const"] tokens && beginsGroup .brace (behind tokens)) ||
    beginsGroup .brace tokens || beginsLifetime tokens

/-- An expression that ends with a block and can stand as a statement. -/
def blockAtom : Copying Shape := do
  let tokens ← rest
  if beginsWord "if" tokens then conditional
  else if beginsWord "match" tokens then matching
  else if beginsWord "unsafe" tokens then qualifiedBlock "unsafe"
  else if beginsWord "const" tokens then constantBlock
  else if beginsWord "try" tokens then
    one
    block
  else if beginsLifetime tokens then labeled
  else loop
  return .block

/-- An atom. -/
def atom (structs : Bool) : Copying Shape := do
  let tokens ← rest
  if beginsLiteral tokens then plainly literal
  else if beginsWord "_" tokens then plainly one
  else if beginsAsyncBlock tokens then plainly asyncBlock
  else if beginsClosure tokens then plainly (closure structs)
  else if beginsBlock tokens then blockAtom
  else if beginsBuiltin tokens then
    builtin
    return .unformed
  else if beginsPath tokens then pathAtom structs
  else if beginsGroup .parenthesis tokens then plainly callInputs
  else if beginsGroup .bracket tokens then plainly array
  else if beginsWord "let" tokens then plainly (letting structs)
  else if begins ".." tokens then rangeFrom structs
  else if beginsOneOf ["return", "yield"] tokens then plainly leaving
  else if beginsWord "break" tokens then plainly (breaking structs)
  else if beginsWord "become" tokens then
    becoming
    return .unformed
  else if beginsWord "continue" tokens then plainly (one *> lifetime?)
  else fail .noExpression
where
  /-- A step after which nothing needs to be known. -/
  plainly (step : Copying Unit) : Copying Shape := do
    step
    return .plain

/-! ## Operands -/

/-- An atom with what is behind it. There may be attributes, which `attributed`
says, but not in front of a range. -/
def trailedAtom (structs attributed : Bool) : Copying Shape := do
  let shape ← trailers (← atom structs)
  if shape = .range && attributed then
    refuse (.unmet "attributes are not allowed on range expressions starting with `..`")
  return shape

/-- A reference, to a place or to what is stored there. -/
def reference (structs : Bool) : Copying Unit := do
  symbol "&"
  let tokens ← rest
  if beginsWord "raw" tokens && beginsOneOf ["mut", "const"] (behind tokens) then
    one
    one
  else discard (keyword? "mut")
  copy (.operand structs)

/-- An operand. -/
def operand (structs : Bool) : Copying Shape := do
  let start ← get
  outerAttributes
  let tokens ← rest
  if begins "&" tokens then
    reference structs
    return .plain
  match ["*", "!", "-"].find? fun sign => begins sign tokens with
  | some sign =>
    symbol sign
    copy (.operand structs)
    return .plain
  | none =>
    let shape ← trailedAtom structs (begins "#" start.rest)
    if shape = .unformed then asWrittenSince start
    return shape

end HtmlComponents.View.Expression
