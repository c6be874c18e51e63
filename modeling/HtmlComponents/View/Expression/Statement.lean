import HtmlComponents.View.Expression.Declaration
import HtmlComponents.View.Expression.Operand

/-!
# Statements

What stands in a block: bindings, declarations, and expressions. An expression
that ends with a block ends there when it stands as a statement, unless a point
or a question mark goes on with it; any other expression needs a semicolon to be
followed by something.
-/

namespace HtmlComponents.View.Expression

open Copying

/-! ## Expressions -/

/-- An expression that stands as a statement or to the right in a match. -/
def statementExpression : Copying Shape := do
  outerAttributes
  let tokens ← rest
  if !beginsBlock tokens then return ← expression true
  let shape ← blockAtom
  let tokens ← rest
  if !(beginsPoint tokens || begins "?" tokens) then return shape
  operators (← trailers shape) true .any

/-- Whether a statement of the given shape has to end with a semicolon. -/
def needsSemicolon (shape : Shape) : Bool := shape ≠ .block && shape ≠ .bracedCall

/-! ## Bindings -/

/-- Whether the last token that was copied is a group in braces. -/
def endsWithBraces : Copying Bool := do
  return beginsGroup .brace ((← get).copied.take 1)

/-- A binding. What happens if the pattern does not fit cannot follow braces. -/
def binding : Copying Unit := do
  keyword "let"
  copy .pattern
  if ← symbol? ":" then copy (.type true)
  if ← symbol? "=" then
    copy (.expression true)
    if (← seesWord "else") && !(← endsWithBraces) then
      keyword "else"
      block
  symbol ";"

/-! ## Declarations -/

/-- What is behind the path of a call, if tokens begin with a path and a bang. -/
def afterBang? (tokens : List Token) : Option (List Token) :=
  (afterModulePath? tokens).bind fun tokens =>
    if begins "!" tokens then some (behind tokens) else none

/-- Whether tokens begin with a call that is given a name to declare. -/
def beginsNamedCall (tokens : List Token) : Bool :=
  (afterBang? tokens).any fun tokens => beginsIdent tokens || beginsWord "try" tokens

/-- Whether tokens begin with a call in braces that is a statement by itself. -/
def beginsBracedCall (tokens : List Token) : Bool :=
  (afterBang? tokens).any fun tokens =>
    let next := behind tokens
    beginsGroup .brace tokens && !(beginsPoint next || begins "?" next)

/-- Whether tokens begin with a variable, as opposed to a closure. -/
def beginsVariable (tokens : List Token) : Bool :=
  beginsWord "static" tokens &&
    (beginsWord "mut" (behind tokens) || beginsIdent (behind tokens))

/-- The words that a function can begin with behind the word that makes it wait. -/
def asyncFunctionWords : List String := ["unsafe", "extern", "fn"]

/-- Whether tokens begin with a constant or a function that can be one, as opposed to
a block or a closure. -/
def beginsConstant (tokens : List Token) : Bool :=
  let next := behind tokens
  beginsWord "const" tokens &&
    !(beginsGroup .brace next || beginsOneOf ["static", "move"] next || begins "|" next ||
      (beginsWord "async" next && !beginsOneOf asyncFunctionWords (behind next)))

/-- The words with which a declaration always begins. -/
def itemWords : List String :=
  ["pub", "extern", "use", "fn", "mod", "type", "struct", "enum", "trait", "impl", "macro"]

/-- Whether tokens begin with a declaration, as opposed to an expression. -/
def beginsItem (tokens : List Token) : Bool :=
  let next := behind tokens
  beginsOneOf itemWords tokens || beginsVariable tokens || beginsConstant tokens ||
    (beginsWord "crate" tokens && !begins "::" next) ||
    (beginsWord "unsafe" tokens && !beginsGroup .brace next) ||
    (beginsWord "async" tokens && beginsOneOf asyncFunctionWords next) ||
    (beginsWord "union" tokens && beginsIdent next) ||
    (beginsWord "auto" tokens && beginsWord "trait" next) ||
    (beginsWord "default" tokens && beginsOneOf ["unsafe", "impl"] next) ||
    beginsNamedCall tokens

/-! ## Statements -/

/-- A statement that is more than a semicolon. -/
def statement : Copying Unit := do
  let start ← get
  outerAttributes
  let tokens ← rest
  if beginsBracedCall tokens then
    modulePath
    symbol "!"
    one
    discard (symbol? ";")
  else if beginsWord "let" tokens then binding
  else if beginsItem tokens then itemSince start
  else
    let shape ← statementExpression
    let ended ← symbol? ";"
    if !ended && needsSemicolon shape && !(← finished) then
      fail (.unmet "unexpected token, expected `;`")

/-- The statements of a block. -/
def statements : Copying Unit := repeated do
  if ← finished then return false
  if !(← symbol? ";") then statement
  return true

end HtmlComponents.View.Expression
