import HtmlComponents.View.Expression.Transcript

/-!
# Operators

An operand is followed by operators as long as they bind tightly enough. The
right operand of an operator takes to itself what binds more tightly than the
operator; an assignment also takes a further assignment.

Comparisons do not chain, and a range is nobody's left operand.
-/

namespace HtmlComponents.View.Expression

open Copying

/-- The operators with two operands, apart from assignment, range and cast. Of two
of which one begins like the other, the longer one comes first. -/
def binaryOperators : List (String × Precedence) :=
  [("+=", .assign), ("-=", .assign), ("*=", .assign), ("/=", .assign), ("%=", .assign),
    ("^=", .assign), ("&=", .assign), ("|=", .assign), ("<<=", .assign), (">>=", .assign),
    ("&&", .and), ("||", .or), ("<<", .shift), (">>", .shift), ("==", .compare),
    ("<=", .compare), ("!=", .compare), (">=", .compare), ("+", .sum), ("-", .sum),
    ("*", .product), ("/", .product), ("%", .product), ("^", .bitXor), ("&", .bitAnd),
    ("|", .bitOr), ("<", .compare), (">", .compare)]

/-- The operator with which tokens begin. -/
def binaryOperator? (tokens : List Token) : Option (String × Precedence) :=
  binaryOperators.find? fun (symbol, _) => begins symbol tokens

/-- Whether tokens begin with an assignment. -/
def beginsAssignment (tokens : List Token) : Bool :=
  begins "=" tokens && !begins "==" tokens && !begins "=>" tokens

/-- How tightly the operator binds with which tokens begin. -/
def nextPrecedence (tokens : List Token) : Precedence :=
  match binaryOperator? tokens with
  | some (_, precedence) => precedence
  | none =>
    if beginsAssignment tokens then .assign
    else if begins ".." tokens then .range
    else if beginsWord "as" tokens then .cast
    else .any

/-- The right operand of an operator. -/
def rightOperand (structs : Bool) (operator : Precedence) : Copying Unit := do
  discard <| iterate (← goal (.operand structs)) fun right => do
    let next := nextPrecedence (← rest)
    let tighter := operator.rank < next.rank || (next = operator && operator = .assign)
    if right = .range || !tighter then return (right, false)
    return (← goal (.operators right structs next), true)

/-! ## Ranges -/

/-- Whether a range ends here, without an end of its own. -/
def endsRange (structs : Bool) (tokens : List Token) : Bool :=
  tokens.isEmpty ||
    [",", ";", "?", "=>", "=", "+", "/", "%", "^", ">", "<=", "!=", "-=", "*=", "&=", "|=",
      "<<="].any (fun symbol => begins symbol tokens) ||
    beginsPoint tokens || (!structs && beginsGroup .brace tokens) || beginsWord "as" tokens

/-- A range from its points on. -/
def rangeFrom (structs : Bool) : Copying Shape := do
  let tokens ← rest
  if begins "..=" tokens then
    symbol "..="
    rightOperand structs .range
  else if begins "..." tokens then failOneOf [.symbol "..="]
  else
    symbol ".."
    if !endsRange structs (← rest) then rightOperand structs .range
  return .range

/-! ## Casts -/

/-- What must not follow a cast directly. -/
def afterCast? (tokens : List Token) : Option String :=
  if beginsPoint tokens then
    let name := behind tokens
    if beginsWord "await" name then some "`.await`"
    else if beginsIdent name &&
        (beginsGroup .parenthesis (behind name) || begins "::" (behind name)) then
      some "a method call"
    else some "a field access"
  else if begins "?" tokens then some "`?`"
  else if beginsGroup .bracket tokens then some "indexing"
  else if beginsGroup .parenthesis tokens then some "a function call"
  else none

/-- A cast from its keyword on. -/
def castFrom : Copying Unit := do
  keyword "as"
  copy (.type false)
  match afterCast? (← rest) with
  | none => return ()
  | some what => fail (.unmet ("casts cannot be followed by " ++ what))

/-! ## All operators -/

/-- The operators behind a left operand of the given shape, as long as they bind
as tightly as `least`. -/
def operators (left : Shape) (structs : Bool) (least : Precedence) : Copying Shape :=
  iterate left fun left => do
    let tokens ← rest
    if left = .range then return (left, false)
    match binaryOperator? tokens with
    | some (operator, precedence) =>
      if precedence.rank < least.rank then return (left, false)
      if precedence = .compare && left = .comparison then fail .chainedComparison
      symbol operator
      rightOperand structs precedence
      return (if precedence = .compare then .comparison else .plain, true)
    | none =>
      if beginsAssignment tokens && least.rank ≤ Precedence.assign.rank then
        symbol "="
        rightOperand structs .assign
        return (.plain, true)
      else if begins ".." tokens && least.rank ≤ Precedence.range.rank then
        return (← rangeFrom structs, true)
      else if beginsWord "as" tokens then
        castFrom
        return (.plain, true)
      else return (left, false)

/-- An expression: an operand with all operators behind it. -/
def expression (structs : Bool) : Copying Shape := do
  operators (← goal (.operand structs)) structs .any

end HtmlComponents.View.Expression
