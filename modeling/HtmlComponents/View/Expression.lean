import HtmlComponents.View.Expression.Statement

/-!
# Expressions

The content of a pair of braces, read as one expression of the program around the
view. Tokens that are left over behind the expression do not end the reading of
the view: what is wrong with the rest of it is reported first.
-/

namespace HtmlComponents.View

namespace Expression

/-- The rules of the grammar. -/
def rule : Goal → Copying Shape
  | .expression structs => expression structs
  | .operand structs => operand structs
  | .operators left structs least => operators left structs least
  | .statementExpression => statementExpression
  | .statements => plainly statements
  | .item => plainly item
  | .type several => type several
  | .arguments => plainly arguments
  | .pattern => pattern
  | .fields => plainly fields
  | .imports root => imports root
where
  /-- A step after which nothing needs to be known. -/
  plainly (step : Copying Unit) : Copying Shape := do
    step
    return .plain

/-- How a goal is met by rules that ask for each other, with fuel for the depth to
which they do. -/
def meet (limit : Nat) : (fuel : Nat) → Goal → StateT Transcript (Except GrammarError) Shape
  | 0, _ => throw ⟨.noExpression, false⟩
  | fuel + 1, goal => rule goal ⟨meet limit fuel, limit⟩

/-- How deep goals can lie in each other for each token: a token is used after at
most so many goals. -/
def goalsPerToken : Nat := 32

/-- The transcript of an expression. -/
def transcript (content : List Token) : Except GrammarError Transcript := do
  let limit := Token.weightAll content
  let fuel := goalsPerToken * (limit + 1)
  let (_, t) ← (meet limit fuel (.expression true)).run { rest := content }
  return t

end Expression

/-- An expression: its tokens, and the brackets around the first token that is left
over in it or behind it, if there is one. -/
structure Expression where
  tokens : List Token
  excess : Option Delimiter

namespace Expression

/-- The expression that the content of a pair of braces begins with. -/
def read (content : List Token) : Except GrammarError Expression := do
  let t ← transcript content
  let left := if t.rest.isEmpty then none else some .brace
  return ⟨t.copied.reverse, t.excess.or left⟩

/-- An expression as it is printed. -/
def written (e : Expression) : String := Token.writtenAll e.tokens

end Expression

end HtmlComponents.View
