import HtmlComponents.View.Builder
import HtmlComponents.View.Expression
import HtmlComponents.View.Lexer
import HtmlComponents.View.Reading

/-!
# Views

A view is a text in which components are written like markup. It is read into
elements, and the elements are turned into the code that builds the components.

Everything that is wrong with a view is reported where it is first met, with one
exception: tokens that are left over behind an expression are reported only if
there is nothing else to report.
-/

namespace HtmlComponents.View

/-- The first expression with tokens left over makes a view wrong. -/
def checkExcess (elements : List (Element Expression)) : Outcome Unit :=
  let expressions := elements.flatMap Element.expressions
  match expressions.findSome? Expression.excess with
  | some delimiter => .error ⟨.leftover (some delimiter), false⟩
  | none => .ok ()

/-- The elements that tokens consist of. -/
def readTokens (tokens : List Token) : Outcome (List (Element Expression)) := do
  let elements ← Reading.elements Expression.read tokens.length tokens
  checkExcess elements
  return elements

/-- The one element that tokens consist of. -/
def readSingle (tokens : List Token) : Outcome (Element Expression) := do
  let (element, rest) ← Reading.element Expression.read (tokens.length + 1) tokens
  checkExcess [element]
  if rest.isEmpty then return element
  else throw ⟨.leftover none, false⟩

/-- The code for a view that is given as tokens. -/
def codeOfTokens (tokens : List Token) : Outcome (List Token) := do
  let elements ← readTokens tokens
  match Builder.view? Expression.tokens elements with
  | some code => return code
  | none => throw ⟨.noElement, false⟩

/-- Read a text with a reader of tokens. -/
def ofText {α : Type} (reader : List Token → Outcome α) (text : String) : Except Error α :=
  match Lexer.tokens? text with
  | none => .error .noTokens
  | some tokens => (reader tokens).mapError .grammar

/-- The one element that a text consists of. -/
def elementOfText (text : String) : Except Error (Element Expression) := ofText readSingle text

/-- The code for the view that a text is. -/
def codeOfText (text : String) : Except Error String :=
  (ofText codeOfTokens text).map Token.writtenAll

end HtmlComponents.View
