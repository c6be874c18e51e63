import HtmlComponents.View.Token

/-!
# Why a view is refused

Complaints name what was expected where a view went wrong. Some of them say so
when it went wrong because the tokens had come to their end.
-/

namespace HtmlComponents.View

/-- What is wrong with a view or with an expression in it. -/
inductive Complaint where
  /-- A symbol or a keyword is not there. -/
  | missing (symbol : String)
  | noIdentifier
  /-- A keyword stands where an identifier is wanted. -/
  | keyword (ident : Ident)
  | noAttributeName
  | noAttributeValue
  | noChild
  /-- An element is closed by a tag of another name. -/
  | mismatched (opened closed : Ident)
  /-- There are no elements at all. -/
  | noElement
  /-- Tokens are left over, inside brackets or behind everything. -/
  | leftover (inside : Option Delimiter)
  | noExpression
  /-- What stands behind a point is no member. -/
  | noMember
  | chainedComparison
  /-- Nothing can stand here. -/
  | nothingFits
  /-- None of several things is there that could be. -/
  | noneOf (options : List String)
  /-- Something else of an expression is not there, or should not be. -/
  | unmet (expectation : String)
  deriving DecidableEq

/-- What closes a group. -/
def Delimiter.closing : Delimiter → String
  | parenthesis => ")"
  | bracket => "]"
  | brace => "\x7d"

namespace Complaint

/-- The text of a complaint. -/
def text : Complaint → String
  | missing symbol => "expected `" ++ symbol ++ "`"
  | noIdentifier => "expected identifier"
  | keyword ident => "expected identifier, found keyword `" ++ ident.written ++ "`"
  | noAttributeName => "expected ident"
  | noAttributeValue => "expected a string literal, `true`/`false`, or `\x7bexpression\x7d`"
  | noChild =>
    "expected a child element, a string literal, `\x7bexpression\x7d`, or `</` to close the parent"
  | mismatched opened closed =>
    "mismatched closing tag: expected `</" ++ opened.written ++ ">`, found `</" ++
      closed.written ++ ">`"
  | noElement => "view! macro requires at least one element"
  | leftover none => "unexpected token"
  | leftover (some delimiter) => "unexpected token, expected `" ++ delimiter.closing ++ "`"
  | noExpression => "expected an expression"
  | noMember => "expected identifier or integer"
  | chainedComparison => "comparison operators cannot be chained"
  | nothingFits => "unexpected token"
  | noneOf [] => "unexpected token"
  | noneOf [option] => "expected " ++ option
  | noneOf [option, other] => "expected " ++ option ++ " or " ++ other
  | noneOf options => "expected one of: " ++ ", ".intercalate options
  | unmet expectation => expectation

end Complaint

/-- A complaint, and whether the tokens had come to their end. -/
structure GrammarError where
  complaint : Complaint
  atEnd : Bool := false
  deriving DecidableEq

namespace GrammarError

/-- A complaint about the place where these tokens begin. -/
def here (complaint : Complaint) (tokens : List Token) : GrammarError :=
  ⟨complaint, tokens.isEmpty⟩

/-- The text that reports the error. -/
def message (error : GrammarError) : String :=
  if !error.atEnd then error.complaint.text
  else if error.complaint = .nothingFits then "unexpected end of input"
  else "unexpected end of input, " ++ error.complaint.text

end GrammarError

/-- Why a view is refused. -/
inductive Error where
  /-- The text cannot be cut into tokens. -/
  | noTokens
  | grammar (error : GrammarError)
  deriving DecidableEq

/-- The text that reports the error. -/
def Error.message : Error → String
  | noTokens => "cannot parse string into token stream"
  | grammar error => error.message

end HtmlComponents.View
