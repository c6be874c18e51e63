/-!
# Tokens

A view is written in the tokens of the program around it: identifiers,
punctuation, literals, and groups of tokens between brackets. Punctuation comes
one character at a time, and a character says whether it touches the next one,
so that `==` can be told from `= =`.

Tokens are printed with a space between two of them, unless the first is a
character of punctuation that touches the second.
-/

namespace HtmlComponents.View

/-- An identifier. A raw one is an identifier even if its name is a keyword, and
is another identifier than the one of that name that is not raw. -/
structure Ident where
  raw : Bool
  name : String
  deriving DecidableEq

namespace Ident

/-- The identifier of a name that is not raw. -/
def plain (name : String) : Ident := ⟨false, name⟩

/-- The identifier as it is written. -/
def written (ident : Ident) : String :=
  if ident.raw then "r#" ++ ident.name else ident.name

end Ident

/-- Whether a character of punctuation touches the one behind it. -/
inductive Spacing where
  | joint
  | alone
  deriving DecidableEq

/-- The brackets around a group. -/
inductive Delimiter where
  | parenthesis
  | bracket
  | brace
  deriving DecidableEq

/-- What a literal is a literal of. -/
inductive LiteralKind where
  /-- A string, with the text that it denotes. -/
  | string (value : String)
  | byteString
  | zeroEndedString
  | character
  | byte
  | integer
  | decimal
  /-- What stands in the place of an expression that could not be shown. -/
  | placeholder
  deriving DecidableEq

/-- A literal with the text that it is written as. -/
structure Literal where
  written : String
  kind : LiteralKind
  deriving DecidableEq

/-- A token, or a group of tokens. -/
inductive Token where
  | ident (ident : Ident)
  | punct (symbol : Char) (spacing : Spacing)
  | literal (literal : Literal)
  | group (delimiter : Delimiter) (content : List Token)

namespace Token

/-- The word of a plain identifier. -/
def word (name : String) : Token := .ident (.plain name)

/-- The characters of a symbol, all of them touching. -/
def symbol : List Char → List Token
  | [] => []
  | [c] => [.punct c .alone]
  | c :: next :: cs => .punct c .joint :: symbol (next :: cs)

/-- The separator between a token and the one behind it. -/
def gap : Token → String
  | punct _ .joint => ""
  | punct _ .alone | ident _ | literal _ | group _ _ => " "

mutual

/-- A token as it is printed. Braces keep a space inside. -/
def written : Token → String
  | ident i => i.written
  | punct symbol _ => String.singleton symbol
  | literal l => l.written
  | group .parenthesis content => "(" ++ writtenAll content ++ ")"
  | group .bracket content => "[" ++ writtenAll content ++ "]"
  | group .brace [] => "\x7b \x7d"
  | group .brace (token :: tokens) => "\x7b " ++ writtenAll (token :: tokens) ++ " \x7d"

/-- Tokens as they are printed. -/
def writtenAll : List Token → String
  | [] => ""
  | [token] => token.written
  | token :: next :: tokens => token.written ++ token.gap ++ writtenAll (next :: tokens)

end

mutual

/-- The number of tokens, those in groups included. -/
def weight : Token → Nat
  | ident _ | punct _ _ | literal _ => 1
  | group _ content => 1 + weightAll content

def weightAll : List Token → Nat
  | [] => 0
  | token :: tokens => token.weight + weightAll tokens

end

end Token

end HtmlComponents.View
