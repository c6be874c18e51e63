import HtmlComponents.View.Error
import HtmlComponents.View.Reading

/-!
# Looking ahead in an expression

What the next tokens are, without reading them. A symbol of several characters
is there if the characters touch; of what follows the last one nothing is asked,
so that `<` begins `<=` too. A word is a keyword or a name that has a meaning in
its place. A lifetime is a quote and a name, and counts as one token.
-/

namespace HtmlComponents.View.Expression

/-! ## Single tokens -/

/-- The tokens behind a symbol, if they begin with it. -/
def afterSymbol? : List Char → List Token → Option (List Token)
  | [], tokens => some tokens
  | [c], .punct d _ :: rest => if c = d then some rest else none
  | c :: next :: cs, .punct d .joint :: rest =>
    if c = d then afterSymbol? (next :: cs) rest else none
  | _, _ => none

/-- Whether tokens begin with a symbol. -/
def begins (symbol : String) (tokens : List Token) : Bool :=
  (afterSymbol? symbol.toList tokens).isSome

/-- Whether tokens begin with a plain word. -/
def beginsWord (word : String) : List Token → Bool
  | .ident i :: _ => i = .plain word
  | _ => false

/-- Whether tokens begin with one of several plain words. -/
def beginsOneOf (words : List String) (tokens : List Token) : Bool :=
  words.any fun word => beginsWord word tokens

/-- Whether tokens begin with an identifier that is no keyword. -/
def beginsIdent : List Token → Bool
  | .ident i :: _ => !i.isKeyword
  | _ => false

/-- Whether tokens begin with an identifier or a keyword. -/
def beginsAnyWord : List Token → Bool
  | .ident _ :: _ => true
  | _ => false

/-- Whether tokens begin with a group in the given brackets. -/
def beginsGroup (delimiter : Delimiter) : List Token → Bool
  | .group d _ :: _ => d = delimiter
  | _ => false

/-- Whether tokens begin with the literal of a string. -/
def beginsString : List Token → Bool
  | .literal ⟨_, .string _⟩ :: _ => true
  | _ => false

/-- Whether a literal is a number. -/
def isNumber (literal : Literal) : Bool :=
  literal.kind = .integer || literal.kind = .decimal

/-- The tokens behind a literal, if they begin with one. The truth values are
literals, and a number may have a sign. -/
def afterLiteral? : List Token → Option (List Token)
  | .literal _ :: rest => some rest
  | .ident i :: rest => if i.truth?.isSome then some rest else none
  | .punct '-' _ :: .literal literal :: rest => if isNumber literal then some rest else none
  | _ => none

/-- Whether tokens begin with a literal. -/
def beginsLiteral (tokens : List Token) : Bool := (afterLiteral? tokens).isSome

/-- Whether tokens begin with a lifetime. -/
def beginsLifetime : List Token → Bool
  | .punct '\'' .joint :: .ident _ :: _ => true
  | _ => false

/-- The tokens behind the first one. -/
def behind : List Token → List Token
  | .punct '\'' .joint :: .ident _ :: rest => rest
  | _ :: rest => rest
  | [] => []

/-- The tokens behind a word that may be left out. -/
def behindWord (word : String) (tokens : List Token) : List Token :=
  if beginsWord word tokens then behind tokens else tokens

/-! ## Common beginnings -/

/-- Whether tokens begin with the bang of a call, as opposed to an inequality. -/
def beginsBang (tokens : List Token) : Bool := begins "!" tokens && !begins "!=" tokens

/-- Whether tokens begin with the point in front of a member, as opposed to a
range. -/
def beginsPoint (tokens : List Token) : Bool := begins "." tokens && !begins ".." tokens

/-- Whether tokens begin with a colon, as opposed to the separator of a path. -/
def beginsColon (tokens : List Token) : Bool := begins ":" tokens && !begins "::" tokens

/-- Whether tokens begin with a bar between patterns, as opposed to an operator. -/
def beginsBar (tokens : List Token) : Bool :=
  begins "|" tokens && !begins "||" tokens && !begins "|=" tokens

/-! ## Expectations -/

/-- What a place can begin with. -/
inductive Expectation where
  | symbol (text : String)
  | word (text : String)
  | identifier
  | lifetime
  | literal
  | string
  | group (delimiter : Delimiter)

/-- What a pair of brackets is called. -/
def brackets : Delimiter → String
  | .parenthesis => "parentheses"
  | .bracket => "square brackets"
  | .brace => "curly braces"

namespace Expectation

/-- Whether tokens begin with what is expected. -/
def isMet : Expectation → List Token → Bool
  | symbol text, tokens => begins text tokens
  | word text, tokens => beginsWord text tokens
  | identifier, tokens => beginsIdent tokens
  | lifetime, tokens => beginsLifetime tokens
  | literal, tokens => beginsLiteral tokens
  | string, tokens => beginsString tokens
  | group delimiter, tokens => beginsGroup delimiter tokens

/-- What is expected, in words. -/
def text : Expectation → String
  | symbol text | word text => "`" ++ text ++ "`"
  | identifier => "identifier"
  | lifetime => "lifetime"
  | literal => "literal"
  | string => "string literal"
  | group delimiter => brackets delimiter

/-- What cannot be said against a place that begins with none of several things.
A thing that is there, but did not fit for another reason, is not named. -/
def unmet (options : List Expectation) (tokens : List Token) : GrammarError :=
  .here (.noneOf ((options.filter fun option => !option.isMet tokens).map text)) tokens

end Expectation

end HtmlComponents.View.Expression
