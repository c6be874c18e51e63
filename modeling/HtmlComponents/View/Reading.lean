import HtmlComponents.View.Element
import HtmlComponents.View.Error

/-!
# Reading elements

Elements are read from left to right, and the first token that does not fit ends
the reading. Two tokens decide what comes next: an angle bracket and a slash close
the parent, an angle bracket alone begins a child.

How the content of a pair of braces is read as an expression is a parameter. It
is given all the tokens between the braces.
-/

namespace HtmlComponents.View

/-- What comes of reading. A reader of a thing gives it with the tokens behind it. -/
abbrev Outcome := Except GrammarError

/-- The words that are no identifiers unless they are raw. -/
def keywords : List String :=
  ["_", "abstract", "as", "async", "await", "become", "box", "break", "const", "continue",
    "crate", "do", "dyn", "else", "enum", "extern", "false", "final", "fn", "for", "if", "impl",
    "in", "let", "loop", "macro", "match", "mod", "move", "mut", "override", "priv", "pub",
    "ref", "return", "Self", "self", "static", "struct", "super", "trait", "true", "try", "type",
    "typeof", "unsafe", "unsized", "use", "virtual", "where", "while", "yield"]

/-- Whether an identifier is a keyword. -/
def Ident.isKeyword (ident : Ident) : Bool := !ident.raw && keywords.contains ident.name

/-- The truth value that an identifier is the literal of. -/
def Ident.truth? (ident : Ident) : Option Bool :=
  if ident = .plain "true" then some true
  else if ident = .plain "false" then some false
  else none

namespace Reading

/-- An identifier that is no keyword. -/
def ident : List Token → Outcome (Ident × List Token)
  | .ident i :: rest => if i.isKeyword then .error ⟨.keyword i, false⟩ else .ok (i, rest)
  | tokens => .error (.here .noIdentifier tokens)

variable {ε : Type} (expression : List Token → Outcome ε)

/-- The attributes of a tag up to its end. The answer says whether the tag ends
with a slash, which closes the element. -/
def attributes : List Token → Outcome ((List (Attribute ε) × Bool) × List Token)
  | .punct '/' _ :: .punct '>' _ :: rest => .ok (([], true), rest)
  | .punct '/' _ :: _ => .error ⟨.missing ">", false⟩
  | .punct '>' _ :: rest => .ok (([], false), rest)
  | .ident name :: .punct '=' _ :: .literal literal :: rest =>
    match literal.string? with
    | none => .error ⟨.noAttributeValue, false⟩
    | some text => withAttribute ⟨name, .text text⟩ (attributes rest)
  | .ident name :: .punct '=' _ :: .ident value :: rest =>
    match value.truth? with
    | none => .error ⟨.noAttributeValue, false⟩
    | some value => withAttribute ⟨name, .truth value⟩ (attributes rest)
  | .ident name :: .punct '=' _ :: .group .brace content :: rest =>
    match expression content with
    | .error error => .error error
    | .ok e => withAttribute ⟨name, .expression e⟩ (attributes rest)
  | .ident _ :: .punct '=' _ :: rest => .error (.here .noAttributeValue rest)
  | .ident name :: rest => withAttribute ⟨name, .flag⟩ (attributes rest)
  | tokens => .error (.here .noAttributeName tokens)
where
  /-- The attributes behind a first one. -/
  withAttribute (a : Attribute ε) :
      Outcome ((List (Attribute ε) × Bool) × List Token) →
        Outcome ((List (Attribute ε) × Bool) × List Token)
    | .ok ((later, closed), rest) => .ok ((a :: later, closed), rest)
    | .error error => .error error

/-- The rest of a closing tag behind its slash. -/
def closing (opened : Ident) (tokens : List Token) : Outcome (List Token) :=
  match ident tokens with
  | .error error => .error error
  | .ok (closed, rest) =>
    if closed ≠ opened then .error ⟨.mismatched opened closed, false⟩
    else
      match rest with
      | .punct '>' _ :: rest => .ok rest
      | _ => .error ⟨.missing ">", false⟩

mutual

/-- An element. There is fuel for the tokens. -/
def element : (fuel : Nat) → List Token → Outcome (Element ε × List Token)
  | 0, _ => .error ⟨.noElement, false⟩
  | fuel + 1, .punct '<' _ :: rest => do
    let (tag, rest) ← ident rest
    let ((attributes, closed), rest) ← attributes expression rest
    if closed then
      return (.mk tag attributes [] true, rest)
    else
      let (children, rest) ← children fuel tag rest
      return (.mk tag attributes children false, rest)
  | _ + 1, _ => .error ⟨.missing "<", false⟩

/-- The children of an element, and its closing tag. -/
def children : (fuel : Nat) → (tag : Ident) → List Token →
    Outcome (List (Child ε) × List Token)
  | 0, _, _ => .error ⟨.noElement, false⟩
  | _ + 1, tag, .punct '<' _ :: .punct '/' _ :: rest => do
    let rest ← closing tag rest
    return ([], rest)
  | fuel + 1, tag, .punct '<' spacing :: rest => do
    let (first, rest) ← element fuel (.punct '<' spacing :: rest)
    let (later, rest) ← children fuel tag rest
    return (.element first :: later, rest)
  | fuel + 1, tag, .literal literal :: rest =>
    match literal.string? with
    | none => .error ⟨.noChild, false⟩
    | some text => do
      let (later, rest) ← children fuel tag rest
      return (.text text :: later, rest)
  | fuel + 1, tag, .group .brace content :: rest => do
    let first ← expression content
    let (later, rest) ← children fuel tag rest
    return (.expression first :: later, rest)
  | _ + 1, _, tokens => .error (.here .noChild tokens)

end

/-- Elements up to the end of the tokens. -/
def elements : (fuel : Nat) → List Token → Outcome (List (Element ε))
  | _, [] => .ok []
  | 0, _ :: _ => .error ⟨.noElement, false⟩
  | fuel + 1, token :: tokens => do
    let (first, rest) ← element expression (tokens.length + 2) (token :: tokens)
    let later ← elements fuel rest
    return first :: later

end Reading

end HtmlComponents.View
