import HtmlComponents.Text.Character
import HtmlComponents.Text.Outline
import HtmlComponents.View.Number
import HtmlComponents.View.Quotation
import HtmlComponents.View.Token

/-!
# From text to tokens

A text is cut into lexemes, and the lexemes are nested into tokens by their
brackets. White space and comments separate lexemes and vanish, except for the
comments that document something: such a comment is read as an attribute with
the comment's text.

A literal is tried before punctuation and punctuation before an identifier. That
order decides what a quote or a letter in front of a quote begins.
-/

namespace HtmlComponents.View

open HtmlComponents.Text

namespace Lexer

/-! ## Identifiers -/

/-- A name at the start of a text, and what is behind it. -/
def name? : List Char → Option (List Char × List Char)
  | [] => none
  | c :: rest =>
    if isIdentifierStart c then
      some (c :: rest.takeWhile isIdentifierPart, rest.dropWhile isIdentifierPart)
    else none

/-- The names that cannot be raw. -/
def neverRaw : List String := ["_", "super", "self", "Self", "crate"]

/-- An identifier, raw or plain, at the start of a text. -/
def ident? : List Char → Option (Ident × List Char)
  | 'r' :: '#' :: rest =>
    match name? rest with
    | none => none
    | some (name, behind) =>
      if neverRaw.contains (String.ofList name) then none
      else some (⟨true, String.ofList name⟩, behind)
  | text => (name? text).map fun (name, behind) => (.plain (String.ofList name), behind)

/-- How quotations begin. A text that begins like one of them is no identifier,
even if it is no literal either. -/
def quotationStarts : List (List Char) :=
  ["r\"", "r#\"", "r##", "b\"", "b'", "br\"", "br#", "c\"", "cr\"", "cr#"].map String.toList

/-! ## Literals -/

/-- What is behind a name that may follow a literal directly. -/
def afterSuffix (text : List Char) : List Char :=
  match name? text with
  | some (_, behind) => behind
  | none => text

/-- What is behind a number's suffix, if the number ends with it. -/
def afterNumber? (behind : List Char) : Option (List Char) :=
  let behind := afterSuffix behind
  if behind.head?.any isIdentifierPart then none else some behind

/-- A string, whose text is known. -/
def string? : List Char → Option (LiteralKind × List Char)
  | '"' :: rest => (Quotation.read .text .text rest).map quoted
  | 'r' :: rest => (Quotation.readHashed .text rest).map quoted
  | _ => none
where
  quoted : List Char × List Char → LiteralKind × List Char
    | (text, behind) => (.string (String.ofList text), behind)

/-- A byte string or a string that ends at the first 0. -/
def otherString? : List Char → Option (LiteralKind × List Char)
  | 'b' :: '"' :: rest =>
    (Quotation.read .bytes .text rest).map fun (_, behind) => (.byteString, behind)
  | 'b' :: 'r' :: rest =>
    (Quotation.readHashed .bytes rest).map fun (_, behind) => (.byteString, behind)
  | 'c' :: '"' :: rest =>
    (Quotation.read .zeroEnded .text rest).map fun (_, behind) => (.zeroEndedString, behind)
  | 'c' :: 'r' :: rest =>
    (Quotation.readHashed .zeroEnded rest).map fun (_, behind) => (.zeroEndedString, behind)
  | _ => none

/-- A byte or a character. -/
def character? : List Char → Option (LiteralKind × List Char)
  | 'b' :: rest => (Quotation.afterCharacter? .bytes rest).map fun behind => (.byte, behind)
  | rest => (Quotation.afterCharacter? .text rest).map fun behind => (.character, behind)

/-- A number with its suffix. -/
def number? (text : List Char) : Option (LiteralKind × List Char) :=
  let decimal? := ((Number.afterDecimal? text).bind afterNumber?).map fun behind =>
    (LiteralKind.decimal, behind)
  let integer? := ((Number.integer? text).bind fun (_, _, behind) => afterNumber? behind).map
    fun behind => (LiteralKind.integer, behind)
  decimal?.or integer?

/-- A literal at the start of a text. -/
def literal? (text : List Char) : Option (Literal × List Char) :=
  let quotation? := (string? text).or ((otherString? text).or (character? text))
  let found? := (quotation?.map fun (kind, behind) => (kind, afterSuffix behind)).or (number? text)
  found?.map fun (kind, behind) =>
    (⟨String.ofList (text.take (text.length - behind.length)), kind⟩, behind)

/-! ## Punctuation -/

/-- The characters of punctuation. -/
def symbols : List Char := "~!@#$%^&*-=+|;:,<.>/?'".toList

/-- Whether a text begins with a comment. -/
def beginsComment : List Char → Bool
  | '/' :: '/' :: _ | '/' :: '*' :: _ => true
  | _ => false

/-- A character of punctuation at the start of a text. -/
def symbol? : List Char → Option (Char × List Char)
  | [] => none
  | c :: rest => if symbols.contains c && !beginsComment (c :: rest) then some (c, rest) else none

/-- Whether a single quote in front of a text begins a lifetime: a name that
neither a quote nor a hash follows. -/
def beginsLifetime (text : List Char) : Bool :=
  match ident? text with
  | none => false
  | some (ident, behind) =>
    behind.head? ≠ some '\'' && (behind.head? ≠ some '#' || ident.raw)

/-- Punctuation at the start of a text. -/
def punct? (text : List Char) : Option (Token × List Char) :=
  match symbol? text with
  | none => none
  | some ('\'', rest) => if beginsLifetime rest then some (.punct '\'' .joint, rest) else none
  | some (c, rest) =>
    some (.punct c (if (symbol? rest).isSome then .joint else .alone), rest)

/-! ## Gaps -/

/-- Whether a character separates tokens: white space, and the two marks of the
direction of writing. -/
def isGap (c : Char) : Bool := isBlank c || c = '\u200e' || c = '\u200f'

/-- The rest of a line, and what is behind it. A carriage return in front of the
line feed belongs to neither. -/
def line : List Char → List Char × List Char
  | [] => ([], [])
  | '\n' :: rest => ([], '\n' :: rest)
  | '\r' :: '\n' :: rest => ([], '\n' :: rest)
  | c :: rest =>
    let (text, behind) := line rest
    (c :: text, behind)

/-- The text of a comment that stars and slashes end, read from inside it, and
what is behind it. Comments nest, and `depth` of them are open. -/
def block? : (depth : Nat) → List Char → Option (List Char × List Char)
  | _, [] => none
  | depth, '/' :: '*' :: rest =>
    (block? (depth + 1) rest).map fun (text, behind) => ('/' :: '*' :: text, behind)
  | 0, '*' :: '/' :: rest => some ([], rest)
  | depth + 1, '*' :: '/' :: rest =>
    (block? depth rest).map fun (text, behind) => ('*' :: '/' :: text, behind)
  | depth, c :: rest => (block? depth rest).map fun (text, behind) => (c :: text, behind)

/-- What is behind a comment that documents nothing, or `none` if the text does
not begin with one that is complete. -/
def afterComment? : List Char → Option (List Char)
  | '/' :: '/' :: '!' :: _ => none
  | '/' :: '/' :: '/' :: '/' :: rest => some (line rest).2
  | '/' :: '/' :: '/' :: _ => none
  | '/' :: '/' :: rest => some (line rest).2
  | '/' :: '*' :: '*' :: '/' :: rest => some rest
  | '/' :: '*' :: '!' :: _ => none
  | '/' :: '*' :: '*' :: '*' :: rest =>
    (block? 0 ('*' :: '*' :: rest)).map Prod.snd
  | '/' :: '*' :: '*' :: _ => none
  | '/' :: '*' :: rest => (block? 0 rest).map Prod.snd
  | _ => none

/-- What is behind the gap at the start of a text, with fuel for its length. -/
def afterGap : (fuel : Nat) → List Char → List Char
  | 0, text => text
  | fuel + 1, text =>
    match afterComment? text with
    | some rest => afterGap fuel rest
    | none =>
      match text with
      | [] => []
      | c :: rest => if isGap c then afterGap fuel rest else c :: rest

/-! ## Comments that document -/

/-- Whether every carriage return of a text has a line feed behind it. -/
def wholeLineEnds : List Char → Bool
  | [] => true
  | c :: rest => (c ≠ '\r' || rest.head? = some '\n') && wholeLineEnds rest

/-- A text as it is quoted. The escape of the character 0 is spelled out in front
of an octal digit, so that the two are not taken for one number. -/
def quotedText : List Char → List Char
  | [] => []
  | c :: rest =>
    let octal := rest.head?.any fun d => '0' ≤ d && d ≤ '7'
    (if c = '\x00' && octal then "\\x00".toList else Quoted.escape c) ++ quotedText rest

/-- The attribute that a comment is read as. An inner one has a bang. -/
def documentation (inner : Bool) (text : List Char) : List Token :=
  let quoted := String.ofList ('"' :: quotedText text ++ ['"'])
  [.punct '#' .alone] ++ (if inner then [.punct '!' .alone] else []) ++
    [.group .bracket [.word "doc", .punct '=' .alone,
      .literal ⟨quoted, .string (String.ofList text)⟩]]

/-- The text of a comment that documents, whether it is an inner one, and what is
behind it. -/
def documenting? : List Char → Option (Bool × List Char × List Char)
  | '/' :: '/' :: '!' :: rest => some (true, line rest)
  | '/' :: '*' :: '!' :: rest => (block? 0 rest).map fun found => (true, found)
  | '/' :: '/' :: '/' :: '/' :: _ => none
  | '/' :: '/' :: '/' :: rest => some (false, line rest)
  | '/' :: '*' :: '*' :: '*' :: _ => none
  | '/' :: '*' :: '*' :: rest => (block? 0 rest).map fun found => (false, found)
  | _ => none

/-! ## Lexemes -/

/-- What a text is cut into. -/
inductive Lexeme where
  | opening (delimiter : Delimiter)
  | closing (delimiter : Delimiter)
  | tokens (tokens : List Token)

/-- The text that stands for an expression that could not be shown. -/
def placeholder : List Char := "(/*ERROR*/)".toList

/-- The bracket that a character is. -/
def bracket? : Char → Option Lexeme
  | '(' => some (.opening .parenthesis)
  | '[' => some (.opening .bracket)
  | '{' => some (.opening .brace)
  | ')' => some (.closing .parenthesis)
  | ']' => some (.closing .bracket)
  | '}' => some (.closing .brace)
  | _ => none

/-- A token that is no group, at the start of a text. -/
def leaf? (text : List Char) : Option (Token × List Char) :=
  match literal? text with
  | some (literal, behind) => some (.literal literal, behind)
  | none =>
    match punct? text with
    | some found => some found
    | none =>
      if quotationStarts.any fun start => start.isPrefixOf text then none
      else (ident? text).map fun (ident, behind) => (.ident ident, behind)

/-- The lexeme at the start of a text, and what is behind it. -/
def lexeme? (text : List Char) : Option (Lexeme × List Char) :=
  let documented? := (documenting? text).filter fun (_, comment, _) => wholeLineEnds comment
  match documented? with
  | some (inner, comment, behind) => some (.tokens (documentation inner comment), behind)
  | none =>
    if placeholder.isPrefixOf text then
      some (.tokens [.literal ⟨String.ofList placeholder, .placeholder⟩],
        text.drop placeholder.length)
    else
      match (text.head?.bind bracket?), text with
      | some bracket, _ :: behind => some (bracket, behind)
      | _, _ => (leaf? text).map fun (token, behind) => (.tokens [token], behind)

/-- The lexemes of a text, with fuel for its length. -/
def lexemes? : (fuel : Nat) → List Char → Option (List Lexeme)
  | 0, _ => none
  | fuel + 1, text =>
    match afterGap (text.length + 1) text with
    | [] => some []
    | c :: rest =>
      match lexeme? (c :: rest) with
      | none => none
      | some (lexeme, behind) => (lexemes? fuel behind).map (lexeme :: ·)

/-! ## Nesting -/

/-- The groups that are open around a place: their brackets, and the tokens that
stand in front of each, in reverse. -/
abbrev Open := List (Delimiter × List Token)

/-- The tokens of a row of lexemes. `front` holds the tokens of the innermost open
group so far, in reverse. -/
def nest? : Open → (front : List Token) → List Lexeme → Option (List Token)
  | [], front, [] => some front.reverse
  | _ :: _, _, [] => none
  | outer, front, .tokens tokens :: rest => nest? outer (tokens.reverse ++ front) rest
  | outer, front, .opening delimiter :: rest => nest? ((delimiter, front) :: outer) [] rest
  | [], _, .closing _ :: _ => none
  | (opened, before) :: outer, front, .closing delimiter :: rest =>
    if opened = delimiter then nest? outer (.group delimiter front.reverse :: before) rest
    else none

/-- The text behind the mark that a file may begin with. -/
def afterMark : List Char → List Char
  | '\ufeff' :: rest => rest
  | text => text

/-- The tokens of a text, if it can be cut into tokens and its brackets balance. -/
def tokens? (text : String) : Option (List Token) :=
  let chars := afterMark text.toList
  (lexemes? (chars.length + 1) chars).bind (nest? [] [])

end Lexer

end HtmlComponents.View
