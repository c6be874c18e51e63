/-!
# Quotations

The insides of string, byte string and character literals, and the texts that
they denote. In a quotation with escapes a backslash begins a character that is
described rather than written, and a backslash at the end of a line swallows the
blank space up to the next character. In a raw quotation every character stands
for itself, and the quotation ends at a quote with as many hashes behind it as
stood in front of it.

A line in a quotation may end with a line feed, or with a carriage return and a
line feed; a carriage return by itself is refused. With escapes both ends denote
a line feed.

Reading goes character by character through the states of `Quotation.State`, and
what a quotation may hold depends on its kind alone.
-/

namespace HtmlComponents.View.Quotation

/-- What may stand in a quotation. -/
structure Kind where
  /-- Characters beyond ASCII, and escapes by code point. -/
  wide : Bool
  /-- The character with the code 0. -/
  zero : Bool
  /-- Escapes by a hexadecimal number of two digits that is beyond ASCII. -/
  highBytes : Bool

/-- Strings and characters. -/
def Kind.text : Kind := ⟨true, true, false⟩

/-- Byte strings and bytes. -/
def Kind.bytes : Kind := ⟨false, true, true⟩

/-- Strings that end at the first 0. -/
def Kind.zeroEnded : Kind := ⟨true, false, true⟩

/-- Whether a character may stand for itself. -/
def Kind.allows (kind : Kind) (c : Char) : Bool :=
  (kind.wide || c.toNat < 128) && (kind.zero || c ≠ '\x00')

/-- The value of a hexadecimal digit. -/
def hexDigit? (c : Char) : Option Nat :=
  if '0' ≤ c && c ≤ '9' then some (c.toNat - '0'.toNat)
  else if 'a' ≤ c && c ≤ 'f' then some (10 + c.toNat - 'a'.toNat)
  else if 'A' ≤ c && c ≤ 'F' then some (10 + c.toNat - 'A'.toNat)
  else none

/-- The character with a code, if there is one that the quotation may hold. -/
def Kind.decoded? (kind : Kind) (code : Nat) : Option Char :=
  if code = 0 && !kind.zero then none
  else if code < 0xd800 || (0xdfff < code && code < 0x110000) then some (Char.ofNat code)
  else none

/-- How far an escape has been read. -/
inductive State where
  /-- Outside of escapes. -/
  | text
  /-- Behind a carriage return. -/
  | lineEnd
  /-- Behind a backslash. -/
  | escape
  /-- In front of the two digits of a hexadecimal escape. -/
  | firstDigit
  | secondDigit (first : Nat)
  /-- In front of the brace of an escape by code point. -/
  | brace
  /-- Inside the braces, with the number of digits and their value. -/
  | codePoint (digits value : Nat)
  /-- In the blank space behind a backslash at the end of a line. -/
  | continuation
  /-- Behind a carriage return in that blank space. -/
  | continuationEnd
  deriving DecidableEq

/-- What a character does to a quotation. -/
inductive Step where
  | next (state : State)
  /-- A character of the text is complete. -/
  | denotes (c : Char)
  | close
  deriving DecidableEq

/-- A character outside of escapes. -/
def textStep (kind : Kind) (c : Char) : Option Step :=
  if c = '"' then some .close
  else if c = '\r' then some (.next .lineEnd)
  else if c = '\\' then some (.next .escape)
  else if kind.allows c then some (.denotes c)
  else none

/-- The character behind a backslash. -/
def escapeStep (kind : Kind) (c : Char) : Option Step :=
  match c with
  | 'n' => some (.denotes '\n')
  | 'r' => some (.denotes '\r')
  | 't' => some (.denotes '\t')
  | '\\' | '\'' | '"' => some (.denotes c)
  | '0' => if kind.zero then some (.denotes '\x00') else none
  | 'x' => some (.next .firstDigit)
  | 'u' => if kind.wide then some (.next .brace) else none
  | '\n' => some (.next .continuation)
  | '\r' => some (.next .continuationEnd)
  | _ => none

/-- A character inside the braces of an escape by code point. There are at most
six digits, and underscores between and behind them. -/
def codePointStep (kind : Kind) (digits value : Nat) (c : Char) : Option Step :=
  if c = '_' && 0 < digits then some (.next (.codePoint digits value))
  else if c = '}' && 0 < digits then (kind.decoded? value).map .denotes
  else
    match hexDigit? c with
    | none => none
    | some digit =>
      if digits < 6 then some (.next (.codePoint (digits + 1) (16 * value + digit))) else none

/-- What the next character of a quotation does. -/
def step (kind : Kind) : State → Char → Option Step
  | .text, c => textStep kind c
  | .lineEnd, c => if c = '\n' then some (.denotes '\n') else none
  | .escape, c => escapeStep kind c
  | .firstDigit, c =>
    match hexDigit? c with
    | none => none
    | some digit =>
      if digit < 8 || kind.highBytes then some (.next (.secondDigit digit)) else none
  | .secondDigit first, c =>
    match hexDigit? c with
    | none => none
    | some digit => (kind.decoded? (16 * first + digit)).map .denotes
  | .brace, c => if c = '{' then some (.next (.codePoint 0 0)) else none
  | .codePoint digits value, c => codePointStep kind digits value c
  | .continuation, c =>
    if c = ' ' || c = '\t' || c = '\n' then some (.next .continuation)
    else if c = '\r' then some (.next .continuationEnd)
    else textStep kind c
  | .continuationEnd, c => if c = '\n' then some (.next .continuation) else none

/-- The text that a quotation denotes up to its closing quote, and what is behind
the quote. -/
def read (kind : Kind) : State → List Char → Option (List Char × List Char)
  | _, [] => none
  | state, c :: rest =>
    match step kind state c with
    | none => none
    | some .close => some ([], rest)
    | some (.next state) => read kind state rest
    | some (.denotes d) =>
      (read kind .text rest).map fun (text, behind) => (d :: text, behind)

/-- What is behind an escape of one character, read from behind its backslash. An
end of line is no character. -/
def afterEscape? (kind : Kind) : State → List Char → Option (List Char)
  | _, [] => none
  | state, c :: rest =>
    match step kind state c with
    | some (.denotes _) => some rest
    | some (.next .continuation) | some (.next .continuationEnd) => none
    | some (.next state) => afterEscape? kind state rest
    | some .close | none => none

/-- What is behind a single quote, one character or escape, and a single quote. -/
def afterCharacter? (kind : Kind) : List Char → Option (List Char)
  | '\'' :: '\\' :: rest => (afterEscape? kind .escape rest).bind closed?
  | '\'' :: c :: rest => if kind.allows c then closed? rest else none
  | _ => none
where
  closed? : List Char → Option (List Char)
    | '\'' :: behind => some behind
    | _ => none

/-- The text of a raw quotation up to its closing quote, and what is behind the
hashes that follow it. -/
def readRaw (kind : Kind) (hashes : List Char) : List Char → Option (List Char × List Char)
  | [] => none
  | c :: rest =>
    if c = '"' && hashes.isPrefixOf rest then some ([], rest.drop hashes.length)
    else if c = '\r' && rest.head? ≠ some '\n' then none
    else if kind.allows c then
      (readRaw kind hashes rest).map fun (text, behind) => (c :: text, behind)
    else none

/-- The most hashes that a raw quotation may begin with. -/
def hashLimit : Nat := 255

/-- A raw quotation from its hashes on. -/
def readHashed (kind : Kind) (text : List Char) : Option (List Char × List Char) :=
  let hashes := text.takeWhile fun c => c = '#'
  match text.drop hashes.length with
  | '"' :: inside => if hashes.length ≤ hashLimit then readRaw kind hashes inside else none
  | _ => none

end HtmlComponents.View.Quotation
