import HtmlComponents.Text.Printable

/-!
# Outlines of values

A value is shown in a log or an error as an outline on one line: records with
their field names, tagged values with their argument, lists in brackets and text
in quotes. Types say what their outline is; this module says how any outline is
written, so that no two of them can disagree on brackets or commas.

Text in quotes has every character replaced by an escape that could not be seen, or
that would end the quotation. A single quote stands as it is, since the quotation is
not closed by one.
-/

namespace HtmlComponents.Text.Quoted

/-- The lower-case hexadecimal digits of a code point, without leading zeros. -/
def hexadecimal (code : Nat) : List Char :=
  Nat.toDigits 16 code

/-- One character as it stands between the quotes. -/
def escape (c : Char) : List Char :=
  if c = '\x00' then ['\\', '0']
  else if c = '\t' then ['\\', 't']
  else if c = '\r' then ['\\', 'r']
  else if c = '\n' then ['\\', 'n']
  else if c = '"' ∨ c = '\\' then ['\\', c]
  else if isPrintable c then [c]
  else ['\\', 'u', '{'] ++ hexadecimal c.toNat ++ ['}']

/-- A string between double quotes. -/
def encode (text : String) : String :=
  String.ofList ('"' :: text.toList.flatMap escape ++ ['"'])

end HtmlComponents.Text.Quoted

namespace HtmlComponents.Text

/-- What is shown of a value. -/
inductive Outline where
  /-- A word that needs no quotes: a number, a truth value, a bare name. -/
  | word (text : String)
  /-- Text in quotes. -/
  | quoted (text : String)
  | list (items : List Outline)
  /-- A name applied to one argument. -/
  | tagged (name : String) (argument : Outline)
  /-- A name with named fields. -/
  | record (name : String) (fields : List (String × Outline))

namespace Outline

def ofNat (n : Nat) : Outline := .word (toString n)

def ofBool (b : Bool) : Outline := .word (if b then "true" else "false")

/-- An optional value shows which of the two it is. -/
def ofOption {α : Type} (outline : α → Outline) : Option α → Outline
  | none => .word "None"
  | some a => .tagged "Some" (outline a)

def ofText? (text? : Option String) : Outline := ofOption .quoted text?

def ofTexts (texts : List String) : Outline := .list (texts.map .quoted)

mutual

/-- The one line that shows the outline. A record without fields is its name alone. -/
def written : Outline → String
  | word text => text
  | quoted text => Quoted.encode text
  | list items => "[" ++ writtenItems items ++ "]"
  | tagged name argument => name ++ "(" ++ argument.written ++ ")"
  | record name [] => name
  | record name (field :: fields) =>
    name ++ " \x7b " ++ writtenFields (field :: fields) ++ " \x7d"

/-- The items of a list, with a comma and a space between two of them. -/
def writtenItems : List Outline → String
  | [] => ""
  | [item] => item.written
  | item :: next :: items => item.written ++ ", " ++ writtenItems (next :: items)

/-- The fields of a record, with a comma and a space between two of them. -/
def writtenFields : List (String × Outline) → String
  | [] => ""
  | [(name, value)] => name ++ ": " ++ value.written
  | (name, value) :: next :: fields =>
    name ++ ": " ++ value.written ++ ", " ++ writtenFields (next :: fields)

end

end Outline

end HtmlComponents.Text
