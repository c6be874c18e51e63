import HtmlComponents.Text.Identifier

/-!
# Numbers

Where a number ends. An integer is written in one of four bases. A decimal number
has a point or an exponent, but a point that is followed by another point or by a
name is not the number's: `1..2` is a range and `1.max` a call. If an exponent
turns out to have no digits, the number ends in front of it, provided that it is
a decimal number without it.
-/

namespace HtmlComponents.View.Number

open HtmlComponents.Text

def isDigit (c : Char) : Bool := '0' ≤ c && c ≤ '9'

/-! ## Integers -/

/-- The base that the start of an integer announces, and what is behind that. -/
def base : List Char → Nat × List Char
  | '0' :: 'x' :: rest => (16, rest)
  | '0' :: 'o' :: rest => (8, rest)
  | '0' :: 'b' :: rest => (2, rest)
  | text => (10, text)

/-- The value of a letter that is a digit in the base. -/
def letter? (base : Nat) (c : Char) : Option Nat :=
  let value? :=
    if 'a' ≤ c && c ≤ 'f' then some (10 + c.toNat - 'a'.toNat)
    else if 'A' ≤ c && c ≤ 'F' then some (10 + c.toNat - 'A'.toNat)
    else none
  value?.filter (· < base)

/-- The digits of an integer, and what is behind them. Underscores between digits
are skipped. A figure that the base does not have makes the integer wrong rather
than end it. -/
def digits? (base : Nat) : List Char → Option (List Nat × List Char)
  | [] => some ([], [])
  | c :: rest =>
    if c = '_' then digits? base rest
    else if isDigit c then
      let digit := c.toNat - '0'.toNat
      if digit < base then
        (digits? base rest).map fun (digits, behind) => (digit :: digits, behind)
      else none
    else
      match letter? base c with
      | some digit => (digits? base rest).map fun (digits, behind) => (digit :: digits, behind)
      | none => some ([], c :: rest)

/-- The digits of an integer with their base, and what is behind them. There is a
digit, and in base ten it comes first. -/
def integer? (text : List Char) : Option (Nat × List Nat × List Char) :=
  let (base, rest) := base text
  if base = 10 && rest.head? = some '_' then none
  else
    match digits? base rest with
    | some (digit :: digits, behind) => some (base, digit :: digits, behind)
    | some ([], _) | none => none

/-- The number that digits denote. -/
def ofDigits (base : Nat) (digits : List Nat) : Nat :=
  digits.foldl (fun value digit => base * value + digit) 0

/-! ## Decimal numbers -/

/-- What is behind digits and underscores. -/
def afterDigits (text : List Char) : List Char :=
  text.dropWhile fun c => isDigit c || c = '_'

/-- What is behind the digits of an exponent, if there are any. -/
def afterExponent? (text : List Char) : Option (List Char) :=
  let unsigned (rest : List Char) : Option (List Char) :=
    if (rest.takeWhile fun c => isDigit c || c = '_').any isDigit then some (afterDigits rest)
    else none
  match text.dropWhile fun c => c = '_' with
  | '+' :: rest | '-' :: rest => unsigned rest
  | rest => unsigned rest

/-- What is behind the exponent of a number, or `without` if it has none. -/
def afterExponentOr (without : Option (List Char)) : List Char → Option (List Char)
  | 'e' :: rest | 'E' :: rest => (afterExponent? rest).or without
  | _ => without

/-- Whether a point belongs to what is behind it. -/
def isTaken : List Char → Bool
  | c :: _ => c = '.' || isIdentifierStart c
  | [] => false

/-- What is behind a decimal number. -/
def afterDecimal? (text : List Char) : Option (List Char) :=
  if !(text.head?.any isDigit) then none
  else
    match afterDigits text with
    | '.' :: rest =>
      if isTaken rest then none
      else afterExponentOr (some (afterDigits rest)) (afterDigits rest)
    | rest => afterExponentOr none rest

end HtmlComponents.View.Number
