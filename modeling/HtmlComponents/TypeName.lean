import HtmlComponents.Text.Character

/-!
# Short names of types

A type's full name leads with a path, and what follows the path, type arguments
for instance, is not wanted in a heading. The short name is the last segment of
the leading path. A name that does not begin with a path at all, such as that of
a tuple or a reference, has no segment to take and stays whole.
-/

namespace HtmlComponents.TypeName

open HtmlComponents.Text

/-- Whether a character can stand in the path that a name leads with. -/
def isPathChar (c : Char) : Bool :=
  isAlphanumeric c || c = '_' || c = ':'

/-- What follows the last pair of colons, pairs being counted from the end. -/
def lastSegment (path : List Char) : List Char :=
  (go path.reverse).reverse
where
  /-- The characters, read backwards, in front of the first pair of colons. -/
  go : List Char → List Char
    | ':' :: ':' :: _ => []
    | [] => []
    | c :: rest => c :: go rest

/-- The last segment of the path that a full name leads with, or the full name if
it leads with none. -/
def short (full : String) : String :=
  let path := full.toList.takeWhile isPathChar
  if path.isEmpty then full else String.ofList (lastSegment path)

end HtmlComponents.TypeName
