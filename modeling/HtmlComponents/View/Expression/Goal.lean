/-!
# What can be asked for inside of an expression

The grammar of expressions is recursive, and its recursion runs over `Goal`: the
things that can lie in each other. What meets a goal answers with a `Shape`,
which says what the steps behind it need to know of the thing.
-/

namespace HtmlComponents.View.Expression

/-- How tightly an operator binds, from the loosest on. -/
inductive Precedence where
  | any
  | assign
  | range
  | or
  | and
  | letting
  | compare
  | bitOr
  | bitXor
  | bitAnd
  | shift
  | sum
  | product
  | cast
  deriving DecidableEq

/-- The place of a precedence in the order. -/
def Precedence.rank : Precedence → Nat
  | any => 0
  | assign => 1
  | range => 2
  | or => 3
  | and => 4
  | letting => 5
  | compare => 6
  | bitOr => 7
  | bitXor => 8
  | bitAnd => 9
  | shift => 10
  | sum => 11
  | product => 12
  | cast => 13

/-- What later steps need to know of a thing that was read. -/
inductive Shape where
  /-- Nothing. -/
  | plain
  /-- It has no form of its own, and is kept as it is written. -/
  | unformed
  /-- An expression that compares two operands. -/
  | comparison
  /-- An expression that is a range. -/
  | range
  /-- An expression that ends with a block and can stand as a statement. -/
  | block
  /-- A call of something in braces that can stand as a statement. -/
  | bracedCall
  /-- A type that is a single name, perhaps with arguments in angle brackets. -/
  | name
  /-- A type that is any other path. -/
  | path
  /-- A type that is a single bound, but no path. -/
  | bound
  /-- A type in parentheses. -/
  | parenthesized
  /-- A pattern that is a range without one of its ends. -/
  | openRange
  deriving DecidableEq

/-- What can be asked for inside of another thing. Where a brace could begin both
a structure and a block, `structs` says whether it may begin a structure. -/
inductive Goal where
  | expression (structs : Bool)
  | operand (structs : Bool)
  /-- The operators behind a left operand, as long as they bind tightly enough. -/
  | operators (left : Shape) (structs : Bool) (least : Precedence)
  /-- An expression that stands as a statement, or to the right in a match. -/
  | statementExpression
  /-- The statements of a block, up to the end of the tokens. -/
  | statements
  /-- A declaration. -/
  | item
  /-- A type. `several` says whether it may be several bounds. -/
  | type (several : Bool)
  /-- Arguments for types in angle brackets. -/
  | arguments
  /-- One pattern. -/
  | pattern
  /-- The named fields of a structure that is declared. -/
  | fields
  /-- What is made known by a path. `root` says whether it may begin at the root. -/
  | imports (root : Bool)

end HtmlComponents.View.Expression
