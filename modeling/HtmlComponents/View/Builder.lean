import HtmlComponents.View.Element

/-!
# Builder code for a view

A view stands for a program that builds its components: every element becomes a
constructor call, and every attribute and child a call on what was built so far.
An attribute with a value calls the setter that is named after it, and a child is
added in the same way. One attribute is different: the content of an element is
its constructor's argument.

How an expression is written as tokens is a parameter.
-/

namespace HtmlComponents.View

namespace Builder

/-- The separator of a path. -/
def pathSeparator : List Token := Token.symbol [':', ':']

/-- A path of names. -/
def path : List Ident → List Token
  | [] => []
  | [name] => [.ident name]
  | name :: next :: names => .ident name :: pathSeparator ++ path (next :: names)

/-- A path of plain names. -/
def plainPath (names : List String) : List Token := path (names.map .plain)

/-- A group in parentheses. -/
def parenthesized (content : List Token) : Token := .group .parenthesis content

/-- A call of a method on what stands in front of it. -/
def call (method : String) (argument : List Token) : List Token :=
  [.punct '.' .alone, .word method, parenthesized argument]

/-- The constructor of an element. -/
def constructor (tag : Ident) (argument : List Token) : List Token :=
  path [.plain "gilt_html", .plain "elements", tag, .plain "new"] ++ [parenthesized argument]

/-- The literal of a truth value. -/
def truth (value : Bool) : Token := .word (if value then "true" else "false")

/-- The name of the attributes that can be an argument of the constructor. -/
def contentName : Ident := .plain "content"

variable {ε : Type} (tokens : ε → List Token)

/-- The argument that an attribute is for the constructor, if it can be one. -/
def argument? (a : Attribute ε) : Option (List Token) :=
  if a.name = contentName then
    match a.value with
    | .text literal => some [literal.token]
    | .expression e => some (tokens e)
    | .truth _ | .flag => none
  else none

/-- The call that an attribute becomes. A raw name calls the same method as a
plain one. -/
def attributeCall (a : Attribute ε) : List Token :=
  match a.value with
  | .text literal => call ("with_" ++ a.name.name) [literal.token]
  | .expression e => call ("with_" ++ a.name.name) (tokens e)
  | .truth value => call a.name.name [truth value]
  | .flag => call a.name.name [truth true]

/-- The attributes that become calls. If one is the constructor's argument, all
that bear its name are left out. -/
def calledAttributes (attributes : List (Attribute ε)) : List (Attribute ε) :=
  if (attributes.findSome? (argument? tokens)).isSome then
    attributes.filter fun a => a.name ≠ contentName
  else attributes

mutual

/-- The code that builds an element. -/
def element : Element ε → List Token
  | .mk tag attributes children _ =>
    constructor tag ((attributes.findSome? (argument? tokens)).getD []) ++
      (calledAttributes tokens attributes).flatMap (attributeCall tokens) ++
      childCalls children

/-- The code that builds a child. -/
def child : Child ε → List Token
  | .element e => element e
  | .text literal => constructor (.plain "Text") [literal.token]
  | .expression e => tokens e

/-- The calls that add children. -/
def childCalls : List (Child ε) → List Token
  | [] => []
  | c :: cs => call "with_child" (child c) ++ childCalls cs

end

/-- The code that makes a component of an element. -/
def component (e : Element ε) : List Token :=
  plainPath ["gilt_html", "component", "Component", "from"] ++ [parenthesized (element tokens e)]

/-- Rows of tokens with commas between them. -/
def separated : List (List Token) → List Token
  | [] => []
  | [row] => row
  | row :: next :: rows => row ++ .punct ',' .alone :: separated (next :: rows)

/-- The code for several components, which make a group. -/
def group (components : List (List Token)) : List Token :=
  plainPath ["gilt_html", "component", "Component", "group"] ++
    [parenthesized
      (pathSeparator ++ plainPath ["std", "vec"] ++
        [.punct '!' .alone, .group .bracket (separated components)])]

/-- The code for a view, unless the view is empty. -/
def view? : List (Element ε) → Option (List Token)
  | [] => none
  | [e] => some (component tokens e)
  | e :: next :: es => some (group ((e :: next :: es).map (component tokens)))

end Builder

end HtmlComponents.View
