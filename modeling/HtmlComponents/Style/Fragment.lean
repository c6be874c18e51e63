import HtmlComponents.Text.Outline
import HtmlComponents.TypeName

/-!
# Fragments of a stylesheet

A fragment is the styles that one component brings along, under the name by which the
stylesheet announces them.

A stylesheet begins with a base, goes on with a banner, and then has the fragments of
the components in their order, each announced by a comment. Nothing is merged: a
fragment that comes twice is written twice, and one without styles is announced all the
same.
-/

namespace HtmlComponents.Style

open HtmlComponents.Text

/-- The styles of one component. -/
structure Fragment where
  name : String
  css : String
  deriving DecidableEq

/-- A type of components that bring styles along. Unless it says otherwise, they
are announced under the short name of the type. -/
class Styled (α : Type) where
  /-- The full name of the type. -/
  typeName : String
  css : α → String
  displayName : α → String := fun _ => TypeName.short typeName

namespace Fragment

/-- The styles of a component. -/
def ofStyled {α : Type} [Styled α] (component : α) : Fragment :=
  ⟨Styled.displayName component, Styled.css component⟩

/-- Styles under the short name of a type. -/
def ofType (typeName css : String) : Fragment := ⟨TypeName.short typeName, css⟩

def outline (fragment : Fragment) : Outline :=
  .record "StyledInstance" [("name", .quoted fragment.name), ("css", .quoted fragment.css)]

end Fragment

/-- The line between the base and the fragments, unless another one is chosen. -/
def defaultBanner : String := "/* Component-specific styles */"

/-- A fragment in a stylesheet, with the comment that announces it. -/
def Fragment.announced (fragment : Fragment) : String :=
  "/* " ++ fragment.name ++ " */\n" ++ fragment.css ++ "\n\n"

/-- The text of a stylesheet. -/
def combine (base banner : String) (fragments : List Fragment) : String :=
  base ++ "\n\n" ++ banner ++ "\n" ++ String.join (fragments.map Fragment.announced)

end HtmlComponents.Style
