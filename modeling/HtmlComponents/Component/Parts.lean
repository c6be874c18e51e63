import HtmlComponents.Component

/-!
# Small components

Ready-made components of every kind: leaves that draw one element, a leaf that
gives up, and composing components that bear a name, choose between two bodies
or count how often they were expanded.
-/

namespace HtmlComponents.Component

open HtmlComponents.Text

variable {κ σ : Type} [KeyFamily κ]

/-- A leaf that draws one element with the given attributes around its children. -/
def element (tag : String) (attributes : List Markup.Attribute)
    (children : List (Component κ σ)) : Component κ σ :=
  .custom "Element" fun env =>
    [.element tag (attributes.map fun a => .attribute a.name a.value)
      (children.map (.render env))]

/-- A leaf that draws one empty element from a table of attributes. -/
def emitting (tag : String) (fields : List Field) : Component κ σ :=
  .custom "Emit" fun _ => [.element tag [.emit fields] []]

/-- A leaf that gives up in the name of a component. -/
def failing (component message : String) : Component κ σ :=
  .custom "Failing" fun _ => [.fail (.component component message)]

/-- A component of the given name that stands for a fixed body. -/
def named (name : String) (body : Component κ σ) : Component κ σ :=
  .composing name Prod.mk (fun _ _ => body) fun _ state => state

/-- A component that derives an environment and then chooses its body by it. -/
def choosing (batch : Overrides κ) (test : Environment κ → Bool)
    (accepted rejected : Component κ σ) : Component κ σ :=
  .composing "Switch" (fun env state => (env.derive batch, state))
    (fun env _ => if test env then accepted else rejected) fun _ state => state

/-! ## Counters

The hidden state of counters is a number for each cell. A counter owns one cell,
and the copies of a counter share it. -/

/-- The numbers in the cells of counters. -/
abbrev Cells := Nat → Nat

/-- The cells that nobody has counted in. -/
def Cells.zero : Cells := fun _ => 0

/-- The cells after one more count in a cell. -/
def Cells.count (cells : Cells) (cell : Nat) : Cells := fun other =>
  if other = cell then cells other + 1 else cells other

/-- A component that writes how often it and its copies have been expanded. -/
def counter (cell : Nat) : Component κ Cells :=
  .composing "Counter" Prod.mk (fun _ cells => .text (toString (cells cell + 1)))
    fun _ cells => cells.count cell

end HtmlComponents.Component
