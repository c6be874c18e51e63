import HtmlComponents.Markup.Arena

/-!
# Reading a tree

The arena is the form in which a tree grows. The form in which it is read is an
ordinary tree, each node with its number and with its children below it. Reading
goes down from a node along the lists of children, and since a child's number is
greater than its parent's, no path is longer than the arena.

A walk reads no more than the numbers of the nodes in document order, and finds them
with a stack of nodes still to visit. A visited node puts its children on the stack in
front of everything that was waiting, so they come next and the first child comes first.
Each node of a tree is put on the stack once, by its parent, and so there are at most as
many visits as nodes. That number is the walk's budget.
-/

namespace HtmlComponents.Markup

/-- A node with everything below it. -/
inductive Tree where
  | node (id : NodeId) (data : NodeData) (children : List Tree)

/-- The tree below a node, as deep as `depth` levels. The answer has one member,
or none if the node is unknown. -/
def treesBelow (m : Markup) : (depth : Nat) → NodeId → List Tree
  | 0, _ => []
  | depth + 1, id =>
    match m.slot? id with
    | none => []
    | some slot => [.node id slot.data (slot.children.flatMap (treesBelow m depth))]

/-- The whole tree below a node; no member if the node is unknown. -/
def trees (m : Markup) (id : NodeId) : List Tree :=
  treesBelow m m.size id

namespace Tree

mutual

/-- The numbers of the nodes in document order. -/
def preorder : Tree → List NodeId
  | node id _ children => id :: preorderAll children

/-- The numbers of the nodes of several trees, one tree after the other. -/
def preorderAll : List Tree → List NodeId
  | [] => []
  | tree :: trees => tree.preorder ++ preorderAll trees

end

end Tree

/-! ## Walking -/

/-- Visit the nodes on the stack, first one first, for at most `budget` visits. -/
def walkStack (m : Markup) : (budget : Nat) → (stack : List NodeId) → List NodeId
  | _, [] => []
  | 0, _ :: _ => []
  | budget + 1, id :: waiting =>
    match m.slot? id with
    | none => walkStack m budget waiting
    | some slot => id :: walkStack m budget (slot.children ++ waiting)

/-- A node and everything below it, in document order. An unknown node has
nothing to show. -/
def walk (m : Markup) (start : NodeId) : List NodeId :=
  walkStack m (m.size + 1) [start]

end HtmlComponents.Markup
