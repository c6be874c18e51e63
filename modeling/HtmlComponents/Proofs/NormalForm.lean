import HtmlComponents.Proofs.Shape

/-!
# Normal forms of shapes

Two things about the text of a tree cannot be seen in the tree's HTML: an empty
text, and where one text ends and the next begins. A normal form has neither. It
drops empty texts and runs texts that stand side by side into one, at every level,
and keeps everything else. Writing does not notice the difference
(`htmlAll_normalAll`); that nothing more is lost is shown where HTML is read.

`Writable` are the shapes of which reading makes sense, and which well-formed
arenas have: names are names, and what is never written is not there.
-/

namespace HtmlComponents.Markup

open HtmlComponents.Text

namespace Shape

/-- A text in front of shapes. It joins a text that comes first, and without any
characters it leaves no trace. -/
def prependText (content : String) : List Shape → List Shape
  | node (.text next) below :: rest => node (.text (content ++ next)) below :: rest
  | rest => if content = "" then rest else node (.text content) [] :: rest

/-- A shape in front of shapes, with texts run together. -/
def prepend : Shape → List Shape → List Shape
  | node (.text content) _, rest => prependText content rest
  | shape, rest => shape :: rest

mutual

/-- The shape without empty texts and without neighbouring texts below it. -/
def normal : Shape → Shape
  | node data children => node data (normalAll children)

def normalAll : List Shape → List Shape
  | [] => []
  | shape :: shapes => prepend shape.normal (normalAll shapes)

end

/-! ## Writing does not notice -/

theorem html_text (style : VoidStyle) (content : String) (below : List Shape) :
    (node (.text content) below).html style = escapeText content := by
  rw [html]

theorem escapeText_append (front back : String) :
    escapeText (front ++ back) = escapeText front ++ escapeText back := by
  rw [escapeText, String.toList_append, List.flatMap_append]
  rfl

theorem htmlAll_prependText (style : VoidStyle) (content : String) (rest : List Shape) :
    htmlAll style (prependText content rest) = escapeText content ++ htmlAll style rest := by
  unfold prependText
  split
  · rw [htmlAll, htmlAll, html_text, html_text, escapeText_append, List.append_assoc]
  · split
    · next hempty => rw [hempty]; rfl
    · rw [htmlAll, html_text]

theorem htmlAll_prepend (style : VoidStyle) (shape : Shape) (rest : List Shape) :
    htmlAll style (prepend shape rest) = shape.html style ++ htmlAll style rest := by
  unfold prepend
  split
  · rw [htmlAll_prependText, html_text]
  · rw [htmlAll]

mutual

theorem html_normal (style : VoidStyle) :
    (shape : Shape) → shape.normal.html style = shape.html style
  | .node .document children => by
      rw [normal, html, html, htmlAll_normalAll style children]
  | .node (.text _) _ => by rw [normal, html_text, html_text]
  | .node (.element _) children => by
      rw [normal, html, html, htmlAll_normalAll style children]

theorem htmlAll_normalAll (style : VoidStyle) :
    (shapes : List Shape) → htmlAll style (normalAll shapes) = htmlAll style shapes
  | [] => rfl
  | shape :: shapes => by
      rw [normalAll, htmlAll_prepend, htmlAll, html_normal style shape,
        htmlAll_normalAll style shapes]

end

/-! ## Shapes that can be written and read -/

/-- Names are names, texts and void elements have nothing below them, and there is
no document inside. -/
inductive Writable : Shape → Prop where
  | text (content : String) : Writable (node (.text content) [])
  | element {e : ElementData} {children : List Shape} (htag : isName e.tag = true)
      (hattributes : ∀ a ∈ e.attributes, isName a.name = true)
      (hvoid : isVoid e.tag = true → children = [])
      (hchildren : ∀ shape ∈ children, Writable shape) :
      Writable (node (.element e) children)

end Shape

theorem WellFormed.writable_of_mem_shapes {m : Markup} (hm : m.WellFormed) :
    ∀ id, id ≠ root → ∀ shape ∈ m.shapes id, shape.Writable := by
  intro id
  induction id using hm.induction_down with
  | h id ih =>
      intro hid shape hshape
      have hbelow : ∀ below ∈ m.forest id, below.Writable := by
        intro below hmem
        obtain ⟨child, hchild, hmem⟩ := List.mem_flatMap.mp hmem
        refine ih child hchild ?_ below hmem
        rintro rfl
        have hparent := hm.mem_children_iff.mp hchild
        rw [hm.parent?_root] at hparent
        cases hparent
      have hchildless : ∀ data, m.get? id = some data → data.isContainer = false →
          m.forest id = [] := by
        intro data hget hdata
        rw [forest, hm.children_eq_nil_of_isContainer_eq_false hget hdata, List.flatMap_nil]
      rcases hget : m.get? id with _ | data
      · rw [shapes_of_not_contains (get?_eq_none_iff.mp hget)] at hshape
        cases hshape
      · rw [hm.shapes_of_get? hget, List.mem_singleton] at hshape
        rw [hshape]
        cases data with
        | document => exact absurd (hm.eq_root hget) hid
        | text content =>
            rw [hchildless _ hget rfl]
            exact .text content
        | element e =>
            have hvalid := hm.valid hget
            refine .element hvalid.isName_tag hvalid.isName_attribute ?_ hbelow
            intro hvoid
            exact hchildless _ hget (by simp [NodeData.isContainer, hvoid])

/-- What stands below the root of a well-formed arena can be written and read. -/
theorem WellFormed.writable_forest {m : Markup} (hm : m.WellFormed) :
    ∀ shape ∈ m.forest root, shape.Writable := by
  intro shape hshape
  obtain ⟨child, hchild, hmem⟩ := List.mem_flatMap.mp hshape
  refine hm.writable_of_mem_shapes child ?_ shape hmem
  rintro rfl
  have hlt := hm.number_lt hchild
  exact absurd hlt (Nat.lt_irrefl _)

/-- The ordered tree below the root, without empty texts and with neighbouring
texts run together. -/
def normalForm (m : Markup) : List Shape := Shape.normalAll (m.forest root)

end HtmlComponents.Markup
