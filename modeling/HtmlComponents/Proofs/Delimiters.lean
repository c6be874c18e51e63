import HtmlComponents.Proofs.Listing
import HtmlComponents.Proofs.Reading
import Mathlib.Algebra.BigOperators.Ring.List
import Mathlib.Algebra.Ring.Nat

/-!
# Delimiters are the tree's own

Angle brackets and double quotes in the HTML of a tree come from its elements and
attributes, and what texts and values say adds and removes none: the counts are those
of the tree. Only a double quote in a text is written as it is.

The nodes of the arena are counted, while HTML is written by going down from the root.
The two meet in `htmlAll_perm`: what is written below a node is, in another order, what
each of the nodes listed with it writes of its own. Then the characters of one node are
counted. A name holds no delimiter because it is a name, an escaped text no angle
bracket, and an escaped value no delimiter at all.
-/

namespace HtmlComponents.Markup

open HtmlComponents.Text

/-- What a node writes itself, without what is below it. -/
def NodeData.ownHtml (style : VoidStyle) : NodeData → List Char
  | document => []
  | text content => escapeText content
  | element e =>
    if isVoid e.tag then e.opening ++ style.terminator
    else e.opening ++ ['>'] ++ closing e.tag

/-- Writing goes through the same nodes as listing, and void elements and texts, below
which it does not look, have nothing below them. -/
theorem WellFormed.htmlAll_perm {m : Markup} (hm : m.WellFormed) (style : VoidStyle)
    (id : NodeId) :
    (Shape.htmlAll style (m.shapes id)).Perm
      (((m.listing id).filterMap m.get?).flatMap (NodeData.ownHtml style)) := by
  induction id using hm.induction_down with
  | h id ih =>
      rcases hget : m.get? id with _ | data
      · have hid := get?_eq_none_iff.mp hget
        rw [shapes_of_not_contains hid, listing_of_not_contains hid]
        exact List.Perm.refl _
      · have hbelow : (Shape.htmlAll style (m.forest id)).Perm
            ((((m.children id).flatMap m.listing).filterMap m.get?).flatMap
              (NodeData.ownHtml style)) := by
          rw [forest, Shape.htmlAll_flatMap, List.filterMap_flatMap, List.flatMap_assoc]
          exact List.Perm.flatMap_left _ ih
        have hchildless := hm.children_eq_nil_of_isContainer_eq_false hget
        rw [hm.shapes_of_get? hget, hm.listing_eq (contains_of_get? hget),
          List.filterMap_cons_some hget, List.flatMap_cons, Shape.htmlAll, Shape.htmlAll,
          List.append_nil]
        cases data with
        | document =>
            rw [Shape.html]
            exact hbelow
        | text content =>
            rw [Shape.html_text, hchildless rfl]
            exact List.Perm.of_eq (List.append_nil _).symm
        | element e =>
            rw [Shape.html, NodeData.ownHtml]
            split
            · next hvoid =>
                rw [hchildless (by simp [NodeData.isContainer, hvoid])]
                exact List.Perm.of_eq (List.append_nil _).symm
            · -- the closing tag moves in front of what is below
              rw [List.append_assoc, List.append_assoc (e.opening ++ ['>'])]
              exact List.Perm.append_left _ ((hbelow.append_right _).trans List.perm_append_comm)

/-! ## The characters of one node -/

theorem not_mem_name {name : String} (h : isName name = true) {c : Char}
    (hc : endsName c = true) : c ∉ name.toList := by
  intro hmem
  rw [(endsName_of_isName h).2 c hmem] at hc
  cases hc

theorem count_name {name : String} (h : isName name = true) {c : Char}
    (hc : endsName c = true) : name.toList.count c = 0 :=
  List.count_eq_zero.mpr (not_mem_name h hc)

theorem not_mem_escapeTextChar {c : Char} (hc : c = '<' ∨ c = '>') (x : Char) :
    c ∉ escapeTextChar x := by
  unfold escapeTextChar
  split
  · rcases hc with rfl | rfl <;> decide
  · rcases hc with rfl | rfl <;> decide
  · rcases hc with rfl | rfl <;> decide
  · next hless hgreater =>
      rw [List.mem_singleton]
      rintro rfl
      rcases hc with rfl | rfl
      · exact hless rfl
      · exact hgreater rfl

theorem count_escapeTextChar_quote (x : Char) :
    (escapeTextChar x).count '"' = [x].count '"' := by
  unfold escapeTextChar
  split <;> rfl

theorem not_mem_escapeValueChar {c : Char} (hc : c = '<' ∨ c = '>' ∨ c = '"') (x : Char) :
    c ∉ escapeValueChar x := by
  unfold escapeValueChar
  split
  · rcases hc with rfl | rfl | rfl <;> decide
  · next hquote =>
      rcases hc with rfl | rfl | rfl
      · exact not_mem_escapeTextChar (.inl rfl) x
      · exact not_mem_escapeTextChar (.inr rfl) x
      · rw [← List.count_eq_zero, count_escapeTextChar_quote, List.count_eq_zero,
          List.mem_singleton]
        exact fun h => hquote h.symm

theorem not_mem_escapeText {c : Char} (hc : c = '<' ∨ c = '>') (content : String) :
    c ∉ escapeText content := by
  intro hmem
  obtain ⟨x, -, hx⟩ := List.mem_flatMap.mp hmem
  exact not_mem_escapeTextChar hc x hx

theorem count_escapeText_quote (content : String) :
    (escapeText content).count '"' = content.toList.count '"' := by
  rw [escapeText]
  induction content.toList with
  | nil => rfl
  | cons x rest ih =>
      rw [List.flatMap_cons, List.count_append, ih, count_escapeTextChar_quote, ← List.count_append]
      rfl

theorem count_escapeValue {c : Char} (hc : c = '<' ∨ c = '>' ∨ c = '"') (value : String) :
    (escapeValue value).count c = 0 := by
  rw [List.count_eq_zero, escapeValue]
  intro hmem
  obtain ⟨x, -, hx⟩ := List.mem_flatMap.mp hmem
  exact not_mem_escapeValueChar hc x hx

theorem count_attribute_bracket {a : Attribute} (ha : isName a.name = true) {c : Char}
    (hc : c = '<' ∨ c = '>') : a.html.count c = 0 := by
  have hname : a.name.toList.count c = 0 := by
    rcases hc with rfl | rfl
    · exact count_name ha (by decide)
    · exact count_name ha (by decide)
  unfold Attribute.html
  rw [List.count_append, List.count_cons, hname]
  cases a.value with
  | none => rcases hc with rfl | rfl <;> rfl
  | some value =>
      have hvalue := count_escapeValue (hc.imp_right .inl) value
      simp only [List.count_append, hvalue]
      rcases hc with rfl | rfl <;> rfl

theorem count_attribute_quote {a : Attribute} (ha : isName a.name = true) :
    a.html.count '"' = if a.value.isSome then 2 else 0 := by
  unfold Attribute.html
  rw [List.count_append, List.count_cons, count_name ha (by decide)]
  cases a.value with
  | none => rfl
  | some value =>
      have hvalue := count_escapeValue (.inr (.inr rfl)) value
      simp only [List.count_append, hvalue]
      rfl

theorem count_opening_bracket {e : ElementData} (htag : isName e.tag = true)
    (hnames : ∀ a ∈ e.attributes, isName a.name = true) {c : Char}
    (hc : c = '<' ∨ c = '>') : e.opening.count c = ['<'].count c := by
  have htag : e.tag.toList.count c = 0 := by
    rcases hc with rfl | rfl
    · exact count_name htag (by decide)
    · exact count_name htag (by decide)
  have hattributes : (e.attributes.flatMap Attribute.html).count c = 0 := by
    rw [List.count_eq_zero]
    intro hmem
    obtain ⟨a, ha, hc'⟩ := List.mem_flatMap.mp hmem
    rw [← List.count_pos_iff, count_attribute_bracket (hnames a ha) hc] at hc'
    exact absurd hc' (by omega)
  rw [ElementData.opening, List.cons_append, List.count_cons, List.count_append, htag,
    hattributes, List.count_cons]
  rfl

theorem count_opening_quote {e : ElementData} (he : e.Valid) :
    e.opening.count '"' = 2 * e.attributes.countP fun a => a.value.isSome := by
  have hattributes : ∀ attributes : List Attribute, (∀ a ∈ attributes, isName a.name = true) →
      (attributes.flatMap Attribute.html).count '"' =
        2 * attributes.countP fun a => a.value.isSome := by
    intro attributes
    induction attributes with
    | nil => intro _; rfl
    | cons a attributes ih =>
        intro hnames
        rw [List.flatMap_cons, List.count_append, List.countP_cons,
          count_attribute_quote (hnames a List.mem_cons_self),
          ih fun b hb => hnames b (List.mem_cons_of_mem a hb)]
        split <;> omega
  rw [ElementData.opening, List.cons_append, List.count_cons, List.count_append,
    count_name he.isName_tag (by decide), hattributes _ he.isName_attribute]
  simp

theorem count_closing_bracket {tag : String} (h : isName tag = true) {c : Char}
    (hc : c = '<' ∨ c = '>') : (closing tag).count c = 1 := by
  unfold closing
  rcases hc with rfl | rfl
  · rw [List.count_append, List.count_append, count_name h (by decide)]
    rfl
  · rw [List.count_append, List.count_append, count_name h (by decide)]
    rfl

namespace NodeData

/-- How many tags the node is written with. -/
def tags : NodeData → Nat
  | document | text _ => 0
  | element e => if isVoid e.tag then 1 else 2

/-- How many attributes of the node have a value. -/
def valued : NodeData → Nat
  | document | text _ => 0
  | element e => e.attributes.countP fun a => a.value.isSome

/-- How many double quotes the node's text has. -/
def quotes : NodeData → Nat
  | document | element _ => 0
  | text content => content.toList.count '"'

theorem count_ownHtml_bracket (style : VoidStyle) {data : NodeData}
    (hvalid : ∀ e, data = element e → e.Valid) {c : Char} (hc : c = '<' ∨ c = '>') :
    (data.ownHtml style).count c = data.tags := by
  cases data with
  | document => rfl
  | text content => exact List.count_eq_zero.mpr (not_mem_escapeText hc content)
  | element e =>
      have he := hvalid e rfl
      rw [ownHtml, tags]
      split
      · rw [List.count_append, count_opening_bracket he.isName_tag he.isName_attribute hc]
        cases style <;> rcases hc with rfl | rfl <;> rfl
      · rw [List.count_append, List.count_append,
          count_opening_bracket he.isName_tag he.isName_attribute hc,
          count_closing_bracket he.isName_tag hc]
        rcases hc with rfl | rfl <;> rfl

theorem count_ownHtml_quote (style : VoidStyle) {data : NodeData}
    (hvalid : ∀ e, data = element e → e.Valid) :
    (data.ownHtml style).count '"' = 2 * data.valued + data.quotes := by
  cases data with
  | document => rfl
  | text content =>
      rw [ownHtml, count_escapeText_quote, valued, quotes, Nat.mul_zero, Nat.zero_add]
  | element e =>
      have he := hvalid e rfl
      rw [ownHtml, valued, quotes]
      split
      · rw [List.count_append, count_opening_quote he]
        cases style <;> rfl
      · have hclosing : (closing e.tag).count '"' = 0 := by
          rw [closing, List.count_append, List.count_append, count_name he.isName_tag (by decide)]
          rfl
        rw [List.count_append, List.count_append, count_opening_quote he, hclosing]
        rfl

/-- The text of the node, if it is one. -/
def text? : NodeData → Option String
  | text content => some content
  | document | element _ => none

/-- The node with nothing said in its text and in its values. -/
def blank : NodeData → NodeData
  | document => document
  | text _ => text ""
  | element e =>
    element { e with attributes := e.attributes.map fun a => ⟨a.name, a.value.map fun _ => ""⟩ }

theorem tags_blank (data : NodeData) : data.blank.tags = data.tags := by
  cases data <;> rfl

theorem valued_blank (data : NodeData) : data.blank.valued = data.valued := by
  cases data with
  | document => rfl
  | text content => rfl
  | element e =>
      rw [blank, valued, valued, List.countP_map]
      congr 1
      funext a
      exact Option.isSome_map

end NodeData

/-! ## The characters of the document -/

/-- The elements of the arena. -/
def elements (m : Markup) : List ElementData := m.contents.filterMap NodeData.element?

/-- The texts of the arena. -/
def texts (m : Markup) : List String := m.contents.filterMap NodeData.text?

/-- The number of double quotes in the texts. -/
def quotes (m : Markup) : Nat := (m.texts.flatMap String.toList).count '"'

/-- The tree with nothing said in its texts and values. -/
def blank (m : Markup) : Markup :=
  ⟨{ m.maps with nodes := m.maps.nodes.map NodeData.blank }, by
    have hcontains : ∀ id,
        Maps.contains { m.maps with nodes := m.maps.nodes.map NodeData.blank } id =
          m.maps.contains id := by
      rintro ⟨_ | place⟩
      · rfl
      · simp [Maps.contains, Maps.get?]
    exact ⟨(hcontains root).trans m.inStep.contains_root,
      fun id => (m.inStep.children id).trans (hcontains id).symm,
      fun id => by rw [hcontains]; exact m.inStep.parent id⟩⟩

theorem contents_blank (m : Markup) : m.blank.contents = m.contents.map NodeData.blank := by
  rw [contents, contents, blank, Array.toList_map]

/-- What is summed up over all nodes is summed up over those of one kind, when the others
add nothing. -/
theorem sum_map_filterMap {α : Type} {f : NodeData → Nat} (kind : NodeData → Option α)
    (g : α → Nat) (h : ∀ data, f data = (kind data).elim 0 g) (contents : List NodeData) :
    (contents.map f).sum = ((contents.filterMap kind).map g).sum := by
  induction contents with
  | nil => rfl
  | cons data contents ih =>
      rw [List.map_cons, List.sum_cons, ih, h data]
      cases hkind : kind data with
      | none =>
          rw [List.filterMap_cons_none hkind]
          exact Nat.zero_add _
      | some a =>
          rw [List.filterMap_cons_some hkind, List.map_cons, List.sum_cons]
          rfl

theorem sum_tags (m : Markup) :
    (m.contents.map NodeData.tags).sum =
      m.elements.countP (fun e => isVoid e.tag) +
        2 * m.elements.countP fun e => !isVoid e.tag := by
  rw [sum_map_filterMap NodeData.element? (fun e => if isVoid e.tag then 1 else 2)
    (fun data => by cases data <;> rfl), ← elements]
  induction m.elements with
  | nil => rfl
  | cons e rest ih =>
      rw [List.map_cons, List.sum_cons, ih, List.countP_cons, List.countP_cons]
      cases isVoid e.tag
      · show 2 + _ = _ + 0 + 2 * (_ + 1)
        omega
      · show 1 + _ = _ + 1 + 2 * (_ + 0)
        omega

theorem sum_valued (m : Markup) :
    (m.contents.map NodeData.valued).sum =
      (m.elements.flatMap ElementData.attributes).countP fun a => a.value.isSome := by
  rw [sum_map_filterMap NodeData.element? (fun e => e.attributes.countP fun a => a.value.isSome)
    (fun data => by cases data <;> rfl), ← elements, List.countP_flatMap]
  rfl

theorem sum_quotes (m : Markup) : (m.contents.map NodeData.quotes).sum = m.quotes := by
  rw [sum_map_filterMap NodeData.text? (fun content => content.toList.count '"')
    (fun data => by cases data <;> rfl), ← texts, quotes, List.count_flatMap]
  rfl

section Document

variable {m : Markup} (hm : m.WellFormed) {options : HtmlOptions}
  (hdoctype : options.doctype = false)

include hm hdoctype

/-- Each node of the arena is written once. -/
theorem WellFormed.count_toHtml (c : Char) :
    (m.toHtml options).toList.count c =
      (m.contents.map fun data => (data.ownHtml options.voidStyle).count c).sum := by
  have hhtml : (m.toHtml options).toList =
      Shape.htmlAll options.voidStyle (m.shapes root) := by
    rw [toList_toHtml, HtmlOptions.heading, hdoctype]
    rfl
  -- what is written on the way down, and what the nodes write in the order of creation
  have hperm := (hm.htmlAll_perm options.voidStyle root).trans (hm.contents_perm.flatMap_right _)
  rw [hhtml, hperm.count_eq, List.count_flatMap]
  rfl

theorem WellFormed.count_bracket {c : Char} (hc : c = '<' ∨ c = '>') :
    (m.toHtml options).toList.count c = (m.contents.map NodeData.tags).sum := by
  rw [hm.count_toHtml hdoctype]
  congr 1
  refine List.map_congr_left fun data hdata => ?_
  obtain ⟨id, hget⟩ := mem_contents.mp hdata
  exact NodeData.count_ownHtml_bracket _ (fun e he => hm.valid (he ▸ hget)) hc

theorem WellFormed.count_quote :
    (m.toHtml options).toList.count '"' =
      2 * (m.contents.map NodeData.valued).sum + (m.contents.map NodeData.quotes).sum := by
  have hown : (m.contents.map fun data => (data.ownHtml options.voidStyle).count '"') =
      m.contents.map fun data => 2 * data.valued + data.quotes := by
    refine List.map_congr_left fun data hdata => ?_
    obtain ⟨id, hget⟩ := mem_contents.mp hdata
    exact NodeData.count_ownHtml_quote _ fun e he => hm.valid (he ▸ hget)
  rw [hm.count_toHtml hdoctype, hown, List.sum_map_add, List.sum_map_mul_left]

end Document

/-- Without a doctype, the HTML of a tree has an angle bracket of each kind for every void
element of the arena and two for every other element, and two double quotes for every
attribute with a value, beside those that stand in texts. So what texts and values say
has no influence on the number of delimiters: a tree that differs in nothing else has
as many of them. -/
theorem toHtml_delimiters {m : Markup} (hm : Reachable m) {options : HtmlOptions}
    (hdoctype : options.doctype = false) :
    (∀ c, c = '<' ∨ c = '>' →
      (m.toHtml options).toList.count c =
        m.elements.countP (fun e => isVoid e.tag) +
          2 * m.elements.countP fun e => !isVoid e.tag) ∧
    (m.toHtml options).toList.count '"' =
      2 * (m.elements.flatMap ElementData.attributes).countP (fun a => a.value.isSome) +
        m.quotes ∧
    ∀ m', Reachable m' → m'.blank = m.blank →
      (m'.toHtml options).toList.count '<' = (m.toHtml options).toList.count '<' ∧
      (m'.toHtml options).toList.count '>' = (m.toHtml options).toList.count '>' ∧
      (m'.toHtml options).toList.count '"' + m.quotes =
        (m.toHtml options).toList.count '"' + m'.quotes := by
  have hw := hm.wellFormed
  refine ⟨fun c hc => ?_, ?_, fun m' hm' hblank => ?_⟩
  · rw [hw.count_bracket hdoctype hc, sum_tags]
  · rw [hw.count_quote hdoctype, sum_valued, sum_quotes]
  · have hw' := hm'.wellFormed
    have hcontents : m'.contents.map NodeData.blank = m.contents.map NodeData.blank := by
      rw [← contents_blank, ← contents_blank, hblank]
    -- what is counted of a node is counted of the blank node as well
    have htags : m'.contents.map NodeData.tags = m.contents.map NodeData.tags := by
      have h := congrArg (List.map NodeData.tags) hcontents
      simpa only [List.map_map, Function.comp_def, NodeData.tags_blank] using h
    have hvalued : m'.contents.map NodeData.valued = m.contents.map NodeData.valued := by
      have h := congrArg (List.map NodeData.valued) hcontents
      simpa only [List.map_map, Function.comp_def, NodeData.valued_blank] using h
    refine ⟨?_, ?_, ?_⟩
    · rw [hw'.count_bracket hdoctype (.inl rfl), hw.count_bracket hdoctype (.inl rfl), htags]
    · rw [hw'.count_bracket hdoctype (.inr rfl), hw.count_bracket hdoctype (.inr rfl), htags]
    · rw [hw'.count_quote hdoctype, hw.count_quote hdoctype, hvalued, sum_quotes, sum_quotes]
      omega

/-- A paragraph with a title, a text and a line break in it, and the same paragraph when
both try to break out. -/
theorem toHtml_delimiters_paragraph :
    let paragraph (title content : String) := Markup.empty.runCalls
      [.appendElement root "p", .setAttribute ⟨2⟩ "title" (some title),
        .setAttribute ⟨2⟩ "hidden" none, .appendText ⟨2⟩ content, .appendElement ⟨2⟩ "BR"]
    let tame := paragraph "notes" "none"
    let wild := paragraph "\"><script>" "</p>\"\""
    (wild.toHtml {}).toList.count '<' = 3 ∧ (wild.toHtml {}).toList.count '"' = 4 ∧
      (tame.toHtml {}).toList.count '>' = (wild.toHtml {}).toList.count '>' ∧
      (tame.toHtml {}).toList.count '"' + 2 = (wild.toHtml {}).toList.count '"' + 0 := by
  intro paragraph tame wild
  have hwild : Reachable wild := Reachable.empty.runCalls _
  have htame : Reachable tame := Reachable.empty.runCalls _
  have hdoctype : ({} : HtmlOptions).doctype = false := rfl
  obtain ⟨hbrackets, hquotes, hsame⟩ := toHtml_delimiters hwild hdoctype
  obtain ⟨-, hgreater, hless⟩ := hsame tame htame (by decide +kernel)
  exact ⟨(hbrackets '<' (.inl rfl)).trans rfl, hquotes.trans rfl, hgreater, hless⟩

end HtmlComponents.Markup
