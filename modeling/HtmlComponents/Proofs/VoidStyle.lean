import HtmlComponents.Proofs.Delimiters
import HtmlComponents.Proofs.Traversal
import Mathlib.Data.List.Infix

/-!
# The two styles of void elements

HTML in the one style becomes HTML in the other when each ` />` in it is shortened to
`>`, and there is one ` />` for each void element. So nothing else in the HTML looks like
the end of a void element.

Shortening goes through the HTML from the left, and so the proof has what follows in its
statements. A part without a closing angle bracket is passed over as it is, unless what
follows completes an end that the part has begun; what stands behind a node never does
(`Border`). Where there is a closing bracket, it matters what is in front of it: a start
tag ends with a character of a name or with a quote, a closing tag with a character of
a name, and no name has a slash.

The ends are not counted one by one. Each of them is two characters shorter afterwards,
so their number is seen from the lengths, and by how much the lengths of the two styles
differ is known from what each node writes of its own.
-/

namespace HtmlComponents.Markup

open HtmlComponents.Text

/-! ## Shortening -/

/-- The text with each ` />` replaced by `>`. -/
def shorten : List Char → List Char
  | ' ' :: '/' :: '>' :: rest => '>' :: shorten rest
  | c :: rest => c :: shorten rest
  | [] => []

/-- The number of places at which ` />` stands in a text. -/
def occurrences (text : List Char) : Nat :=
  text.tails.countP fun tail => [' ', '/', '>'].isPrefixOf tail

theorem occurrences_cons (c : Char) (rest : List Char) :
    occurrences (c :: rest) =
      occurrences rest + if [' ', '/', '>'].isPrefixOf (c :: rest) then 1 else 0 := by
  rw [occurrences, List.tails_cons, List.countP_cons, ← occurrences]

theorem shorten_cons {c : Char} {rest : List Char}
    (h : ∀ tail, c = ' ' → rest ≠ '/' :: '>' :: tail) :
    shorten (c :: rest) = c :: shorten rest :=
  shorten.eq_2 c rest fun tail hc hrest => h tail hc hrest

/-- Each replacement takes two characters away. -/
theorem length_shorten (text : List Char) :
    (shorten text).length + 2 * occurrences text = text.length := by
  fun_induction shorten text with
  | case1 rest ih =>
      rw [occurrences_cons, occurrences_cons, occurrences_cons]
      simp
      omega
  | case2 c rest h ih =>
      have hprefix : [' ', '/', '>'].isPrefixOf (c :: rest) = false := by
        rw [Bool.eq_false_iff]
        intro hprefix
        obtain ⟨tail, htail⟩ := List.isPrefixOf_iff_prefix.mp hprefix
        cases htail
        exact h tail rfl rfl
      rw [occurrences_cons, hprefix, List.length_cons, List.length_cons]
      simp
      omega
  | case3 => rfl

/-- What does not complete an end that was begun in front of it. -/
def Border (rest : List Char) : Prop :=
  ∀ tail, rest ≠ '>' :: tail ∧ rest ≠ '/' :: '>' :: tail

theorem border_nil : Border [] := by
  intro tail
  constructor
  · intro h
    cases h
  · intro h
    cases h

theorem border_cons {c : Char} (rest : List Char) (hgreater : c ≠ '>') (hslash : c ≠ '/') :
    Border (c :: rest) :=
  fun _ => ⟨fun h => hgreater (List.cons.inj h).1, fun h => hslash (List.cons.inj h).1⟩

theorem Border.append {front rest : List Char} (hrest : Border rest) (hfront : '>' ∉ front) :
    Border (front ++ rest) := by
  intro tail
  constructor
  · intro h
    cases front with
    | nil => exact (hrest tail).1 h
    | cons c front =>
        rw [List.cons_append, List.cons.injEq] at h
        exact hfront (h.1 ▸ List.mem_cons_self)
  · intro h
    match front with
    | [] => exact (hrest tail).2 h
    | [c] =>
        rw [List.singleton_append, List.cons.injEq] at h
        exact (hrest tail).1 h.2
    | c :: d :: front =>
        rw [List.cons_append, List.cons_append, List.cons.injEq, List.cons.injEq] at h
        exact hfront (h.2.1 ▸ List.mem_cons_of_mem c List.mem_cons_self)

theorem shorten_append {front rest : List Char} (hfront : '>' ∉ front) (hrest : Border rest) :
    shorten (front ++ rest) = front ++ shorten rest := by
  induction front with
  | nil => rfl
  | cons c front ih =>
      have hmem : '>' ∉ front := fun h => hfront (List.mem_cons_of_mem c h)
      have hcons : ∀ tail, c = ' ' → front ++ rest ≠ '/' :: '>' :: tail :=
        fun tail _ => (hrest.append hmem tail).2
      rw [List.cons_append, shorten_cons hcons, ih hmem, List.cons_append]

theorem shorten_selfClosing {front : List Char} (hfront : '>' ∉ front) (rest : List Char) :
    shorten (front ++ ' ' :: '/' :: '>' :: rest) = front ++ '>' :: shorten rest := by
  rw [shorten_append hfront (border_cons _ (by decide) (by decide)), shorten]

/-- The text does not end with a slash. -/
def EndsBare (text : List Char) : Prop := text.getLast? ≠ some '/'

theorem EndsBare.append {front back : List Char} (hfront : EndsBare front)
    (hback : EndsBare back) : EndsBare (front ++ back) := by
  rw [EndsBare, List.getLast?_append]
  rcases hlast : back.getLast? with _ | c
  · rwa [Option.none_or]
  · rw [Option.some_or, ← hlast]
    exact hback

theorem endsBare_of_not_mem {text : List Char} (h : '/' ∉ text) : EndsBare text :=
  fun hlast => h (List.mem_of_getLast? hlast)

theorem EndsBare.cons {c : Char} {text : List Char} (hc : c ≠ '/') (h : EndsBare text) :
    EndsBare (c :: text) := by
  have hhead : EndsBare [c] := by
    rw [EndsBare, List.getLast?_singleton]
    exact fun heq => hc (Option.some.inj heq)
  exact hhead.append h

theorem endsBare_flatMap {α : Type} {l : List α} {f : α → List Char}
    (h : ∀ a ∈ l, EndsBare (f a)) : EndsBare (l.flatMap f) := by
  induction l with
  | nil => exact endsBare_of_not_mem List.not_mem_nil
  | cons a l ih =>
      rw [List.flatMap_cons]
      exact (h a List.mem_cons_self).append (ih fun b hb => h b (List.mem_cons_of_mem a hb))

theorem shorten_greater {front : List Char} (hfront : '>' ∉ front) (hbare : EndsBare front)
    (rest : List Char) : shorten (front ++ '>' :: rest) = front ++ '>' :: shorten rest := by
  have hgreater : shorten ('>' :: rest) = '>' :: shorten rest :=
    shorten_cons fun _ h => absurd h (by decide)
  rcases List.eq_nil_or_concat front with rfl | ⟨front, c, rfl⟩
  · exact hgreater
  · rw [List.concat_eq_append] at hfront hbare ⊢
    have hc : c ≠ '>' := fun h => hfront (h ▸ List.mem_append_right _ List.mem_cons_self)
    have hslash : c ≠ '/' := by
      rintro rfl
      exact hbare List.getLast?_concat
    have hlast : shorten (c :: '>' :: rest) = c :: '>' :: shorten rest := by
      rw [shorten_cons (fun tail _ h => absurd (List.cons.inj h).1 (by decide)), hgreater]
    rw [List.append_assoc, List.singleton_append,
      shorten_append (fun h => hfront (List.mem_append_left _ h)) (border_cons _ hc hslash),
      hlast, List.append_assoc, List.singleton_append]

/-! ## Shortening HTML -/

theorem endsBare_name {name : String} (h : isName name = true) : EndsBare name.toList :=
  endsBare_of_not_mem (not_mem_name h (by decide))

theorem endsBare_attribute {a : Attribute} (ha : isName a.name = true) : EndsBare a.html := by
  unfold Attribute.html
  have hname : EndsBare (' ' :: a.name.toList) :=
    (endsBare_name ha).cons (by decide)
  refine hname.append ?_
  cases a.value with
  | none => exact endsBare_of_not_mem List.not_mem_nil
  | some value =>
      rw [EndsBare, List.getLast?_concat]
      decide

section Opening

variable {e : ElementData} (htag : isName e.tag = true)
  (hnames : ∀ a ∈ e.attributes, isName a.name = true)

include htag hnames

theorem endsBare_opening : EndsBare e.opening := by
  have hbegin : EndsBare ('<' :: e.tag.toList) := (endsBare_name htag).cons (by decide)
  exact hbegin.append (endsBare_flatMap fun a ha => endsBare_attribute (hnames a ha))

theorem not_mem_opening : '>' ∉ e.opening := by
  rw [← List.count_eq_zero, count_opening_bracket htag hnames (.inr rfl)]
  rfl

end Opening

theorem shorten_closing {tag : String} (h : isName tag = true) (rest : List Char) :
    shorten (closing tag ++ rest) = closing tag ++ shorten rest := by
  have hgreater := not_mem_name h (show endsName '>' = true by decide)
  have hslash := not_mem_name h (show endsName '/' = true by decide)
  -- the slash of a closing tag is followed by the tag, which is not empty
  have hborder : Border (tag.toList ++ '>' :: rest) := by
    obtain ⟨c, name, hc⟩ := List.exists_cons_of_ne_nil (endsName_of_isName h).1
    rw [hc] at hgreater hslash ⊢
    exact border_cons _ (List.ne_of_not_mem_cons hgreater).symm
      (List.ne_of_not_mem_cons hslash).symm
  rw [closing, List.append_assoc, List.append_assoc, List.singleton_append,
    shorten_append (by decide) hborder, shorten_greater hgreater (endsBare_name h)]
  simp only [List.append_assoc, List.cons_append, List.nil_append]

theorem border_html (style : VoidStyle) {shape : Shape} (h : shape.Writable) {rest : List Char}
    (hrest : Border rest) : Border (shape.html style ++ rest) := by
  cases h with
  | text content =>
      rw [Shape.html_text]
      exact hrest.append (not_mem_escapeText (.inr rfl) content)
  | element =>
      rw [Shape.html, ElementData.opening]
      split
      · exact border_cons _ (by decide) (by decide)
      · exact border_cons _ (by decide) (by decide)

theorem border_htmlAll (style : VoidStyle) {shapes : List Shape}
    (h : ∀ shape ∈ shapes, shape.Writable) {rest : List Char} (hrest : Border rest) :
    Border (Shape.htmlAll style shapes ++ rest) := by
  induction shapes with
  | nil => exact hrest
  | cons shape shapes ih =>
      rw [Shape.htmlAll, List.append_assoc]
      exact border_html style (h shape List.mem_cons_self)
        (ih fun below hbelow => h below (List.mem_cons_of_mem _ hbelow))

/-- Shapes that are shortened one by one are shortened together. -/
theorem shorten_htmlAll_of {shapes : List Shape} (hwritable : ∀ shape ∈ shapes, shape.Writable)
    (h : ∀ shape ∈ shapes, ∀ rest, Border rest →
      shorten (shape.html .selfClosing ++ rest) = shape.html .html ++ shorten rest) :
    ∀ rest, Border rest → shorten (Shape.htmlAll .selfClosing shapes ++ rest) =
      Shape.htmlAll .html shapes ++ shorten rest := by
  induction shapes with
  | nil =>
      intro rest _
      rfl
  | cons shape shapes ih =>
      intro rest hrest
      have hbelow : ∀ below ∈ shapes, below.Writable := fun below hmem =>
        hwritable below (List.mem_cons_of_mem _ hmem)
      have htail := ih hbelow fun below hmem => h below (List.mem_cons_of_mem _ hmem)
      rw [Shape.htmlAll, Shape.htmlAll, List.append_assoc, h shape List.mem_cons_self _
        (border_htmlAll .selfClosing hbelow hrest), htail rest hrest, List.append_assoc]

/-- The one style becomes the other. -/
theorem shorten_html {shape : Shape} (h : shape.Writable) :
    ∀ rest, Border rest →
      shorten (shape.html .selfClosing ++ rest) = shape.html .html ++ shorten rest := by
  induction h with
  | text content =>
      intro rest hrest
      have hgreater : '>' ∉ escapeText content := not_mem_escapeText (.inr rfl) content
      rw [Shape.html_text, Shape.html_text, shorten_append hgreater hrest]
  | @element e children htag hnames _ hchildren ih =>
      intro rest _
      have hopening := not_mem_opening htag hnames
      rw [Shape.html, Shape.html]
      split
      · rw [VoidStyle.terminator, VoidStyle.terminator, List.append_assoc, List.append_assoc]
        exact shorten_selfClosing hopening rest
      · have hclosing : Border (closing e.tag ++ rest) :=
          border_cons _ (by decide) (by decide)
        simp only [List.append_assoc, List.cons_append, List.nil_append]
        rw [shorten_greater hopening (endsBare_opening htag hnames),
          shorten_htmlAll_of hchildren ih _ hclosing, shorten_closing htag]

theorem WellFormed.shorten_shapes {m : Markup} (hm : m.WellFormed) (id : NodeId) :
    shorten (Shape.htmlAll .selfClosing (m.shapes id)) = Shape.htmlAll .html (m.shapes id) := by
  have hall : ∀ shapes : List Shape, (∀ shape ∈ shapes, shape.Writable) →
      shorten (Shape.htmlAll .selfClosing shapes) = Shape.htmlAll .html shapes := by
    intro shapes hwritable
    have h := shorten_htmlAll_of hwritable
      (fun shape hshape => shorten_html (hwritable shape hshape)) [] border_nil
    rw [List.append_nil] at h
    rw [h, shorten, List.append_nil]
  by_cases hid : id = root
  · rw [hid, hm.htmlAll_shapes_root, hm.htmlAll_shapes_root]
    exact hall _ hm.writable_forest
  · exact hall _ (hm.writable_of_mem_shapes id hid)

/-! ## How many ends there are -/

/-- What a node writes of its own is two characters longer for a void element. -/
theorem length_flatMap_ownHtml (contents : List NodeData) :
    (contents.flatMap (NodeData.ownHtml .selfClosing)).length =
      (contents.flatMap (NodeData.ownHtml .html)).length +
        2 * (contents.filterMap NodeData.element?).countP fun e => isVoid e.tag := by
  induction contents with
  | nil => rfl
  | cons data contents ih =>
      rw [List.flatMap_cons, List.flatMap_cons, List.length_append, List.length_append, ih]
      cases data with
      | document =>
          rw [List.filterMap_cons_none rfl]
          exact (Nat.add_assoc _ _ _).symm
      | text content =>
          rw [List.filterMap_cons_none rfl]
          exact (Nat.add_assoc _ _ _).symm
      | element e =>
          have hkind : NodeData.element? (.element e) = some e := rfl
          rw [List.filterMap_cons_some hkind, List.countP_cons, NodeData.ownHtml, NodeData.ownHtml]
          split
          · simp only [VoidStyle.terminator, List.length_append, List.length_cons,
              List.length_nil]
            omega
          · omega

section Count

variable {m : Markup} (hm : m.WellFormed)

include hm

theorem WellFormed.occurrences_shapes (id : NodeId) :
    occurrences (Shape.htmlAll .selfClosing (m.shapes id)) =
      ((m.listing id).filterMap m.element?).countP fun e => isVoid e.tag := by
  have hlong := (hm.htmlAll_perm .selfClosing id).length_eq
  have hshort := (hm.htmlAll_perm .html id).length_eq
  have hshorter := length_shorten (Shape.htmlAll .selfClosing (m.shapes id))
  have hown := length_flatMap_ownHtml ((m.listing id).filterMap m.get?)
  rw [List.filterMap_filterMap] at hown
  rw [hm.shorten_shapes] at hshorter
  show _ = ((m.listing id).filterMap fun x => (m.get? x).bind NodeData.element?).countP _
  omega

/-- The elements met on the way down from the root are those of the arena. -/
theorem WellFormed.elements_perm : ((m.listing root).filterMap m.element?).Perm m.elements := by
  have h := hm.contents_perm.filterMap NodeData.element?
  rwa [List.filterMap_filterMap] at h

end Count

theorem shorten_heading (options : HtmlOptions) (rest : List Char) :
    shorten (options.heading.toList ++ rest) = options.heading.toList ++ shorten rest := by
  rw [HtmlOptions.heading]
  split
  · have hsplit : "<!DOCTYPE html>".toList = "<!DOCTYPE html".toList ++ ['>'] := by decide
    rw [hsplit, List.append_assoc, List.singleton_append,
      shorten_greater (by decide) (endsBare_of_not_mem (by decide)), List.append_assoc,
      List.singleton_append]
  · rfl

/-- The two styles of void elements differ in the ends of these elements and nowhere
else. Replacing each ` />` of a page in the one style by `>` gives the page in the other,
and a page has as many ` />` as the tree has void elements. The same holds of what is
written of any one node, with the void elements among the node and those below it. -/
theorem voidStyle_terminators {m : Markup} (hm : Reachable m) (doctype : Bool) :
    (shorten (m.toHtml ⟨doctype, .selfClosing⟩).toList = (m.toHtml ⟨doctype, .html⟩).toList ∧
      occurrences (m.toHtml ⟨doctype, .selfClosing⟩).toList =
        m.elements.countP fun e => isVoid e.tag) ∧
    ∀ id,
      shorten (m.nodeToHtml id ⟨doctype, .selfClosing⟩).toList =
        (m.nodeToHtml id ⟨doctype, .html⟩).toList ∧
      occurrences (m.nodeToHtml id ⟨doctype, .selfClosing⟩).toList =
        ((m.walk id).filterMap m.element?).countP fun e => isVoid e.tag := by
  have hw := hm.wellFormed
  refine ⟨⟨?_, ?_⟩, fun id => ⟨?_, ?_⟩⟩
  · rw [toList_toHtml, toList_toHtml, shorten_heading, hw.shorten_shapes]
    rfl
  · -- shortening leaves the heading as long as it is, so it has none of the ends
    have hsplit : (m.toHtml ⟨doctype, .selfClosing⟩).toList =
        (HtmlOptions.mk doctype .selfClosing).heading.toList ++
          Shape.htmlAll .selfClosing (m.shapes root) := toList_toHtml m _
    have hpage := length_shorten (m.toHtml ⟨doctype, .selfClosing⟩).toList
    have hbody := length_shorten (Shape.htmlAll .selfClosing (m.shapes root))
    rw [hw.occurrences_shapes, hw.elements_perm.countP_eq] at hbody
    rw [hsplit, shorten_heading, List.length_append, List.length_append] at hpage
    rw [hsplit]
    omega
  · rw [nodeToHtml_eq, nodeToHtml_eq, String.toList_ofList, String.toList_ofList]
    exact hw.shorten_shapes id
  · rw [nodeToHtml_eq, String.toList_ofList, hw.walk_eq_listing]
    exact hw.occurrences_shapes id

/-- A value and two texts that look like the end of a void element or begin one, and two
void elements. -/
theorem voidStyle_terminators_paragraph :
    let m := Markup.empty.runCalls
      [.appendElement root "p", .setAttribute ⟨2⟩ "title" (some " />"), .appendText ⟨2⟩ "a />",
        .appendElement ⟨2⟩ "BR", .appendElement ⟨2⟩ "input", .appendText root " /"]
    shorten (m.toHtml ⟨true, .selfClosing⟩).toList = (m.toHtml ⟨true, .html⟩).toList ∧
      occurrences (m.toHtml ⟨true, .selfClosing⟩).toList = 2 ∧
      occurrences (m.nodeToHtml ⟨4⟩ ⟨true, .selfClosing⟩).toList = 1 := by
  intro m
  obtain ⟨⟨hpage, hends⟩, hnode⟩ :=
    voidStyle_terminators (Reachable.empty.runCalls _ : Reachable m) true
  exact ⟨hpage, hends.trans rfl, (hnode ⟨4⟩).2.trans rfl⟩

end HtmlComponents.Markup
