import HtmlComponents.Proofs.Listing
import HtmlComponents.Proofs.NormalForm

/-!
# An operation inserts one piece

What an operation writes into a tree appears in the document in one place, and the rest
of the document is what it was.

An operation changes the slot of a single node, apart from adding a slot: the parent of
a new node, or the element that gets an attribute. A node that is not above the changed
one has nothing changed below it and is written as before (`shapes_eq`). A node that is
above it is written as something in front, the changed node, and something behind, and
the two do not depend on the change (`exists_around`). That is shown one level at a time:
of the children, exactly one is above the changed node, because what is below different
children is different; and since it is a child, its parent is not a void element, whose
children would not be written.

What remains is to see the piece in the changed node itself. A new child comes last, in
front of the closing tag, and a new attribute comes last in the start tag.
-/

namespace HtmlComponents.Markup

open HtmlComponents.Text

/-- The second tree has the nodes of the first one, and at most one of them with
something else in it or with other children. -/
structure ChangedOnlyAt (m : Markup) (node : NodeId) (m' : Markup) : Prop where
  get? : ∀ {id}, m.contains id = true → id ≠ node → m'.get? id = m.get? id
  children : ∀ {id}, m.contains id = true → id ≠ node → m'.children id = m.children id

theorem ChangedOnlyAt.refl (m : Markup) (node : NodeId) : m.ChangedOnlyAt node m where
  get? _ _ := rfl
  children _ _ := rfl

theorem changedOnlyAt_grow {m : Markup} {parent : NodeId} (data : NodeData)
    (hparent : m.contains parent = true) : m.ChangedOnlyAt parent (m.grow parent data) where
  get? := by
    intro id hid _
    rw [get?_grow, if_neg (ne_nextId hid)]
  children := by
    intro id _ hne
    rw [children_grow data hparent, if_neg hne]

theorem changedOnlyAt_withAttribute {m : Markup} {node : NodeId} (a : Attribute)
    {e : ElementData} (he : m.get? node = some (.element e)) :
    m.ChangedOnlyAt node (m.withAttribute node a) where
  get? := by
    intro id _ hne
    rw [get?_withAttribute a he, if_neg hne]
  children := by
    intro id _ _
    rw [children_withAttribute]

/-! ## Away from the change -/

section Changed

variable {m m' : Markup} {node : NodeId} (hm : m.WellFormed)

include hm

theorem ChangedOnlyAt.shapes_eq (h : m.ChangedOnlyAt node m') (hm' : m'.WellFormed)
    {id : NodeId} (hid : m.contains id = true) (habove : ¬ m.Above id node) :
    m'.shapes id = m.shapes id := by
  -- going down from a node that is not above the changed one leads to no other kind
  have hne : ∀ {x}, ¬ m.Above x node → x ≠ node := by
    rintro x hx rfl
    exact hx .refl
  refine (hm.shapes_congr hm' (fun x => m.contains x = true ∧ ¬ m.Above x node) ?_ ?_ ?_
    ⟨hid, habove⟩).symm
  · rintro x ⟨hx, hnot⟩
    exact (h.get? hx (hne hnot)).symm
  · rintro x ⟨hx, hnot⟩
    exact (h.children hx (hne hnot)).symm
  · rintro x ⟨-, hnot⟩ child hchild
    exact ⟨hm.contains_of_mem_children hchild, fun hbelow => hnot (hbelow.head hchild)⟩

theorem ChangedOnlyAt.nodeToHtml_eq (h : m.ChangedOnlyAt node m') (hm' : m'.WellFormed)
    {id : NodeId} (hid : m.contains id = true) (habove : ¬ m.Above id node)
    (options : HtmlOptions) : m'.nodeToHtml id options = m.nodeToHtml id options := by
  rw [Markup.nodeToHtml_eq, Markup.nodeToHtml_eq, h.shapes_eq hm hm' hid habove]

end Changed

/-! ## Around the change -/

/-- What a container writes in front of its children. -/
def NodeData.front : NodeData → List Char
  | element e => e.opening ++ ['>']
  | document | text _ => []

/-- What a container writes behind its children. -/
def NodeData.back : NodeData → List Char
  | element e => closing e.tag
  | document | text _ => []

theorem ofList_closing (tag : String) : String.ofList (closing tag) = "</" ++ tag ++ ">" := by
  rw [← String.toList_inj]
  simp [closing]

theorem WellFormed.htmlAll_container {m : Markup} (hm : m.WellFormed) (style : VoidStyle)
    {id : NodeId} {data : NodeData} (hget : m.get? id = some data)
    (hcontainer : data.isContainer = true) :
    Shape.htmlAll style (m.shapes id) =
      data.front ++ Shape.htmlAll style (m.forest id) ++ data.back := by
  rw [hm.shapes_of_get? hget, Shape.htmlAll, Shape.htmlAll, List.append_nil]
  cases data with
  | document =>
      rw [Shape.html, NodeData.front, NodeData.back, List.nil_append, List.append_nil]
  | text content => cases hcontainer
  | element e =>
      have hvoid : ¬ isVoid e.tag = true := by simpa [NodeData.isContainer] using hcontainer
      rw [Shape.html, if_neg hvoid, NodeData.front, NodeData.back]

section Around

variable {m : Markup} (hm : m.WellFormed) (style : VoidStyle)

include hm

/-- Of the children of a node above the changed one, one has all of the change below it,
and the others are written as before. -/
theorem WellFormed.exists_beside {node top child : NodeId} (hchild : child ∈ m.children top)
    (hbelow : m.Above child node) :
    ∃ before after : List Char, ∀ {m'}, m'.WellFormed → m.ChangedOnlyAt node m' →
      Shape.htmlAll style (m'.shapes top) =
        before ++ Shape.htmlAll style (m'.shapes child) ++ after := by
  have htop := hm.contains_parent (hm.mem_children_iff.mp hchild)
  have hne : top ≠ node := by
    rintro rfl
    exact hm.not_above_parent hchild hbelow
  obtain ⟨slot, hslot⟩ := exists_slot? htop
  have hget := get?_of_slot? hslot
  have hcontainer := hm.isContainer hget (List.ne_nil_of_mem hchild)
  obtain ⟨older, younger, hsplit⟩ := List.append_of_mem hchild
  -- the other children are written as before
  have hsame : ∀ {m'}, m'.WellFormed → m.ChangedOnlyAt node m' →
      ∀ sibling ∈ older ++ younger, m'.shapes sibling = m.shapes sibling := by
    intro m' hm' hchanged sibling hsibling
    have hnodup := hm.nodup_children top
    rw [hsplit] at hnodup
    have hmem : sibling ∈ m.children top := by
      rw [hsplit]
      rcases List.mem_append.mp hsibling with h | h
      · exact List.mem_append_left _ h
      · exact List.mem_append_right _ (List.mem_cons_of_mem _ h)
    refine hchanged.shapes_eq hm hm' (hm.contains_of_mem_children hmem) fun hnode => ?_
    rw [hm.eq_of_above hmem hchild hnode hbelow] at hsibling
    exact (List.nodup_middle.mp hnodup).notMem hsibling
  refine ⟨slot.data.front ++ Shape.htmlAll style (older.flatMap m.shapes),
    Shape.htmlAll style (younger.flatMap m.shapes) ++ slot.data.back,
    fun {m'} hm' hchanged => ?_⟩
  have hget' : m'.get? top = some slot.data := (hchanged.get? htop hne).trans hget
  have holder : older.flatMap m'.shapes = older.flatMap m.shapes :=
    List.flatMap_congr fun s hs => hsame hm' hchanged s (List.mem_append_left _ hs)
  have hyounger : younger.flatMap m'.shapes = younger.flatMap m.shapes :=
    List.flatMap_congr fun s hs => hsame hm' hchanged s (List.mem_append_right _ hs)
  rw [hm'.htmlAll_container style hget' hcontainer, forest, hchanged.children htop hne,
    hsplit, List.flatMap_append, List.flatMap_cons, holder, hyounger, Shape.htmlAll_append,
    Shape.htmlAll_append]
  simp only [List.append_assoc]

/-- A node above the changed one is written as something in front of what is written of
the changed node and something behind it, whatever the change. -/
theorem WellFormed.exists_around {node top : NodeId} (habove : m.Above top node) :
    ∃ before after : List Char, ∀ {m'}, m'.WellFormed → m.ChangedOnlyAt node m' →
      Shape.htmlAll style (m'.shapes top) =
        before ++ Shape.htmlAll style (m'.shapes node) ++ after := by
  induction habove using Relation.ReflTransGen.head_induction_on with
  | refl =>
      refine ⟨[], [], fun {m'} _ _ => ?_⟩
      rw [List.nil_append, List.append_nil]
  | @head top child hchild hbelow ih =>
      obtain ⟨front, back, hbeside⟩ := hm.exists_beside style hchild hbelow
      obtain ⟨before, after, haround⟩ := ih
      refine ⟨front ++ before, after ++ back, fun {m'} hm' hchanged => ?_⟩
      rw [hbeside hm' hchanged, haround hm' hchanged]
      simp only [List.append_assoc]

end Around

/-- The same for the document. -/
theorem WellFormed.exists_around_toHtml {m : Markup} (hm : m.WellFormed) (options : HtmlOptions)
    {node : NodeId} (hnode : m.contains node = true) :
    ∃ before after : String, (node = root → after = "") ∧
      ∀ {m'}, m'.WellFormed → m.ChangedOnlyAt node m' →
        m'.toHtml options = before ++ m'.nodeToHtml node options ++ after := by
  by_cases hroot : node = root
  · refine ⟨options.heading, "", fun _ => rfl, fun {m'} _ _ => ?_⟩
    rw [hroot, toHtml, String.append_empty]
  · obtain ⟨before, after, haround⟩ := hm.exists_around options.voidStyle (hm.below_root hnode)
    refine ⟨options.heading ++ String.ofList before, String.ofList after,
      fun h => absurd h hroot, fun {m'} hm' hchanged => ?_⟩
    rw [toHtml, nodeToHtml_eq, haround hm' hchanged, nodeToHtml_eq, String.ofList_append,
      String.ofList_append, String.append_assoc, String.append_assoc, String.append_assoc]

/-! ## A new child -/

section Grow

variable {m : Markup} (hm : m.WellFormed) {parent : NodeId} {data : NodeData}
  (hp : m.appendRefusal? parent = none) (hm' : (m.grow parent data).WellFormed)

include hm hp hm'

/-- In its parent, a new child is written between the older ones and the parent's end. -/
theorem WellFormed.nodeToHtml_grow (options : HtmlOptions) :
    ∃ (held : NodeData) (written : String), m.get? parent = some held ∧
      m.nodeToHtml parent options = written ++ String.ofList held.back ∧
      (m.grow parent data).nodeToHtml parent options =
        written ++ (m.grow parent data).nodeToHtml m.nextId options ++
          String.ofList held.back := by
  obtain ⟨held, hget, hcontainer⟩ := appendRefusal?_eq_none_iff.mp hp
  have hparent := contains_of_get? hget
  have hget' : (m.grow parent data).get? parent = some held := by
    rw [get?_grow, if_neg (ne_nextId hparent), hget]
  have hforest : (m.grow parent data).forest parent =
      m.forest parent ++ (m.grow parent data).shapes m.nextId := by
    have hsame : (m.children parent).flatMap (m.grow parent data).shapes = m.forest parent :=
      List.flatMap_congr fun child hchild =>
        (changedOnlyAt_grow data hparent).shapes_eq hm hm' (hm.contains_of_mem_children hchild)
          (hm.not_above_parent hchild)
    rw [forest, children_grow data hparent, if_pos rfl, List.flatMap_append, hsame,
      List.flatMap_singleton]
  refine ⟨held, String.ofList (held.front ++ Shape.htmlAll options.voidStyle (m.forest parent)),
    hget, ?_, ?_⟩
  · rw [nodeToHtml_eq, hm.htmlAll_container _ hget hcontainer, String.ofList_append]
  · rw [nodeToHtml_eq, nodeToHtml_eq, hm'.htmlAll_container _ hget' hcontainer, hforest,
      Shape.htmlAll_append, ← List.append_assoc, String.ofList_append, String.ofList_append]

theorem WellFormed.toHtml_grow (options : HtmlOptions) :
    ∃ front back : String, m.toHtml options = front ++ back ∧
      (m.grow parent data).toHtml options =
        front ++ (m.grow parent data).nodeToHtml m.nextId options ++ back ∧
      (parent = root → back = "") ∧
      (parent ≠ root → ∃ (e : ElementData) (rest : String),
        m.get? parent = some (.element e) ∧ back = "</" ++ e.tag ++ ">" ++ rest) := by
  obtain ⟨held, written, hget, hold, hnew⟩ := hm.nodeToHtml_grow hp hm' options
  have hparent := contains_of_get? hget
  obtain ⟨before, after, hafter, haround⟩ := hm.exists_around_toHtml options hparent
  refine ⟨before ++ written, String.ofList held.back ++ after, ?_, ?_, ?_, ?_⟩
  · rw [haround hm (.refl m parent), hold]
    simp only [String.append_assoc]
  · rw [haround hm' (changedOnlyAt_grow data hparent), hnew]
    simp only [String.append_assoc]
  · intro hroot
    rw [hroot, hm.get?_root] at hget
    cases hget
    rw [hafter hroot]
    rfl
  · intro hroot
    obtain ⟨data', hget', hcontainer⟩ := appendRefusal?_eq_none_iff.mp hp
    rw [hget] at hget'
    cases hget'
    cases held with
    | document => exact absurd (hm.eq_root hget) hroot
    | text content => cases hcontainer
    | element e => exact ⟨e, after, hget, by rw [NodeData.back, ofList_closing]⟩

end Grow

/-! ## A new attribute -/

/-- What ends the start tag of an element. -/
def ElementData.tagEnd (style : VoidStyle) (e : ElementData) : List Char :=
  if isVoid e.tag then style.terminator else ['>']

/-- What is written of an element behind its start tag. -/
def ElementData.content (style : VoidStyle) (e : ElementData) (below : List Shape) : List Char :=
  if isVoid e.tag then [] else Shape.htmlAll style below ++ closing e.tag

theorem WellFormed.nodeToHtml_element {m : Markup} (hm : m.WellFormed) (options : HtmlOptions)
    {node : NodeId} {e : ElementData} (hget : m.get? node = some (.element e)) :
    m.nodeToHtml node options =
      String.ofList e.opening ++ String.ofList (e.tagEnd options.voidStyle) ++
        String.ofList (e.content options.voidStyle (m.forest node)) := by
  rw [nodeToHtml_eq, hm.shapes_of_get? hget, Shape.htmlAll, Shape.htmlAll, List.append_nil,
    Shape.html, ElementData.tagEnd, ElementData.content, ← String.ofList_append,
    ← String.ofList_append]
  split
  · rw [List.append_nil]
  · rw [List.append_assoc (e.opening ++ ['>'])]

theorem opening_addAttribute (e : ElementData) (a : Attribute) :
    (e.addAttribute a).opening = e.opening ++ a.html := by
  rw [ElementData.opening, ElementData.addAttribute, List.flatMap_append, List.flatMap_singleton,
    ← List.append_assoc]
  rfl

/-- An attribute as it stands in a start tag. -/
theorem ofList_html_attribute (name : String) (value : Option String) :
    String.ofList (Attribute.html ⟨name, value⟩) =
      " " ++ name ++ value.elim "" fun text =>
        "=\"" ++ String.ofList (escapeValue text) ++ "\"" := by
  rw [← String.toList_inj]
  cases value with
  | none => simp [Attribute.html]
  | some text => simp [Attribute.html]

section WithAttribute

variable {m : Markup} (hm : m.WellFormed) {node : NodeId} {e : ElementData} {a : Attribute}
  (hget : m.get? node = some (.element e)) (hm' : (m.withAttribute node a).WellFormed)

include hm hget hm'

theorem WellFormed.nodeToHtml_withAttribute (options : HtmlOptions) :
    (m.withAttribute node a).nodeToHtml node options =
      String.ofList e.opening ++ String.ofList a.html ++
        String.ofList (e.tagEnd options.voidStyle) ++
          String.ofList (e.content options.voidStyle (m.forest node)) := by
  have hget' : (m.withAttribute node a).get? node = some (.element (e.addAttribute a)) :=
    (get?_withAttribute a hget node).trans (if_pos rfl)
  have hforest : (m.withAttribute node a).forest node = m.forest node := by
    rw [forest, children_withAttribute, forest]
    exact List.flatMap_congr fun child hchild =>
      (changedOnlyAt_withAttribute a hget).shapes_eq hm hm' (hm.contains_of_mem_children hchild)
        (hm.not_above_parent hchild)
  rw [hm'.nodeToHtml_element options hget', hforest, opening_addAttribute, String.ofList_append]
  rfl

end WithAttribute

/-! ## The operations -/

/-- A successful operation puts one piece into the document and changes nothing else in
it. A new node is written where its parent ends, in front of the parent's closing tag, or
at the end of the document if that is the parent. A new attribute is written where the
element's attributes end, in front of what ends its start tag. Nodes that are neither the
changed one nor above it are written as before. -/
theorem success_inserts_piece {m : Markup} (hm : Reachable m) (options : HtmlOptions) :
    (∀ (parent id : NodeId) (m' : Markup),
      (∃ tag, appendElement parent tag m = (.ok id, m')) ∨
        (∃ content, appendText parent content m = (.ok id, m')) →
      (∃ front back : String, m.toHtml options = front ++ back ∧
        m'.toHtml options = front ++ m'.nodeToHtml id options ++ back ∧
        (parent = root → back = "") ∧
        (parent ≠ root → ∃ (e : ElementData) (rest : String),
          m.get? parent = some (.element e) ∧ back = "</" ++ e.tag ++ ">" ++ rest)) ∧
      ∀ x, m.contains x = true → ¬ m.Above x parent →
        m'.nodeToHtml x options = m.nodeToHtml x options) ∧
    ∀ (node : NodeId) (name : String) (value : Option String) (m' : Markup),
      setAttribute node name value m = (.ok (), m') →
      (∃ (e : ElementData) (before content after : String),
        m.get? node = some (.element e) ∧
        let opening := String.ofList e.opening
        let tagEnd := String.ofList (e.tagEnd options.voidStyle)
        let piece := " " ++ name ++ value.elim "" fun text =>
          "=\"" ++ String.ofList (escapeValue text) ++ "\""
        m.nodeToHtml node options = opening ++ tagEnd ++ content ∧
        m.toHtml options = (before ++ opening) ++ (tagEnd ++ content ++ after) ∧
        m'.toHtml options = (before ++ opening) ++ piece ++ (tagEnd ++ content ++ after)) ∧
      ∀ x, m.contains x = true → ¬ m.Above x node →
        m'.nodeToHtml x options = m.nodeToHtml x options := by
  have hw := hm.wellFormed
  constructor
  · intro parent id m' h
    obtain ⟨data, hm', happend⟩ : ∃ data, m'.WellFormed ∧ append parent data m = (.ok id, m') := by
      rcases h with ⟨tag, h⟩ | ⟨content, h⟩
      · have hrun := hw.run (.appendElement parent tag)
        rw [Call.run, h] at hrun
        exact ⟨_, hrun, appendElement_eq_ok h⟩
      · have hrun := hw.run (.appendText parent content)
        rw [Call.run, h] at hrun
        exact ⟨_, hrun, h⟩
    obtain ⟨hp, rfl, rfl⟩ := append_eq_ok happend
    have hchanged := changedOnlyAt_grow data (contains_of_appendRefusal? hp)
    exact ⟨hw.toHtml_grow hp hm' options,
      fun x hx habove => hchanged.nodeToHtml_eq hw hm' hx habove options⟩
  · intro node name value m' h
    have hm' := hw.run (.setAttribute node name value)
    rw [Call.run, h] at hm'
    obtain ⟨e, hget, rfl⟩ := setAttribute_eq_ok h
    have hchanged := changedOnlyAt_withAttribute ⟨name, value⟩ hget
    obtain ⟨before, after, -, haround⟩ := hw.exists_around_toHtml options (contains_of_get? hget)
    have hold := hw.nodeToHtml_element options hget
    refine ⟨⟨e, before, _, after, hget, hold, ?_, ?_⟩,
      fun x hx habove => hchanged.nodeToHtml_eq hw hm' hx habove options⟩
    · rw [haround hw (.refl m node), hold]
      simp only [String.append_assoc]
    · rw [haround hm' hchanged, hw.nodeToHtml_withAttribute hget hm', ofList_html_attribute]
      simp only [String.append_assoc]

/-- A text comes into a division that is not the last thing in the document, and a title
to the void element in it. -/
theorem success_inserts_piece_division :
    let m := Markup.empty.runCalls
      [.appendElement root "div", .appendElement ⟨2⟩ "input", .appendText root "end"]
    let texted := Call.run m (.appendText ⟨2⟩ "<")
    let titled := Call.run m (.setAttribute ⟨3⟩ "title" (some "\""))
    (∃ front rest : String, m.toHtml {} = front ++ ("</div>" ++ rest) ∧
      texted.toHtml {} = front ++ "&lt;" ++ ("</div>" ++ rest)) ∧
    (∃ before content after : String,
      m.toHtml {} = (before ++ "<input") ++ (" />" ++ content ++ after) ∧
      titled.toHtml {} =
        (before ++ "<input") ++ " title=\"&quot;\"" ++ (" />" ++ content ++ after)) ∧
    titled.nodeToHtml ⟨4⟩ {} = m.nodeToHtml ⟨4⟩ {} := by
  intro m texted titled
  have hm : Reachable m := Reachable.empty.runCalls _
  obtain ⟨happend, hattribute⟩ := success_inserts_piece hm {}
  obtain ⟨⟨front, back, hold, hnew, -, hback⟩, -⟩ :=
    happend ⟨2⟩ ⟨5⟩ texted (.inr ⟨"<", rfl⟩)
  obtain ⟨e, rest, hget, rfl⟩ := hback (by decide)
  cases hget
  obtain ⟨⟨e', before, content, after, hget', -, hplain, htitled⟩, hsame⟩ :=
    hattribute ⟨3⟩ "title" (some "\"") titled rfl
  cases hget'
  have habove : ¬ m.Above ⟨4⟩ ⟨3⟩ := fun h =>
    absurd (hm.wellFormed.number_le_of_above rfl h) (by decide)
  exact ⟨⟨front, rest, hold, hnew⟩, ⟨before, content, after, hplain, htitled⟩,
    hsame ⟨4⟩ rfl habove⟩

end HtmlComponents.Markup
