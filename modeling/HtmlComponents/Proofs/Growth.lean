import HtmlComponents.Proofs.WellFormed

/-!
# Trees only grow

Nothing that is in a tree is ever taken back. A node stays what it is and where it
is, its children and its attributes keep their places, and new ones come behind
them. That holds over any stretch of a tree's history, with refused operations and
renders that were cut short in it.

A tree is changed in two ways only, and each of the two plainly extends the tree.
What is left is that extending composes, and that programs are runs of calls, which
is known already. The one thing that extending alone does not give is that an
attribute cannot be set again: setting looks at the name first, so it matters that
attributes which were once set have names that are names.
-/

namespace HtmlComponents

namespace Markup

/-- What a node may have become: an element may have more attributes. -/
inductive NodeData.Extended : NodeData → NodeData → Prop where
  | document : Extended .document .document
  | text (content : String) : Extended (.text content) (.text content)
  | element {e e' : ElementData} (htag : e'.tag = e.tag)
      (hattributes : e.attributes <+: e'.attributes) : Extended (.element e) (.element e')

theorem NodeData.Extended.refl (data : NodeData) : data.Extended data := by
  cases data with
  | document => exact .document
  | text content => exact .text content
  | element e => exact .element rfl (List.prefix_refl _)

theorem NodeData.Extended.trans {a b c : NodeData} (hab : a.Extended b)
    (hbc : b.Extended c) : a.Extended c := by
  cases hab with
  | document => exact hbc
  | text content => exact hbc
  | element htag hattributes =>
      cases hbc with
      | element htag' hattributes' =>
          exact .element (htag'.trans htag) (hattributes.trans hattributes')

/-- The second tree has all that the first tree has, in the same places. -/
structure Extends (m m' : Markup) : Prop where
  get? : ∀ {id data}, m.get? id = some data →
    ∃ data', m'.get? id = some data' ∧ data.Extended data'
  parent? : ∀ {id}, m.contains id = true → m'.parent? id = m.parent? id
  children : ∀ id, m.children id <+: m'.children id

theorem Extends.contains {m m' : Markup} (h : m.Extends m') {id : NodeId}
    (hid : m.contains id = true) : m'.contains id = true := by
  obtain ⟨slot, hslot⟩ := exists_slot? hid
  obtain ⟨data', hget, -⟩ := h.get? (get?_of_slot? hslot)
  exact contains_of_get? hget

theorem Extends.refl (m : Markup) : m.Extends m where
  get? h := ⟨_, h, .refl _⟩
  parent? _ := rfl
  children _ := List.prefix_refl _

theorem Extends.trans {a b c : Markup} (hab : a.Extends b) (hbc : b.Extends c) :
    a.Extends c where
  get? := by
    intro id data hget
    obtain ⟨data', hget', hdata'⟩ := hab.get? hget
    obtain ⟨data'', hget'', hdata''⟩ := hbc.get? hget'
    exact ⟨data'', hget'', hdata'.trans hdata''⟩
  parent? := by
    intro id hid
    rw [hbc.parent? (hab.contains hid), hab.parent? hid]
  children id := (hab.children id).trans (hbc.children id)

theorem Extends.size_le {m m' : Markup} (h : m.Extends m') : m.size ≤ m'.size := by
  have hlast : m.contains ⟨m.size⟩ = true :=
    contains_iff.mpr ⟨(contains_iff.mp m.contains_root).2, Nat.le_refl _⟩
  exact (contains_iff.mp (h.contains hlast)).2

theorem Extends.get?_text {m m' : Markup} (h : m.Extends m') {id : NodeId} {content : String}
    (hget : m.get? id = some (.text content)) : m'.get? id = some (.text content) := by
  obtain ⟨data', hget', hdata'⟩ := h.get? hget
  cases hdata'
  exact hget'

/-- What could be appended to before can be appended to still. -/
theorem Extends.appendRefusal? {m m' : Markup} (h : m.Extends m') {p : NodeId}
    (hp : m.appendRefusal? p = none) : m'.appendRefusal? p = none := by
  obtain ⟨data, hget, hdata⟩ := appendRefusal?_eq_none_iff.mp hp
  obtain ⟨data', hget', hextended⟩ := h.get? hget
  refine appendRefusal?_eq_none_iff.mpr ⟨data', hget', ?_⟩
  cases hextended with
  | document => rfl
  | text content => exact hdata
  | element htag hattributes =>
      rw [NodeData.isContainer] at hdata ⊢
      rwa [htag]

/-! ## Kept by every operation -/

theorem extends_grow {m : Markup} {parent : NodeId} (data : NodeData)
    (hp : m.contains parent = true) : m.Extends (m.grow parent data) where
  get? := by
    intro id held hget
    rw [get?_grow, if_neg (ne_nextId (contains_of_get? hget))]
    exact ⟨held, hget, .refl held⟩
  parent? := by
    intro id hid
    rw [parent?_grow, if_neg (ne_nextId hid)]
  children := by
    intro id
    rw [children_grow data hp]
    split
    · next hid =>
        rw [hid]
        exact List.prefix_append _ _
    · exact List.prefix_refl _

theorem extends_withAttribute {m : Markup} {node : NodeId} (a : Attribute)
    {e : ElementData} (he : m.get? node = some (.element e)) :
    m.Extends (m.withAttribute node a) where
  get? := by
    intro id held hget
    rw [get?_withAttribute a he]
    by_cases hid : id = node
    · rw [hid, he] at hget
      cases hget
      rw [if_pos hid]
      exact ⟨_, rfl, .element rfl (List.prefix_append _ _)⟩
    · rw [if_neg hid]
      exact ⟨held, hget, .refl held⟩
  parent? _ := parent?_withAttribute m node a _
  children := by
    intro id
    have hsame := children_withAttribute m node a id
    exact ⟨[], by rw [List.append_nil, hsame]⟩

theorem extends_append (parent : NodeId) (data : NodeData) (m : Markup) :
    m.Extends (append parent data m).2 := by
  rw [append_eq]
  split
  · exact .refl m
  · next hp => exact extends_grow data (contains_of_appendRefusal? hp)

theorem extends_call (m : Markup) (call : Call) : m.Extends (call.run m) := by
  cases call with
  | appendElement parent tag =>
      rw [Call.run, appendElement_eq]
      split
      · exact extends_append parent _ m
      · exact .refl m
  | appendText parent content => exact extends_append parent _ m
  | setAttribute node name value =>
      rw [Call.run, setAttribute_eq]
      split
      · split
        · exact .refl m
        · next hn =>
            obtain ⟨e, he, -⟩ := attributeRefusal?_eq_none_iff.mp hn
            exact extends_withAttribute _ he
      · exact .refl m

theorem Leads.extends {m m' : Markup} (h : Leads m m') : m.Extends m' :=
  h.keeps (fun _ call hext => hext.trans (extends_call _ call)) (.refl m)

/-! ## Kept over time -/

/-- One operation on a tree, a table of attributes or a render, whatever came of it. -/
inductive Changes (m : Markup) : Markup → Prop where
  | call (call : Call) : Changes m (call.run m)
  | emit (node : NodeId) (fields : List Field) (events : Array RenderEvent) :
      Changes m (Drawing.emit node fields ⟨m, events⟩).2.markup
  | render {κ σ : Type} [KeyFamily κ] (env : Environment κ) (parent : NodeId)
      (c : Component κ σ) (events : Array RenderEvent) (state : σ) :
      Changes m (c.render env parent ⟨⟨m, events⟩, state⟩).2.markup

theorem Changes.leads {m m' : Markup} (h : Changes m m') : Leads m m' := by
  cases h with
  | call call => exact leads_call m call
  | emit node fields events => exact Drawing.runsCalls_emit node fields ⟨m, events⟩
  | render env parent c events state =>
      exact c.runsCalls_render env parent ⟨⟨m, events⟩, state⟩

theorem Reachable.changes {m m' : Markup} (hm : Reachable m) (h : Changes m m') :
    Reachable m' := by
  cases h with
  | call call => exact hm.call call
  | emit node fields events => exact hm.emit node fields events
  | render env parent c events state => exact hm.render env parent c events state

/-- The tree that the second one is may become of the first one. -/
abbrev Later : Markup → Markup → Prop := Relation.ReflTransGen Changes

theorem Later.extends {m m' : Markup} (h : Later m m') : m.Extends m' := by
  induction h with
  | refl => exact .refl m
  | tail _ hchange ih => exact ih.trans hchange.leads.extends

theorem Reachable.later {m m' : Markup} (hm : Reachable m) (h : Later m m') :
    Reachable m' := by
  induction h with
  | refl => exact hm
  | tail _ hchange ih => exact ih.changes hchange

/-! ## An attribute is set once -/

theorem ElementData.Valid.attribute?_eq {e : ElementData} (he : e.Valid) {a : Attribute}
    (ha : a ∈ e.attributes) : e.attribute? a.name = some a := by
  rw [attribute?]
  cases hfind : e.attributes.find? fun b => b.name = a.name with
  | none =>
      rw [List.find?_eq_none] at hfind
      exact absurd (decide_eq_true rfl) (hfind a ha)
  | some b =>
      have hname : b.name = a.name := by simpa using List.find?_some hfind
      have hnodup := he.nodup_attributeNames
      rw [List.inj_on_of_nodup_map hnodup (List.mem_of_find?_eq_some hfind) ha hname]

/-- An attribute that an element has is refused, whatever its value were to be. -/
theorem WellFormed.setAttribute_again {m : Markup} (hm : m.WellFormed) {node : NodeId}
    {e : ElementData} (he : m.get? node = some (.element e)) {a : Attribute}
    (ha : a ∈ e.attributes) (value : Option String) :
    setAttribute node a.name value m = (.error (.duplicateAttribute e.tag a.name), m) := by
  have hvalid := hm.valid he
  have hhas : e.hasAttribute a.name = true := by
    rw [ElementData.hasAttribute, hvalid.attribute?_eq ha]
    rfl
  have hrefusal : m.attributeRefusal? node a.name =
      some (.duplicateAttribute e.tag a.name) := by
    rw [attributeRefusal?, he, settingRefusal?, if_pos hhas]
  rw [setAttribute_eq, if_pos (hvalid.isName_attribute a ha), hrefusal]

/-- Whatever becomes of a tree, a node that it has is still there: the document is the
document, a text is the same text, an element has the same tag. The node has the
same parent, and its children and its attributes are still the first ones. So an
attribute has its value and its place for good, and setting it again is refused. -/
theorem later_keeps {m m' : Markup} (hm : Reachable m) (hlater : Later m m')
    {id : NodeId} (hid : m.contains id = true) :
    m'.contains id = true ∧
    (m.get? id = some .document → m'.get? id = some .document) ∧
    (∀ content, m.get? id = some (.text content) → m'.get? id = some (.text content)) ∧
    m'.parent? id = m.parent? id ∧
    m.children id <+: m'.children id ∧
    (∀ e, m.get? id = some (.element e) →
      ∃ e', m'.get? id = some (.element e') ∧ e'.tag = e.tag ∧
        e.attributes <+: e'.attributes ∧
        ∀ (place : Nat) (a : Attribute), e.attributes[place]? = some a →
          e'.attributes[place]? = some a ∧ e'.attribute? a.name = some a ∧
          ∀ value, setAttribute id a.name value m' =
            (.error (.duplicateAttribute e.tag a.name), m')) := by
  have hext := hlater.extends
  have hm' := (hm.later hlater).wellFormed
  refine ⟨hext.contains hid, ?_, fun content => hext.get?_text, hext.parent? hid,
    hext.children id, ?_⟩
  · intro hget
    obtain ⟨data', hget', hdata'⟩ := hext.get? hget
    cases hdata'
    exact hget'
  · intro e hget
    obtain ⟨data', hget', hdata'⟩ := hext.get? hget
    cases hdata' with
    | @element _ e' htag hattributes =>
        refine ⟨e', hget', htag, hattributes, fun place a hplace => ?_⟩
        have hplace' : e'.attributes[place]? = some a := by
          obtain ⟨more, hmore⟩ := hattributes
          obtain ⟨hlt, -⟩ := List.getElem?_eq_some_iff.mp hplace
          rw [← hmore, List.getElem?_append_left hlt, hplace]
        have hmem := List.mem_of_getElem? hplace'
        -- names of an element do not repeat, so the one found by its name is this one
        refine ⟨hplace', (hm'.valid hget').attribute?_eq hmem, fun value => ?_⟩
        rw [hm'.setAttribute_again hget' hmem, htag]

/-- A render into a division is cut short after it has drawn there, and then a child
is refused. The division's class is what it was, and no other class can be set. -/
theorem later_keeps_division :
    let m := Markup.empty.runCalls
      [.appendElement root "div", .setAttribute ⟨2⟩ "class" (some "plain")]
    let page : Component Empty Unit := .custom "Gauge" fun _ =>
      [.element "p" [] [.fail (.component "Gauge" "no data")]]
    let drawn := (page.render Environment.empty ⟨2⟩ ⟨⟨m, #[]⟩, ()⟩).2.markup
    let m' := Call.run drawn (.appendText ⟨9⟩ "lost")
    m'.children ⟨2⟩ = [⟨3⟩] ∧
      setAttribute ⟨2⟩ "class" (some "grand") m' =
        (.error (.duplicateAttribute "div" "class"), m') := by
  intro m page drawn m'
  have hm : Reachable m := Reachable.empty.runCalls _
  have hlater : Later m m' :=
    (Relation.ReflTransGen.single (.render Environment.empty ⟨2⟩ page #[] ())).tail (.call _)
  have hid : m.contains ⟨2⟩ = true := rfl
  obtain ⟨-, -, -, -, -, helement⟩ := later_keeps hm hlater hid
  obtain ⟨e', -, -, -, hattributes⟩ := helement ⟨"div", [.valued "class" "plain"]⟩ rfl
  exact ⟨rfl, (hattributes 0 _ rfl).2.2 _⟩

end Markup

end HtmlComponents
