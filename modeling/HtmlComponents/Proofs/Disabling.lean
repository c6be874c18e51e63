import HtmlComponents.Proofs.Graft
import HtmlComponents.Proofs.Inheritance

/-!
# What built-in elements see of their environment

A page that is written with the built-in elements, groups and wrappers alone is always
rendered, and its tree can be told from the page: `Page.placed` lists its leaves in the
order in which they are drawn, each with the node that becomes its parent and with the
wrappers around it. The environment does not occur there. Leaf number `k` becomes node
number `k + 2`, and what that node holds depends on the environment through one bit, whether
controls are disabled where the leaf stands.

So two environments that agree on this bit give the same tree. Where they do not agree, the
two trees have the same nodes in the same places. A leaf can tell them apart if it is a
control that is not disabled by itself, and if no wrapper around it has settled the
question; the table of every control ends with the flag in question, so what the control
shows in addition is the last of its attributes.
-/

namespace HtmlComponents

open HtmlComponents.Markup HtmlComponents.Element

/-! ## Receiving nodes one by one -/

namespace Markup

/-- The second tree is the first one after it has received nodes, each as the last child of
the given parent. -/
inductive Receives : Markup → List (NodeId × NodeData) → Markup → Prop where
  | nil (m : Markup) : Receives m [] m
  | cons {m m' : Markup} {p : NodeId} {data : NodeData} {rows : List (NodeId × NodeData)}
      (hp : m.contains p = true) (h : Receives (m.grow p data) rows m') :
      Receives m ((p, data) :: rows) m'

namespace Receives

variable {m m' m'' : Markup} {rows rows' : List (NodeId × NodeData)}

theorem append (h : Receives m rows m') (h' : Receives m' rows' m'') :
    Receives m (rows ++ rows') m'' := by
  induction h with
  | nil => exact h'
  | cons hp _ ih => exact .cons hp (ih h')

theorem unique (h : Receives m rows m') (h' : Receives m rows m'') : m' = m'' := by
  induction h with
  | nil =>
      cases h'
      rfl
  | cons _ _ ih =>
      cases h' with
      | cons _ h' => exact ih h'

theorem size (h : Receives m rows m') : m'.size = m.size + rows.length := by
  induction h with
  | nil => rfl
  | cons _ _ ih =>
      rw [ih, size_grow, List.length_cons]
      omega

theorem keeps (h : Receives m rows m') {id : NodeId} (hid : m.contains id = true) :
    m'.get? id = m.get? id ∧ m'.parent? id = m.parent? id := by
  induction h with
  | nil => exact ⟨rfl, rfl⟩
  | cons hp _ ih =>
      rw [(ih ((contains_grow _ _ _ id).mpr (.inl hid))).1,
        (ih ((contains_grow _ _ _ id).mpr (.inl hid))).2, get?_grow, parent?_grow,
        if_neg (ne_nextId hid), if_neg (ne_nextId hid)]
      exact ⟨rfl, rfl⟩

theorem appendRefusal? (h : Receives m rows m') {p : NodeId} (hp : m.appendRefusal? p = none) :
    m'.appendRefusal? p = none := by
  rw [Markup.appendRefusal?, (h.keeps (contains_of_appendRefusal? hp)).1]
  exact hp

/-- The nodes are numbered in the order in which they are received. -/
theorem row (h : Receives m rows m') {k : Nat} {p : NodeId} {data : NodeData}
    (hrow : rows[k]? = some (p, data)) :
    m'.get? ⟨m.size + k + 1⟩ = some data ∧ m'.parent? ⟨m.size + k + 1⟩ = some p := by
  induction h generalizing k with
  | nil => cases hrow
  | @cons m m' q held rows hq h ih =>
      cases k with
      | zero =>
          cases hrow
          have hnext : (m.grow p data).contains m.nextId = true :=
            (contains_grow m p data m.nextId).mpr (.inr rfl)
          show m'.get? m.nextId = some data ∧ m'.parent? m.nextId = some p
          rw [(h.keeps hnext).1, (h.keeps hnext).2, get?_grow, parent?_grow, if_pos rfl,
            if_pos rfl]
          exact ⟨rfl, rfl⟩
      | succ k =>
          have hplace : m.size + (k + 1) + 1 = (m.grow q held).size + k + 1 := by
            rw [size_grow]
            omega
          rw [hplace]
          exact ih hrow

end Receives

/-- Nodes that are received in the same places give trees that are the same to look at from
afar. -/
theorem Receives.sameFrame {m m' n n' : Markup} {rows rows' : List (NodeId × NodeData)}
    (h : Receives m rows m') (h' : Receives n rows' n')
    (hparents : rows.map Prod.fst = rows'.map Prod.fst) (hframe : m.SameFrame n) :
    m'.SameFrame n' := by
  induction h generalizing n rows' with
  | nil =>
      cases h' with
      | nil => exact hframe
      | cons => cases hparents
  | cons hp h ih =>
      cases h' with
      | nil => cases hparents
      | cons hp' h' =>
          rw [List.map_cons, List.map_cons, List.cons.injEq] at hparents
          obtain ⟨hparent, hparents⟩ := hparents
          cases hparent
          exact ih h' hparents (hframe.grow hp hp' _ _)

/-! An element that gets its attributes one by one after it was appended might have been
appended with them. -/

theorem Maps.modify_grow (maps : Maps) (p : NodeId) (data : NodeData)
    (change : NodeData → NodeData) :
    (maps.grow p data).modify maps.nextId change = maps.grow p (change data) := by
  have hnodes : (maps.nodes.push data).modify maps.nodes.size change =
      maps.nodes.push (change data) := by
    refine Array.ext_getElem? fun place => ?_
    rw [Array.getElem?_modify, Array.getElem?_push, Array.getElem?_push]
    by_cases hplace : place = maps.nodes.size
    · rw [if_pos hplace, if_pos hplace, if_pos hplace.symm]
      rfl
    · rw [if_neg hplace, if_neg hplace, if_neg (Ne.symm hplace)]
  simp only [grow, link?, insert, modify, nextId]
  rcases (maps.children.insert ⟨maps.nodes.size + 1⟩ []).get? p with _ | siblings
  · simp only [Option.map_none, Option.getD_none, hnodes]
  · simp only [Option.map_some, Option.getD_some, hnodes]

theorem withAttribute_grow (m : Markup) (p : NodeId) (e : ElementData) (a : Attribute) :
    (m.grow p (.element e)).withAttribute m.nextId a = m.grow p (.element (e.addAttribute a)) :=
  Markup.ext (m.maps.modify_grow p (.element e) (NodeData.addAttribute a))

theorem withAttributes_grow (m : Markup) (p : NodeId) (e : ElementData)
    (attributes : List Attribute) :
    (m.grow p (.element e)).withAttributes m.nextId attributes =
      m.grow p (.element { e with attributes := e.attributes ++ attributes }) := by
  induction attributes generalizing e with
  | nil => rw [List.append_nil, withAttributes, List.foldl_nil]
  | cons a attributes ih =>
      rw [withAttributes, List.foldl_cons, ← withAttributes, withAttribute_grow, ih,
        ElementData.addAttribute, List.append_assoc, List.singleton_append]

end Markup

/-! ## Programs that always draw the same nodes -/

section Adds

variable {σ : Type} {m : Markup} {p : NodeId}

/-- Found with the tree `m`, the program succeeds and adds the nodes. -/
def Adds (m : Markup) (rows : List (NodeId × NodeData)) (x : Rendering σ Unit) : Prop :=
  ∀ events state, ∃ m' events', x ⟨⟨m, events⟩, state⟩ = (.ok (), ⟨⟨m', events'⟩, state⟩) ∧
    m.Receives rows m'

theorem adds_pure (m : Markup) : Adds m [] (pure () : Rendering σ Unit) :=
  fun events _ => ⟨m, events, rfl, .nil m⟩

theorem Adds.andThen {rows rows' : List (NodeId × NodeData)} {x y : Rendering σ Unit}
    (hx : Adds m rows x) (hy : ∀ m', m.Receives rows m' → Adds m' rows' y) :
    Adds m (rows ++ rows') (x >>= fun _ => y) := by
  intro events state
  obtain ⟨m', events', hfirst, hreceives⟩ := hx events state
  obtain ⟨m'', events'', hsecond, hreceives'⟩ := hy m' hreceives events' state
  refine ⟨m'', events'', ?_, hreceives.append hreceives'⟩
  rw [bind_apply, hfirst]
  exact hsecond

theorem Adds.report {rows : List (NodeId × NodeData)} {x : Rendering σ Unit} (h : Adds m rows x)
    (event : RenderEvent) : Adds m rows (Rendering.report event >>= fun _ => x) := by
  intro events state
  obtain ⟨m', events', hx, hreceives⟩ := h (events.push event) state
  refine ⟨m', events', ?_, hreceives⟩
  rw [bind_apply, Rendering.report_apply]
  exact hx

/-- Where a node may have children, a text becomes its last child. -/
theorem text_grow (hp : m.appendRefusal? p = none) (content : String)
    (events : Array RenderEvent) (state : σ) :
    (do let _ ← (Rendering.draw (Drawing.build (appendText p content)) : Rendering σ NodeId) :
        Rendering σ Unit) ⟨⟨m, events⟩, state⟩ =
      (.ok (), ⟨⟨m.grow p (.text content), events⟩, state⟩) := by
  rw [bind_apply, Rendering.draw, Drawing.build, appendText, append_eq, hp]
  rfl

theorem adds_text (hp : m.appendRefusal? p = none) (content : String) :
    Adds m [(p, .text content)]
      (do let _ ← (Rendering.draw (Drawing.build (appendText p content)) : Rendering σ NodeId)) :=
  fun events state => ⟨m.grow p (.text content), events, text_grow hp content events state,
    .cons (contains_of_appendRefusal? hp) (.nil _)⟩

/-- Where a node may have children, an element with a table of attributes becomes its last
child, each attribute is reported, and its content is drawn inside it. -/
theorem enclose_grow {tag : String} {fields : List Field} (hp : m.appendRefusal? p = none)
    (htag : isName tag = true) (hfields : Field.IsTable fields)
    (content : NodeId → Rendering σ Unit) (events : Array RenderEvent) (state : σ) :
    ∃ events', enclose tag fields content p ⟨⟨m, events⟩, state⟩ =
        content m.nextId
          ⟨⟨m.grow p (.element ⟨tag, Field.attributes fields⟩), events'⟩, state⟩ ∧
      events'.toList =
        events.toList ++ (Field.attributes fields).map Drawing.attributeEvent := by
  have hget : (m.grow p (.element (.ofTag tag))).get? m.nextId = some (.element (.ofTag tag)) := by
    rw [get?_grow, if_pos rfl]
  obtain ⟨events', hemit⟩ := Drawing.emit_ok hget hfields.isName_attributes
    hfields.nodup_attributes events
  have hevents := Drawing.events_emit hemit
  rw [withAttributes_grow, ElementData.ofTag, List.nil_append] at hemit
  have happend : Rendering.draw (Drawing.build (appendElement p tag)) ⟨⟨m, events⟩, state⟩ =
      (.ok m.nextId, ⟨⟨m.grow p (.element (.ofTag tag)), events⟩, state⟩) := by
    rw [Rendering.draw, Drawing.build, appendElement_eq, if_pos htag, append_eq, hp]
    rfl
  refine ⟨events', ?_, hevents⟩
  rw [enclose, bind_apply, happend]
  simp only []
  rw [bind_apply, Rendering.draw, ElementData.ofTag, hemit]
  rfl

theorem adds_enclose {tag : String} {fields : List Field} (hp : m.appendRefusal? p = none)
    (htag : isName tag = true) (hfields : Field.IsTable fields)
    {rows : List (NodeId × NodeData)} {content : NodeId → Rendering σ Unit}
    (h : Adds (m.grow p (.element ⟨tag, Field.attributes fields⟩)) rows (content m.nextId)) :
    Adds m ((p, .element ⟨tag, Field.attributes fields⟩) :: rows)
      (enclose tag fields content p) := by
  intro events state
  obtain ⟨events', henclose, -⟩ := enclose_grow hp htag hfields content events state
  obtain ⟨m', events'', hcontent, hreceives⟩ := h events' state
  exact ⟨m', events'', henclose.trans hcontent,
    .cons (contains_of_appendRefusal? hp) hreceives⟩

end Adds

/-! ## Pages of built-in elements -/

/-- Pages that are written with the built-in elements, with groups, and with wrappers that
set values of an environment. -/
inductive Page (κ : Type) [KeyFamily κ] where
  | control (control : Control)
  | text (content : String)
  | division (division : Division (Page κ))
  | label (label : Label (Page κ))
  | group (members : List (Page κ))
  | wrapped (page : Page κ) (batch : Overrides κ)

/-- What a page draws one node for. -/
inductive Leaf where
  | control (control : Control)
  | text (content : String)
  | division (id : Option String) (classes : List String)
  | label (target id : Option String) (classes : List String)

/-- A leaf in its place. -/
structure Placed (κ : Type) [KeyFamily κ] where
  /-- The node that becomes the parent of the leaf's node. -/
  parent : NodeId
  leaf : Leaf
  /-- What the wrappers around the leaf set, the outermost first. -/
  around : List (Overrides κ)

/-- Whether a control is disabled by itself. -/
def Element.Control.disabled : Control → Bool
  | .radio r => r.disabled
  | .checkbox b => b.disabled
  | .textField f => f.disabled

/-- What the node of a leaf holds. -/
def Leaf.data (formDisabled : Bool) : Leaf → NodeData
  | control c => .element ⟨"input", Field.attributes (c.table formDisabled)⟩
  | text content => .text content
  | division id classes => .element ⟨"div", Field.attributes (Division.fields id classes)⟩
  | label target id classes =>
    .element ⟨"label", Field.attributes (Label.fields target id classes)⟩

variable {κ : Type} [KeyFamily κ]

/-- The environment inside wrappers. -/
def Environment.within (env : Environment κ) (around : List (Overrides κ)) : Environment κ :=
  around.foldl derive env

namespace Placed

/-- What the leaf's node holds when the page is rendered in an environment. -/
def data (env : Environment κ) (placed : Placed κ) : NodeData :=
  placed.leaf.data (env.within placed.around).formDisabled

/-- The leaf is a control that is not disabled by itself, and no wrapper around it sets
whether controls are disabled. -/
def Exposed (placed : Placed κ) : Prop :=
  (∃ c, placed.leaf = .control c ∧ c.disabled = false) ∧
    ∀ batch ∈ placed.around, ∀ entry ∈ batch.entries, entry.key ≠ .formDisabled

end Placed

namespace Page

mutual

/-- The page as a component. -/
def component {σ : Type} : Page κ → Component κ σ
  | control c => .control c
  | text content => .text content
  | division ⟨children, id, classes⟩ => .division ⟨components children, id, classes⟩
  | label ⟨children, target, id, classes⟩ => .label ⟨components children, target, id, classes⟩
  | group members => .group (components members)
  | wrapped page batch => page.component.withOverrides batch

def components {σ : Type} : List (Page κ) → List (Component κ σ)
  | [] => []
  | page :: pages => page.component :: components pages

end

mutual

/-- The leaves of a page in order, when the page is rendered inside wrappers, under a node of
a tree that has `size` nodes. -/
def placed (around : List (Overrides κ)) (p : NodeId) (size : Nat) : Page κ → List (Placed κ)
  | control c => [⟨p, .control c, around⟩]
  | text content => [⟨p, .text content, around⟩]
  | division ⟨children, id, classes⟩ =>
    ⟨p, .division id classes, around⟩ :: placedAll around ⟨size + 1⟩ (size + 1) children
  | label ⟨children, target, id, classes⟩ =>
    ⟨p, .label target id classes, around⟩ :: placedAll around ⟨size + 1⟩ (size + 1) children
  | group members => placedAll around p size members
  | wrapped page batch => page.placed (around ++ [batch]) p size

def placedAll (around : List (Overrides κ)) (p : NodeId) (size : Nat) :
    List (Page κ) → List (Placed κ)
  | [] => []
  | page :: pages =>
    let front := page.placed around p size
    front ++ placedAll around p (size + front.length) pages

end

/-- The leaves of a whole page, which is rendered under the root of an empty tree. -/
def leaves (page : Page κ) : List (Placed κ) := page.placed [] root 1

end Page

/-- The nodes of leaves, with their parents. -/
def rowsOf (env : Environment κ) (leaves : List (Placed κ)) : List (NodeId × NodeData) :=
  leaves.map fun placed => (placed.parent, placed.data env)

theorem length_rowsOf (env : Environment κ) (leaves : List (Placed κ)) :
    (rowsOf env leaves).length = leaves.length := List.length_map _

namespace Page

variable {σ : Type}

open Component

/-- A new element that is not void may have children. -/
theorem appendRefusal?_grow (m : Markup) (p : NodeId) {tag : String} (htag : isVoid tag = false)
    (attributes : List Attribute) :
    (m.grow p (.element ⟨tag, attributes⟩)).appendRefusal? m.nextId = none := by
  refine appendRefusal?_eq_none_iff.mpr ⟨.element ⟨tag, attributes⟩, ?_, ?_⟩
  · rw [get?_grow, if_pos rfl]
  · rw [NodeData.isContainer, htag]
    rfl

mutual

/-- A page adds its leaves to the tree, wherever it is rendered. -/
theorem adds (env : Environment κ) (around : List (Overrides κ)) {m : Markup} {p : NodeId}
    (hp : m.appendRefusal? p = none) :
    (page : Page κ) → Adds m (rowsOf env (page.placed around p m.size))
      ((page.component : Component κ σ).render (env.within around) p)
  | .control c => by
      rw [component, render_control, placed]
      exact (adds_enclose hp (by decide) (c.isTable_table _) (adds_pure _)).report _
  | .text content => by
      rw [component, render, placed]
      exact (adds_text hp content).report _
  | .division ⟨children, id, classes⟩ => by
      rw [component, render_division, placed]
      refine (adds_enclose hp (by decide) (Division.isTable_fields id classes) ?_).report _
      have hadds := addsAll env around (appendRefusal?_grow m p
        (show isVoid "div" = false by decide)
        (Field.attributes (Division.fields id classes))) children
      rwa [size_grow] at hadds
  | .label ⟨children, target, id, classes⟩ => by
      rw [component, render_label, placed]
      refine (adds_enclose hp (by decide) (Label.isTable_fields target id classes) ?_).report _
      have hadds := addsAll env around (appendRefusal?_grow m p
        (show isVoid "label" = false by decide)
        (Field.attributes (Label.fields target id classes))) children
      rwa [size_grow] at hadds
  | .group members => by
      rw [component, render, placed]
      exact addsAll env around hp members
  | .wrapped page batch => by
      have hadds := adds env (around ++ [batch]) hp page
      rw [Environment.within, List.foldl_append] at hadds
      rw [component, withOverrides, render, placed]
      exact Adds.report hadds _

theorem addsAll (env : Environment κ) (around : List (Overrides κ)) {m : Markup} {p : NodeId}
    (hp : m.appendRefusal? p = none) :
    (pages : List (Page κ)) → Adds m (rowsOf env (placedAll around p m.size pages))
      (renderAll (env.within around) p (components pages : List (Component κ σ)))
  | [] => by
      rw [components, renderAll, placedAll]
      exact adds_pure m
  | page :: pages => by
      rw [components, renderAll, placedAll, rowsOf, List.map_append, ← rowsOf, ← rowsOf]
      refine (adds env around hp page).andThen fun m' hreceives => ?_
      have hadds := addsAll env around (hreceives.appendRefusal? hp) pages
      rwa [hreceives.size, length_rowsOf] at hadds

end

/-- Every page is rendered, and its tree is the empty tree with the page's leaves added. -/
theorem receives_renderFresh (page : Page κ) (env : Environment κ) (state : σ) :
    ∃ m, (renderFresh (page.component : Component κ σ) env state).result = .ok m ∧
      Markup.empty.Receives (rowsOf env page.leaves) m := by
  have hadds : Adds Markup.empty (rowsOf env page.leaves)
      ((page.component : Component κ σ).render env root) := page.adds env [] rfl
  obtain ⟨m, events, hrender, hreceives⟩ :=
    hadds #[.renderStart (page.component : Component κ σ).componentType] state
  refine ⟨m, ?_, hreceives⟩
  rw [result_renderFresh, Stage.begun, hrender]
  rfl

end Page

/-! ## What a leaf can tell -/

namespace Environment

variable {env env' : Environment κ} {around : List (Overrides κ)}

theorem formDisabled_within_congr (h : env.formDisabled = env'.formDisabled) :
    (env.within around).formDisabled = (env'.within around).formDisabled := by
  induction around generalizing env env' with
  | nil => exact h
  | cons batch around ih =>
      have hderived : (env.derive batch).formDisabled = (env'.derive batch).formDisabled := by
        rw [formDisabled_derive, formDisabled_derive, h]
      exact ih hderived

/-- Wrappers that have nothing to say on it leave the question to the environment. -/
theorem formDisabled_within_of_unset
    (h : ∀ batch ∈ around, ∀ entry ∈ batch.entries, entry.key ≠ .formDisabled) :
    (env.within around).formDisabled = env.formDisabled := by
  induction around generalizing env with
  | nil => rfl
  | cons batch around ih =>
      have hbatch : batch.lookup? .formDisabled = none := by
        rw [← Option.not_isSome_iff_eq_none]
        intro hset
        obtain ⟨entry, hentry, hkey⟩ := Overrides.sets_iff.mp hset
        exact h batch List.mem_cons_self entry hentry hkey
      show ((env.derive batch).within around).formDisabled = env.formDisabled
      rw [ih fun other hother => h other (List.mem_cons_of_mem batch hother),
        formDisabled_derive, hbatch]
      rfl

/-- A wrapper that sets it settles the question for what is inside. -/
theorem formDisabled_within_of_set
    (h : ∃ batch ∈ around, ∃ entry ∈ batch.entries, entry.key = .formDisabled) :
    (env.within around).formDisabled = (env'.within around).formDisabled := by
  induction around generalizing env env' with
  | nil =>
      obtain ⟨batch, hbatch, -⟩ := h
      cases hbatch
  | cons batch around ih =>
      by_cases hhead : batch.sets .formDisabled = true
      · obtain ⟨value, hvalue⟩ := Option.isSome_iff_exists.mp hhead
        have hderived : (env.derive batch).formDisabled = (env'.derive batch).formDisabled := by
          rw [formDisabled_derive, formDisabled_derive, hvalue]
          rfl
        show ((env.derive batch).within around).formDisabled =
          ((env'.derive batch).within around).formDisabled
        exact formDisabled_within_congr hderived
      · obtain ⟨other, hother, hset⟩ := h
        rcases List.mem_cons.mp hother with rfl | hother
        · exact absurd (Overrides.sets_iff.mpr hset) hhead
        · exact ih ⟨other, hother, hset⟩

end Environment

namespace Element.Control

/-- The last thing in a control's table is whether it is disabled, and nothing else in it
looks at the form. -/
theorem exists_table_eq (c : Control) :
    ∃ front, ∀ formDisabled,
      c.table formDisabled = front ++ [.flag "disabled" (c.disabled || formDisabled)] := by
  refine ⟨(c.table false).dropLast, fun formDisabled => ?_⟩
  cases c <;> rfl

theorem attributes_table_of_disabled {c : Control} (h : c.disabled = true)
    (formDisabled formDisabled' : Bool) :
    Field.attributes (c.table formDisabled) = Field.attributes (c.table formDisabled') := by
  obtain ⟨front, hfront⟩ := c.exists_table_eq
  rw [hfront, hfront, h, Bool.true_or, Bool.true_or]

theorem attributes_table_true {c : Control} (h : c.disabled = false) :
    Field.attributes (c.table true) = Field.attributes (c.table false) ++ [.flag "disabled"] := by
  obtain ⟨front, hfront⟩ := c.exists_table_eq
  rw [hfront, hfront, h, Field.attributes, Field.attributes, List.filterMap_append,
    List.filterMap_append]
  simp [Field.attribute?]

end Element.Control

namespace Placed

variable {env env' : Environment κ} {placed : Placed κ}

theorem data_congr (h : env.formDisabled = env'.formDisabled) :
    placed.data env = placed.data env' := by
  rw [data, data, Environment.formDisabled_within_congr h]

theorem data_of_not_exposed (h : ¬placed.Exposed) : placed.data env = placed.data env' := by
  by_cases hset : ∃ batch ∈ placed.around, ∃ entry ∈ batch.entries, entry.key = .formDisabled
  · rw [data, data, Environment.formDisabled_within_of_set hset]
  · push Not at hset
    rw [data, data]
    cases hleaf : placed.leaf with
    | control c =>
        have hdisabled : c.disabled = true := by
          rw [← Bool.not_eq_false]
          exact fun hfalse => h ⟨⟨c, hleaf, hfalse⟩, hset⟩
        rw [Leaf.data, Leaf.data, Control.attributes_table_of_disabled hdisabled]
    | text | division | label => rfl

/-- An exposed control gets one attribute more where controls are disabled. -/
theorem data_of_exposed (h : placed.Exposed) (henv : env.formDisabled = false)
    (henv' : env'.formDisabled = true) :
    ∃ attributes, placed.data env = .element ⟨"input", attributes⟩ ∧
      placed.data env' = .element ⟨"input", attributes ++ [.flag "disabled"]⟩ := by
  obtain ⟨⟨c, hleaf, hdisabled⟩, hunset⟩ := h
  refine ⟨Field.attributes (c.table false), ?_, ?_⟩
  · rw [data, Environment.formDisabled_within_of_unset hunset, henv, hleaf, Leaf.data]
  · rw [data, Environment.formDisabled_within_of_unset hunset, henv', hleaf, Leaf.data,
      Control.attributes_table_true hdisabled]

end Placed

/-! ## Two environments -/

namespace Page

variable {σ : Type}

/-- Environments that agree on whether controls are disabled give one tree, and one text.
If controls are disabled in the second environment and not in the first, both pages are
rendered and the trees have the same nodes in the same places, one for each leaf besides the
root; the node of a leaf that is exposed has the flag behind its other attributes, and every
other node holds what it held. -/
theorem sees_formDisabled (page : Page κ) (env env' : Environment κ) (state state' : σ) :
    let rendered := renderFresh (page.component : Component κ σ) env state
    let rendered' := renderFresh (page.component : Component κ σ) env' state'
    (env.formDisabled = env'.formDisabled →
      rendered.result = rendered'.result ∧
        ∀ options, rendered.html options = rendered'.html options) ∧
    (env.formDisabled = false → env'.formDisabled = true →
      ∃ m m', rendered.result = .ok m ∧ rendered'.result = .ok m' ∧
        m.size = page.leaves.length + 1 ∧ m.SameFrame m' ∧
        m.get? root = some .document ∧ m'.get? root = some .document ∧
        ∀ k placed, page.leaves[k]? = some placed →
          m.parent? ⟨k + 2⟩ = some placed.parent ∧
          m.get? ⟨k + 2⟩ = some (placed.data env) ∧
          (placed.Exposed → ∃ attributes,
            m.get? ⟨k + 2⟩ = some (.element ⟨"input", attributes⟩) ∧
            m'.get? ⟨k + 2⟩ = some (.element ⟨"input", attributes ++ [.flag "disabled"]⟩)) ∧
          (¬placed.Exposed → m'.get? ⟨k + 2⟩ = m.get? ⟨k + 2⟩)) := by
  intro rendered rendered'
  obtain ⟨m, hm, hreceives⟩ := page.receives_renderFresh env state
  obtain ⟨m', hm', hreceives'⟩ := page.receives_renderFresh env' state'
  constructor
  · intro hagree
    have hrows : rowsOf env page.leaves = rowsOf env' page.leaves :=
      List.map_congr_left fun placed _ => congrArg _ (Placed.data_congr hagree)
    rw [← hrows] at hreceives'
    have hresult : rendered.result = rendered'.result := by
      rw [hm, hm', hreceives.unique hreceives']
    refine ⟨hresult, fun options => ?_⟩
    rw [Rendered.html, Rendered.html, hresult]
  · intro henv henv'
    have hparents : (rowsOf env page.leaves).map Prod.fst =
        (rowsOf env' page.leaves).map Prod.fst := by
      rw [rowsOf, rowsOf, List.map_map, List.map_map]
      rfl
    have hsize := hreceives.size
    rw [length_rowsOf] at hsize
    refine ⟨m, m', hm, hm', hsize.trans (Nat.add_comm _ _),
      hreceives.sameFrame hreceives' hparents (.refl _), (hreceives.keeps rfl).1,
      (hreceives'.keeps rfl).1, fun k placed hplaced => ?_⟩
    have hrow : ∀ env, (rowsOf env page.leaves)[k]? = some (placed.parent, placed.data env) := by
      intro env
      rw [rowsOf, List.getElem?_map, hplaced]
      rfl
    have hplace : (⟨Markup.empty.size + k + 1⟩ : NodeId) = ⟨k + 2⟩ :=
      congrArg NodeId.mk (by rw [Nat.add_comm Markup.empty.size k]; rfl)
    obtain ⟨hget, hparent⟩ := hreceives.row (hrow env)
    obtain ⟨hget', -⟩ := hreceives'.row (hrow env')
    rw [hplace] at hget hparent hget'
    refine ⟨hparent, hget, fun hexposed => ?_, fun hexposed => ?_⟩
    · obtain ⟨attributes, hdata, hdata'⟩ := Placed.data_of_exposed hexposed henv henv'
      exact ⟨attributes, hget.trans (congrArg some hdata), hget'.trans (congrArg some hdata')⟩
    · rw [hget, hget', Placed.data_of_not_exposed hexposed]

/-- A checkbox, a radio button inside a wrapper and a text field that is disabled by itself:
only the checkbox notices that the form is disabled. -/
theorem sees_formDisabled_controls :
    let page : Page Empty := .division ⟨[.control (.checkbox {}),
      .wrapped (.control (.radio {})) (Overrides.empty.set .formDisabled false),
      .control (.textField { disabled := true })], none, []⟩
    let env' : Environment Empty := Environment.empty.withValue .formDisabled true
    ∃ m m', (renderFresh (page.component : Component Empty Unit) .empty ()).result = .ok m ∧
      (renderFresh (page.component : Component Empty Unit) env' ()).result = .ok m' ∧
      m.get? ⟨3⟩ = some (.element ⟨"input", [.valued "type" "checkbox"]⟩) ∧
      m'.get? ⟨3⟩ = some (.element ⟨"input", [.valued "type" "checkbox", .flag "disabled"]⟩) ∧
      m'.get? ⟨4⟩ = m.get? ⟨4⟩ ∧ m'.get? ⟨5⟩ = m.get? ⟨5⟩ := by
  intro page env'
  obtain ⟨-, hdiffer⟩ := page.sees_formDisabled .empty env' () ()
  obtain ⟨m, m', hm, hm', -, -, -, -, hleaf⟩ := hdiffer rfl rfl
  obtain ⟨-, hget, hexposed, -⟩ := hleaf 1 ⟨⟨2⟩, .control (.checkbox {}), []⟩ rfl
  obtain ⟨-, -, -, hradio⟩ := hleaf 2 ⟨⟨2⟩, .control (.radio {}),
    [Overrides.empty.set .formDisabled false]⟩ rfl
  obtain ⟨-, -, -, hfield⟩ := hleaf 3 ⟨⟨2⟩, .control (.textField { disabled := true }), []⟩ rfl
  obtain ⟨attributes, hbefore, hafter⟩ := hexposed ⟨⟨_, rfl, rfl⟩, nofun⟩
  have hattributes : attributes = [.valued "type" "checkbox"] := by
    rw [hget] at hbefore
    cases hbefore
    rfl
  rw [hattributes] at hbefore hafter
  refine ⟨m, m', hm, hm', hbefore, hafter, hradio ?_, hfield ?_⟩
  · rintro ⟨-, hunset⟩
    exact hunset _ List.mem_cons_self _ List.mem_cons_self rfl
  · rintro ⟨⟨c, hc, hdisabled⟩, -⟩
    cases hc
    cases hdisabled

end Page

end HtmlComponents
