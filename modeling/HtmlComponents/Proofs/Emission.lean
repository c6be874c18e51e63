import HtmlComponents.Proofs.Arena
import HtmlComponents.Proofs.Step

/-!
# Setting the attributes of a table

A table of fields stands for the attributes of those fields that are set, in the
order of the table. Emitting it sets them one by one, and the first one that is
refused ends it. Nothing is refused if the names can be written and none of them is
there already or comes twice; `emit_ok` says so. The tables of the built-in elements
are such tables whatever is set in them, because their names are fixed.

The built-in elements themselves differ in little more than their tables. `enclose`
is what they have in common, and `render_control`, `render_division` and
`render_label` say of each what it encloses; whatever holds of `enclose` holds of
all three.
-/

namespace HtmlComponents

open HtmlComponents.Markup HtmlComponents.Element

namespace Field

/-- The name of the attribute that the field may become. -/
def name : Field → String
  | text name _ => name
  | flag name _ => name

/-- The attributes that a table stands for. -/
def attributes (fields : List Field) : List Attribute := fields.filterMap attribute?

theorem name_attribute? {field : Field} {a : Attribute} (h : field.attribute? = some a) :
    a.name = field.name := by
  cases field with
  | text name value =>
      obtain ⟨text, -, rfl⟩ := Option.map_eq_some_iff.mp h
      rfl
  | flag name on =>
      rw [attribute?] at h
      split at h
      · cases h
        rfl
      · cases h

/-- A table of names that can be written, each of them once. -/
structure IsTable (fields : List Field) : Prop where
  isName : ∀ name ∈ fields.map Field.name, Markup.isName name = true
  nodup : (fields.map name).Nodup

/-- What becomes an attribute keeps its place. -/
theorem names_attributes_sublist (fields : List Field) :
    ((attributes fields).map Attribute.name).Sublist (fields.map name) := by
  induction fields with
  | nil => exact List.Sublist.slnil
  | cons field fields ih =>
      rw [attributes, List.filterMap_cons]
      split
      · exact ih.cons _
      · next a ha =>
          rw [List.map_cons, List.map_cons, name_attribute? ha]
          exact ih.cons_cons _

theorem IsTable.isName_attributes {fields : List Field} (h : IsTable fields) :
    ∀ a ∈ attributes fields, Markup.isName a.name = true :=
  fun _ ha => h.isName _ ((names_attributes_sublist fields).subset (List.mem_map_of_mem ha))

theorem IsTable.nodup_attributes {fields : List Field} (h : IsTable fields) :
    ((attributes fields).map Attribute.name).Nodup :=
  h.nodup.sublist (names_attributes_sublist fields)

end Field

namespace Drawing

theorem emit_cons_none {field : Field} (h : field.attribute? = none) (node : NodeId)
    (fields : List Field) : emit node (field :: fields) = emit node fields := by
  rw [emit, h]

theorem emit_cons_some {field : Field} {a : Attribute} (h : field.attribute? = some a)
    (node : NodeId) (fields : List Field) :
    emit node (field :: fields) = emitAttribute node a >>= fun _ => emit node fields := by
  rw [emit, h]

/-- An attribute that the element does not have yet is set. -/
theorem emitAttribute_ok {m : Markup} {node : NodeId} {e : ElementData} {a : Attribute}
    (hget : m.get? node = some (.element e)) (hname : isName a.name = true)
    (hnew : a.name ∉ e.attributeNames) (events : Array RenderEvent) :
    ∃ events', emitAttribute node a ⟨m, events⟩ =
      (.ok (), ⟨m.withAttribute node a, events'⟩) := by
  have hrefusal : m.attributeRefusal? node a.name = none :=
    attributeRefusal?_eq_none_iff.mpr
      ⟨e, hget, ElementData.hasAttribute_eq_false_iff.mpr hnew⟩
  refine ⟨events.push (attributeEvent a), ?_⟩
  rw [emitAttribute, bind_apply]
  simp only [report, build, setAttribute_eq, hname, hrefusal, if_true]

theorem emit_ok {node : NodeId} {fields : List Field} {m : Markup} {e : ElementData}
    (hget : m.get? node = some (.element e))
    (hname : ∀ a ∈ Field.attributes fields, isName a.name = true)
    (hnodup : (e.attributeNames ++ (Field.attributes fields).map Attribute.name).Nodup)
    (events : Array RenderEvent) :
    ∃ events', emit node fields ⟨m, events⟩ =
      (.ok (), ⟨m.withAttributes node (Field.attributes fields), events'⟩) := by
  induction fields generalizing m e events with
  | nil => exact ⟨events, rfl⟩
  | cons field fields ih =>
      rw [Field.attributes, List.filterMap_cons] at hname hnodup ⊢
      rcases hfield : field.attribute? with _ | a
      · simp only [hfield] at hname hnodup
        rw [emit_cons_none hfield]
        exact ih hget hname hnodup events
      · simp only [hfield] at hname hnodup
        rw [List.map_cons] at hnodup
        have hnew : a.name ∉ e.attributeNames := fun hmem =>
          (List.nodup_append.mp hnodup).2.2 _ hmem _ List.mem_cons_self rfl
        have hadded := (get?_withAttribute a hget node).trans (if_pos rfl)
        obtain ⟨events', hset⟩ := emitAttribute_ok hget (hname a List.mem_cons_self) hnew events
        obtain ⟨events'', hrest⟩ := ih hadded (fun b hb => hname b (List.mem_cons_of_mem _ hb))
          (by simpa [ElementData.attributeNames, ElementData.addAttribute,
            Field.attributes] using hnodup) events'
        refine ⟨events'', ?_⟩
        rw [emit_cons_some hfield, bind_apply, hset]
        exact hrest

/-- A table that could be set was reported attribute by attribute. -/
theorem events_emit {node : NodeId} {fields : List Field} {canvas after : Canvas}
    (h : emit node fields canvas = (.ok (), after)) :
    after.events.toList =
      canvas.events.toList ++ (Field.attributes fields).map attributeEvent := by
  induction fields generalizing canvas with
  | nil =>
      cases h
      exact (List.append_nil _).symm
  | cons field fields ih =>
      rw [Field.attributes]
      rcases hfield : field.attribute? with _ | a
      · rw [emit_cons_none hfield] at h
        rw [List.filterMap_cons_none hfield]
        exact ih h
      · rw [emit_cons_some hfield] at h
        obtain ⟨⟨⟩, mid, hset, h⟩ := bind_ok h
        obtain ⟨⟨⟩, reported, hreport, hset⟩ := bind_ok hset
        cases hreport
        have hmid : mid.events = canvas.events.push (attributeEvent a) := by
          rw [build] at hset
          exact (congrArg (fun step => step.2.events) hset).symm
        rw [List.filterMap_cons_some hfield, ih h, hmid, Array.toList_push, List.append_assoc,
          List.map_cons]
        rfl

end Drawing

/-! ## The tables of the built-in elements -/

namespace Element

theorem Division.isTable_fields (id : Option String) (classes : List String) :
    Field.IsTable (Division.fields id classes) where
  isName := (by decide : ∀ name ∈ ["id", "class"], isName name = true)
  nodup := (by decide : ["id", "class"].Nodup)

theorem Label.isTable_fields (target id : Option String) (classes : List String) :
    Field.IsTable (Label.fields target id classes) where
  isName := (by decide : ∀ name ∈ ["for", "id", "class"], isName name = true)
  nodup := (by decide : ["for", "id", "class"].Nodup)

namespace Control

/-- All the attributes of a control's input, its type included. -/
def table (control : Control) (formDisabled : Bool) : List Field :=
  .text "type" (some control.inputType) :: control.fields formDisabled

/-- The names in a control's table. -/
def tableNames : Control → List String
  | radio _ | checkbox _ =>
    ["type", "name", "value", "id", "checked", "required", "autofocus", "disabled"]
  | textField _ =>
    ["type", "name", "value", "placeholder", "id", "required", "autofocus", "readonly",
      "disabled"]

theorem names_table (control : Control) (formDisabled : Bool) :
    (control.table formDisabled).map Field.name = control.tableNames := by
  cases control <;> rfl

theorem isTable_table (control : Control) (formDisabled : Bool) :
    Field.IsTable (control.table formDisabled) where
  isName := by
    rw [names_table]
    cases control <;> simp only [tableNames] <;> decide
  nodup := by
    rw [names_table]
    cases control <;> simp only [tableNames] <;> decide

/-- Drawing a control is appending its input and emitting its table. -/
theorem draw_eq (control : Control) (formDisabled : Bool) (parent : NodeId) :
    control.draw formDisabled parent = (do
      let input ← Drawing.build (appendElement parent "input")
      Drawing.emit input (control.table formDisabled)) := by
  have htype : (Field.text "type" (some control.inputType)).attribute? =
      some (.valued "type" control.inputType) := rfl
  have hnil : ∀ input, Drawing.emit input [] = pure () := fun _ => rfl
  rw [draw, Drawing.appendInput, table]
  simp only [Drawing.emit_cons_some htype, hnil, bind_assoc, pure_bind]

end Control

end Element

/-! ## The built-in elements

Each of them is an element with a table of attributes, and has its children inside. -/

/-- Append an element with the attributes of a table, and draw inside it. -/
def enclose (tag : String) (fields : List Field) (content : NodeId → Rendering σ Unit)
    (p : NodeId) : Rendering σ Unit := do
  let node ← Rendering.draw (Drawing.build (appendElement p tag))
  Rendering.draw (Drawing.emit node fields)
  content node

section Moves

variable (rel : Canvas → Canvas → Prop) (hrefl : ∀ canvas, rel canvas canvas)
  (htrans : ∀ a b c, rel a b → rel b c → rel a c) {node : NodeId}
  (hreport : ∀ a, Moves rel (Drawing.report (Drawing.attributeEvent a)))
  (hset : ∀ name value, Moves rel (Drawing.build (setAttribute node name value)))

include hrefl htrans hreport hset

/-- A table goes where the reports and the attributes go. -/
theorem Drawing.moves_emit (fields : List Field) : Moves rel (emit node fields) := by
  induction fields with
  | nil => exact hrefl
  | cons field fields ih =>
      rw [emit]
      split
      · exact ih
      · rw [emitAttribute]
        exact ((hreport _).bind htrans fun _ => hset _ _).bind htrans fun _ => ih

end Moves

namespace Component

variable {κ σ : Type} [KeyFamily κ] (env : Environment κ) (p : NodeId)

theorem render_control (c : Control) :
    (control c : Component κ σ).render env p =
      Rendering.report (.renderLeaf c.componentType) >>= fun _ =>
        enclose "input" (c.table env.formDisabled) (fun _ => pure ()) p := by
  rw [render, Control.draw_eq, Rendering.draw_bind]
  simp only [enclose, bind_pure_unit]

theorem render_division (children : List (Component κ σ)) (id : Option String)
    (classes : List String) :
    (division ⟨children, id, classes⟩).render env p =
      Rendering.report (.renderLeaf "Div") >>= fun _ =>
        enclose "div" (Division.fields id classes) (fun node => renderAll env node children) p := by
  rw [render]
  rfl

theorem render_label (children : List (Component κ σ)) (target id : Option String)
    (classes : List String) :
    (label ⟨children, target, id, classes⟩).render env p =
      Rendering.report (.renderLeaf "Label") >>= fun _ =>
        enclose "label" (Label.fields target id classes)
          (fun node => renderAll env node children) p := by
  rw [render]
  rfl

end Component

end HtmlComponents
