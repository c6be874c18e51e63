import HtmlComponents.Proofs.Blocked
import HtmlComponents.Proofs.Disabling

/-!
# The attributes of a control from the calls that set them up

A control starts blank and is set up by calls, each about one attribute. A call can be given
as the field that it puts into the table of the control, which says what the call does: the
field of that name gives way, and all the others stay (`Field.override`). This is the one
thing to check of each kind of control. By induction on the calls a field of the finished
control is then the one that the last call about it brought, or the blank one, and the order
of the table is never touched.

Whether the form is disabled concerns the last field alone.
-/

namespace HtmlComponents

open HtmlComponents.Markup HtmlComponents.Element

/-! ## Calls as fields -/

namespace Field

/-- A field gives way to another one of its name. -/
def override (new old : Field) : Field := if new.name = old.name then new else old

theorem name_override (new old : Field) : (new.override old).name = old.name := by
  rw [override]
  split
  · assumption
  · rfl

/-- Of fields that give way one after another the last one stays. -/
theorem foldl_override (calls : List Field) (f : Field) :
    calls.foldl (fun old new => new.override old) f =
      (calls.filter (·.name = f.name)).getLast?.getD f := by
  induction calls generalizing f with
  | nil => rfl
  | cons call calls ih =>
      rw [List.foldl_cons, ih, name_override, override, List.filter_cons]
      by_cases hname : call.name = f.name
      · rw [if_pos hname, if_pos (decide_eq_true hname), List.getLast?_cons, Option.getD_some]
      · rw [if_neg hname, if_neg (by simpa using hname)]

/-- If every call puts its field into a table, then each field of the table is in the end the
one that the last call about it brought. -/
theorem fields_foldl {α β : Type} (set : α → β → α) (table : α → List Field) (field : β → Field)
    (hset : ∀ x call, table (set x call) = (table x).map (field call).override)
    (calls : List β) (x : α) :
    table (calls.foldl set x) = (table x).map fun f =>
      ((calls.map field).filter (·.name = f.name)).getLast?.getD f := by
  have hfold : table (calls.foldl set x) =
      (table x).map fun f => (calls.map field).foldl (fun old new => new.override old) f := by
    induction calls generalizing x with
    | nil => exact (List.map_id' _).symm
    | cons call calls ih =>
        rw [List.foldl_cons, ih, hset, List.map_map]
        rfl
  rw [hfold]
  exact List.map_congr_left fun f _ => foldl_override _ f

theorem attribute?_getD {f : Field} (hf : f.attribute? = none) (call : Option Field) :
    (call.getD f).attribute? = call.bind attribute? := by
  cases call with
  | none => exact hf
  | some call => rfl

end Field

namespace Element

def Radio.Setting.field : Radio.Setting → Field
  | .name text => .text "name" (some text)
  | .value text => .text "value" (some text)
  | .id text => .text "id" (some text)
  | .checked on => .flag "checked" on
  | .required on => .flag "required" on
  | .autofocus on => .flag "autofocus" on
  | .disabled on => .flag "disabled" on

def Checkbox.Setting.field : Checkbox.Setting → Field
  | .name text => .text "name" (some text)
  | .value text => .text "value" (some text)
  | .id text => .text "id" (some text)
  | .checked on => .flag "checked" on
  | .required on => .flag "required" on
  | .autofocus on => .flag "autofocus" on
  | .disabled on => .flag "disabled" on

def TextField.Setting.field : TextField.Setting → Field
  | .name text => .text "name" (some text)
  | .value text => .text "value" (some text)
  | .placeholder text => .text "placeholder" (some text)
  | .id text => .text "id" (some text)
  | .required on => .flag "required" on
  | .autofocus on => .flag "autofocus" on
  | .readonly on => .flag "readonly" on
  | .disabled on => .flag "disabled" on

theorem Radio.fields_set (radio : Radio) (call : Radio.Setting) :
    (radio.set call).fields false = (radio.fields false).map call.field.override := by
  cases call <;> simp [set, fields, Setting.field, Field.override, Field.name]

theorem Checkbox.fields_set (box : Checkbox) (call : Checkbox.Setting) :
    (box.set call).fields false = (box.fields false).map call.field.override := by
  cases call <;> simp [set, fields, Setting.field, Field.override, Field.name]

theorem TextField.fields_set (field : TextField) (call : TextField.Setting) :
    (field.set call).fields false = (field.fields false).map call.field.override := by
  cases call <;> simp [set, fields, Setting.field, Field.override, Field.name]

theorem Control.fields_formDisabled (c : Control) (formDisabled : Bool) :
    c.fields formDisabled =
      (c.fields false).dropLast ++ [.flag "disabled" (c.disabled || formDisabled)] := by
  cases c <;> rfl

/-! ## The kinds of controls -/

inductive Kind where
  | radio
  | checkbox
  | textField

namespace Kind

def Setting : Kind → Type
  | radio => Radio.Setting
  | checkbox => Checkbox.Setting
  | textField => TextField.Setting

/-- The field that a call brings. -/
def field : (kind : Kind) → kind.Setting → Field
  | radio => Radio.Setting.field
  | checkbox => Checkbox.Setting.field
  | textField => TextField.Setting.field

/-- The control that was set up by calls. -/
def build : (kind : Kind) → List kind.Setting → Control
  | radio, calls => .radio (.ofSettings calls)
  | checkbox, calls => .checkbox (.ofSettings calls)
  | textField, calls => .textField (.ofSettings calls)

def inputType : Kind → String
  | radio => "radio"
  | checkbox => "checkbox"
  | textField => "text"

/-- What can be set, in the order of the table, but for whether the control is disabled. -/
def names : Kind → List String
  | radio | checkbox => ["name", "value", "id", "checked", "required", "autofocus"]
  | textField => ["name", "value", "placeholder", "id", "required", "autofocus", "readonly"]

/-- The calls about one attribute, in order. -/
def callsOf (kind : Kind) (name : String) (calls : List kind.Setting) : List Field :=
  (calls.map kind.field).filter (·.name = name)

/-- The last call about an attribute. -/
def lastCall? (kind : Kind) (name : String) (calls : List kind.Setting) : Option Field :=
  (kind.callsOf name calls).getLast?

/-- The attributes that are asked for by the last call about each of them, in the order of the
table, and at the end whether the control is disabled, by its last call or by the form. -/
def attributes (kind : Kind) (calls : List kind.Setting) (formDisabled : Bool) :
    List Attribute :=
  .valued "type" kind.inputType ::
    (kind.names.filterMap fun name => (kind.lastCall? name calls).bind Field.attribute?) ++
      if kind.lastCall? "disabled" calls = some (.flag "disabled" true) ∨ formDisabled = true
      then [.flag "disabled"] else []

variable (kind : Kind) (calls : List kind.Setting)

/-- The table of a control before any call. -/
def blank : List Field := (kind.build []).fields false

/-- A field of a control is the one that the last call about it brought, or blank. -/
theorem fields_build : (kind.build calls).fields false =
    kind.blank.map fun f => (kind.lastCall? f.name calls).getD f := by
  cases kind with
  | radio => exact Field.fields_foldl Radio.set (Radio.fields · false) _ Radio.fields_set calls {}
  | checkbox =>
      exact Field.fields_foldl Checkbox.set (Checkbox.fields · false) _ Checkbox.fields_set calls {}
  | textField =>
      exact Field.fields_foldl TextField.set (TextField.fields · false) _ TextField.fields_set
        calls {}

theorem inputType_build : (kind.build calls).inputType = kind.inputType := by
  cases kind <;> rfl

theorem componentType_build (other : List kind.Setting) :
    (kind.build other).componentType = (kind.build calls).componentType := by
  cases kind <;> rfl

theorem blank_eq : kind.blank = kind.blank.dropLast ++ [.flag "disabled" false] := by
  cases kind <;> rfl

theorem names_blank : kind.blank.dropLast.map Field.name = kind.names := by
  cases kind <;> rfl

theorem attribute?_blank : ∀ f ∈ kind.blank.dropLast, f.attribute? = none := by
  cases kind <;> decide

theorem disabled_notMem_names : "disabled" ∉ kind.names := by
  cases kind <;> decide

/-- Nothing in front of the last attribute says that a control is disabled. -/
theorem name_ne_disabled : ∀ a ∈ Attribute.valued "type" kind.inputType ::
    (kind.names.filterMap fun name => (kind.lastCall? name calls).bind Field.attribute?),
      a.name ≠ "disabled" := by
  refine List.forall_mem_cons.mpr ⟨by simp [Attribute.valued], fun a ha hdisabled => ?_⟩
  obtain ⟨name, hname, hcall⟩ := List.mem_filterMap.mp ha
  obtain ⟨f, hf, hattribute⟩ := Option.bind_eq_some_iff.mp hcall
  have hlast := List.mem_filter.mp (List.mem_of_getLast? hf)
  rw [Field.name_attribute? hattribute, of_decide_eq_true hlast.2] at hdisabled
  exact kind.disabled_notMem_names (hdisabled ▸ hname)

/-- A control is disabled by itself if the last call about it says so. -/
theorem disabled_build : (kind.build calls).disabled = true ↔
    kind.lastCall? "disabled" calls = some (.flag "disabled" true) := by
  -- the blank table ends with the flag, so the table that was built ends with its last call
  have hlast : Field.flag "disabled" (kind.build calls).disabled =
      (kind.lastCall? "disabled" calls).getD (.flag "disabled" false) := by
    have hfields := kind.fields_build calls
    rw [Control.fields_formDisabled, Bool.or_false, blank_eq, List.map_append] at hfields
    exact (List.cons.inj (List.append_inj_right' hfields rfl)).1
  cases hcall : kind.lastCall? "disabled" calls with
  | none =>
      rw [hcall] at hlast
      simp [(Field.flag.inj hlast).2]
  | some call =>
      rw [hcall, Option.getD_some] at hlast
      simp [← hlast]

theorem attributes_table (formDisabled : Bool) :
    Field.attributes ((kind.build calls).table formDisabled) =
      kind.attributes calls formDisabled := by
  have hfront : ((kind.build calls).fields false).dropLast.filterMap Field.attribute? =
      kind.names.filterMap fun name => (kind.lastCall? name calls).bind Field.attribute? := by
    rw [fields_build, ← List.map_dropLast, List.filterMap_map, ← names_blank, List.filterMap_map]
    exact List.filterMap_congr fun f hf => Field.attribute?_getD (kind.attribute?_blank f hf) _
  have hlast : [Field.flag "disabled" ((kind.build calls).disabled || formDisabled)].filterMap
      Field.attribute? =
        if kind.lastCall? "disabled" calls = some (.flag "disabled" true) ∨ formDisabled = true
        then [.flag "disabled"] else [] := by
    simp only [← disabled_build, ← Bool.or_eq_true]
    cases (kind.build calls).disabled || formDisabled <;> rfl
  have htype : (Field.text "type" (some kind.inputType)).attribute? =
      some (.valued "type" kind.inputType) := rfl
  rw [Field.attributes, Control.table, Control.fields_formDisabled, inputType_build,
    List.filterMap_cons_some htype, List.filterMap_append, hfront, hlast, attributes,
    List.cons_append]

theorem table_congr {other : List kind.Setting}
    (h : ∀ name, kind.lastCall? name other = kind.lastCall? name calls) (formDisabled : Bool) :
    (kind.build other).table formDisabled = (kind.build calls).table formDisabled := by
  have hdisabled : (kind.build other).disabled = (kind.build calls).disabled := by
    rw [Bool.eq_iff_iff, disabled_build, disabled_build, h]
  rw [Control.table, Control.table, inputType_build, inputType_build,
    Control.fields_formDisabled, Control.fields_formDisabled (kind.build calls), fields_build,
    fields_build, hdisabled]
  simp only [h]

end Kind

end Element

/-! ## Rendering a control -/

namespace Component

variable {κ σ : Type} [KeyFamily κ] (c : Control) (env : Environment κ) {p : NodeId}

theorem render_control_ok {stage : Stage σ} (hp : stage.markup.appendRefusal? p = none) :
    ∃ events, (control c).render env p stage =
      (.ok (), ⟨⟨stage.markup.grow p
        (.element ⟨"input", Field.attributes (c.table env.formDisabled)⟩), events⟩,
        stage.hidden⟩) := by
  have htag : isName "input" = true := by decide
  obtain ⟨events, henclose, -⟩ := enclose_grow hp htag (c.isTable_table env.formDisabled)
    (fun _ => pure ()) (stage.canvas.events.push (.renderLeaf c.componentType)) stage.hidden
  refine ⟨events, ?_⟩
  rw [render_control]
  exact henclose

/-- A control is refused only for its place. -/
theorem noChild_of_render_control {stage : Stage σ} {refusal : Markup.Error}
    (h : ((control c).render env p stage).1 = .error (.markup refusal)) :
    NoChild stage.markup p refusal := by
  cases hp : stage.markup.appendRefusal? p with
  | none =>
      obtain ⟨events, hrender⟩ := render_control_ok c env hp
      rw [hrender] at h
      cases h
  | some reason =>
      have hreason := appendRefusal?_eq_some_iff.mp hp
      obtain ⟨-, hspares⟩ := Plain.spares hreason env (control c) (.control c)
      rw [((hspares (.control env c)) stage rfl).1] at h
      cases h
      exact hreason

end Component

namespace Element.Kind

variable {κ σ : Type} [KeyFamily κ]

/-- However a control was set up, wherever a node may have children it becomes an input whose
attributes are those of the last calls, in the order of the table. Being disabled comes last,
and once, if the last call about it or the form says so. Calls with the same last calls make a
control that renders as this one does, and so do the same calls in another order that keeps
the order among the calls about one attribute. Nowhere is an attribute refused because it is
there already. -/
theorem input_of_last_calls (kind : Kind) (calls : List kind.Setting) (env : Environment κ) :
    let control : Component κ σ := .control (kind.build calls)
    let attributes := kind.attributes calls env.formDisabled
    (∀ (p : NodeId) (stage : Stage σ), stage.markup.appendRefusal? p = none →
      ∃ events, control.render env p stage =
        (.ok (), ⟨⟨stage.markup.grow p (.element ⟨"input", attributes⟩), events⟩,
          stage.hidden⟩)) ∧
    (∃ front, (∀ a ∈ front, a.name ≠ "disabled") ∧
      attributes = front ++
        if kind.lastCall? "disabled" calls = some (.flag "disabled" true) ∨
          env.formDisabled = true then [.flag "disabled"] else []) ∧
    (∀ other : List kind.Setting,
      (∀ name, kind.lastCall? name other = kind.lastCall? name calls) →
        ∀ p, (.control (kind.build other) : Component κ σ).render env p = control.render env p) ∧
    (∀ other : List kind.Setting,
      (∀ name, kind.callsOf name other = kind.callsOf name calls) →
        ∀ p, (.control (kind.build other) : Component κ σ).render env p = control.render env p) ∧
    ∀ p stage tag name,
      (control.render env p stage).1 ≠ .error (.markup (.duplicateAttribute tag name)) := by
  intro control attributes
  have hlast : ∀ other : List kind.Setting,
      (∀ name, kind.lastCall? name other = kind.lastCall? name calls) →
        ∀ p, (.control (kind.build other) : Component κ σ).render env p = control.render env p := by
    intro other h p
    rw [Component.render_control, Component.render_control, table_congr kind calls h,
      kind.componentType_build calls]
  refine ⟨fun p stage hp => ?_, ⟨_, ?_, rfl⟩, hlast, fun other h => hlast other fun name => ?_,
    fun p stage tag name herror => ?_⟩
  · have hrender := Component.render_control_ok (kind.build calls) env hp
    rwa [attributes_table] at hrender
  · exact kind.name_ne_disabled calls
  · rw [lastCall?, lastCall?, h]
  · exact nomatch Component.noChild_of_render_control _ env herror

/-- A text field that is given two values, the second one empty, and is disabled and enabled
again, inside a form that is disabled; and the same calls in another order. -/
theorem input_of_last_calls_textField :
    let calls : List TextField.Setting :=
      [.value "a", .disabled true, .name "n", .value "", .disabled false]
    let other : List TextField.Setting :=
      [.disabled true, .name "n", .disabled false, .value "a", .value ""]
    let env : Environment Empty := Environment.empty.withValue .formDisabled true
    let field : Component Empty Unit := .control (.textField (.ofSettings calls))
    (∃ events, field.render env root (Stage.fresh ()) =
      (.ok (), ⟨⟨Markup.empty.grow root (.element ⟨"input", [.valued "type" "text",
        .valued "name" "n", .valued "value" "", .flag "disabled"]⟩), events⟩, ()⟩)) ∧
    (.control (.textField (.ofSettings other)) : Component Empty Unit).render env root =
      field.render env root := by
  intro calls other env field
  obtain ⟨hrender, -, -, hreorder, -⟩ :=
    @input_of_last_calls Empty Unit _ .textField calls env
  refine ⟨hrender root (Stage.fresh ()) rfl, hreorder other (fun name => ?_) root⟩
  show List.filter (fun f : Field => f.name = name) [.flag "disabled" true, .text "name" (some "n"),
      .flag "disabled" false, .text "value" (some "a"), .text "value" (some "")] =
    List.filter (fun f : Field => f.name = name) [.text "value" (some "a"), .flag "disabled" true,
      .text "name" (some "n"), .text "value" (some ""), .flag "disabled" false]
  by_cases hvalue : "value" = name
  · subst hvalue
    rfl
  · by_cases hdisabled : "disabled" = name
    · subst hdisabled
      rfl
    · simp [List.filter_cons, Field.name, hvalue, hdisabled]

end Element.Kind

end HtmlComponents
