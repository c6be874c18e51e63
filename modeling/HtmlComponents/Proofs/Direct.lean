import HtmlComponents.Proofs.Picture

/-!
# Writing a component without a tree

The HTML of a plain component can be written down while going through the component
once: start tags, texts and closing tags, with no arena and no node numbers between.
That is `Component.direct`. The long way builds a tree, checks every name and every
attribute on the way, and goes through the tree a second time. `renderFresh_html`
says that it succeeds on every plain component and arrives at the same text.

What stands in the tags of the elements is written out anew, from what is set on them and in
the order in which they declare it, and not taken from the tables by which they are drawn. That
the tables say the same is part of what is proved here.

The way from one to the other is over the picture of the component: what was drawn
is its picture, and writing the picture is writing the component directly.
-/

namespace HtmlComponents

open HtmlComponents.Markup HtmlComponents.Element

/-! ## Direct writing -/

/-- A start tag without its end. -/
def startTag (tag : String) (attributes : List Char) : List Char := '<' :: tag.toList ++ attributes

/-- An attribute with a value, as it stands in a start tag. It is left out if there is no
value. -/
def writtenValue (name : String) : Option String → List Char
  | none => []
  | some value => ' ' :: name.toList ++ ['=', '"'] ++ escapeValue value ++ ['"']

/-- An attribute without a value, as it stands in a start tag if it is on. -/
def writtenFlag (name : String) (on : Bool) : List Char := if on then ' ' :: name.toList else []

/-- The class attribute: the classes with a space between two of them. An element without
classes has none. -/
def writtenClasses : List String → List Char
  | [] => []
  | c :: classes => writtenValue "class" (some (" ".intercalate (c :: classes)))

/-- What is set on a control, in the order that its kind declares. The control is disabled by
itself or by the form around it. -/
def writtenControl (formDisabled : Bool) : Control → List Char
  | .radio r =>
    writtenValue "type" (some "radio") ++ writtenValue "name" r.name ++
      writtenValue "value" r.value ++ writtenValue "id" r.id ++
      writtenFlag "checked" r.checked ++ writtenFlag "required" r.required ++
      writtenFlag "autofocus" r.autofocus ++ writtenFlag "disabled" (r.disabled || formDisabled)
  | .checkbox b =>
    writtenValue "type" (some "checkbox") ++ writtenValue "name" b.name ++
      writtenValue "value" b.value ++ writtenValue "id" b.id ++
      writtenFlag "checked" b.checked ++ writtenFlag "required" b.required ++
      writtenFlag "autofocus" b.autofocus ++ writtenFlag "disabled" (b.disabled || formDisabled)
  | .textField f =>
    writtenValue "type" (some "text") ++ writtenValue "name" f.name ++
      writtenValue "value" f.value ++ writtenValue "placeholder" f.placeholder ++
      writtenValue "id" f.id ++ writtenFlag "required" f.required ++
      writtenFlag "autofocus" f.autofocus ++ writtenFlag "readonly" f.readonly ++
      writtenFlag "disabled" (f.disabled || formDisabled)

namespace Component

variable {κ σ : Type} [KeyFamily κ]

mutual

/-- The HTML of a plain component in an environment. A control is one tag, and an element with
content is its start tag, its children in the same environment, and its closing tag. A group is
its members, and a composing component is its body in the environment that it derives. Leaves
that bring a program are not plain, and are left out. -/
def direct (style : VoidStyle) (state : σ) (env : Environment κ) : Component κ σ → List Char
  | control c => startTag "input" (writtenControl env.formDisabled c) ++ style.terminator
  | text content => escapeText content
  | division ⟨children, id, classes⟩ =>
    startTag "div" (writtenValue "id" id ++ writtenClasses classes) ++ ['>'] ++
      directAll style state env children ++ closing "div"
  | label ⟨children, target, id, classes⟩ =>
    startTag "label" (writtenValue "for" target ++ writtenValue "id" id ++
      writtenClasses classes) ++ ['>'] ++ directAll style state env children ++ closing "label"
  | leaf _ _ => []
  | composing _ environment body _ =>
    let derived := (environment env state).1
    direct style state derived (body derived state)
  | group members => directAll style state env members

/-- The HTML of plain components one after the other. -/
def directAll (style : VoidStyle) (state : σ) (env : Environment κ) :
    List (Component κ σ) → List Char
  | [] => []
  | c :: cs => c.direct style state env ++ directAll style state env cs

end

end Component

/-! ## The tables of the elements, written out -/

/-- The attributes that a table stands for, as they stand in a start tag. -/
def Field.htmlAll (fields : List Field) : List Char := (attributes fields).flatMap Attribute.html

namespace Field

theorem htmlAll_nil : htmlAll [] = [] := rfl

theorem htmlAll_text (name : String) (value : Option String) (fields : List Field) :
    htmlAll (.text name value :: fields) = writtenValue name value ++ htmlAll fields := by
  cases value with
  | none => rfl
  | some value => simp [htmlAll, attributes, attribute?, writtenValue, Attribute.html,
      Attribute.valued]

theorem htmlAll_flag (name : String) (on : Bool) (fields : List Field) :
    htmlAll (.flag name on :: fields) = writtenFlag name on ++ htmlAll fields := by
  cases on with
  | false => rfl
  | true => simp [htmlAll, attributes, attribute?, writtenFlag, Attribute.html, Attribute.flag]

end Field

theorem htmlAll_table (c : Control) (formDisabled : Bool) :
    Field.htmlAll (c.table formDisabled) = writtenControl formDisabled c := by
  cases c <;>
    simp only [Control.table, Control.inputType, Control.fields, Radio.fields, Checkbox.fields,
      TextField.fields, Field.htmlAll_text, Field.htmlAll_flag, Field.htmlAll_nil,
      writtenControl, List.append_assoc, List.append_nil]

theorem writtenValue_class (classes : List String) :
    writtenValue "class" (Classes.attribute? classes) = writtenClasses classes := by
  cases classes <;> rfl

theorem htmlAll_division (id : Option String) (classes : List String) :
    Field.htmlAll (Division.fields id classes) =
      writtenValue "id" id ++ writtenClasses classes := by
  rw [Division.fields, Field.htmlAll_text, Field.htmlAll_text, Field.htmlAll_nil,
    List.append_nil, writtenValue_class]

theorem htmlAll_label (target id : Option String) (classes : List String) :
    Field.htmlAll (Label.fields target id classes) =
      writtenValue "for" target ++ writtenValue "id" id ++ writtenClasses classes := by
  rw [Label.fields, Field.htmlAll_text, Field.htmlAll_text, Field.htmlAll_text,
    Field.htmlAll_nil, List.append_nil, writtenValue_class, List.append_assoc]

/-! ## Writing pictures -/

theorem opening_eq_startTag (tag : String) (fields : List Field) :
    ElementData.opening ⟨tag, Field.attributes fields⟩ = startTag tag (Field.htmlAll fields) := rfl

theorem htmlAll_element {tag : String} (hvoid : isVoid tag = false) (style : VoidStyle)
    (fields : List Field) (shapes : List Shape) :
    Shape.htmlAll style [.node (.element ⟨tag, Field.attributes fields⟩) shapes] =
      startTag tag (Field.htmlAll fields) ++ ['>'] ++ Shape.htmlAll style shapes ++
        closing tag := by
  rw [Shape.htmlAll, Shape.htmlAll, List.append_nil, Shape.html, if_neg (by simp [hvoid]),
    opening_eq_startTag]

theorem htmlAll_input (style : VoidStyle) (fields : List Field) :
    Shape.htmlAll style [.node (.element ⟨"input", Field.attributes fields⟩) []] =
      startTag "input" (Field.htmlAll fields) ++ style.terminator := by
  rw [Shape.htmlAll, Shape.htmlAll, List.append_nil, Shape.html,
    if_pos (show isVoid "input" = true by decide), opening_eq_startTag]

namespace Component

variable {κ σ : Type} [KeyFamily κ]

mutual

theorem htmlAll_picture (style : VoidStyle) (state : σ) (env : Environment κ) :
    (c : Component κ σ) → Shape.htmlAll style (c.picture state env) = c.direct style state env
  | .control c => by
      rw [picture, direct, htmlAll_input, htmlAll_table]
  | .text content => by
      rw [picture, direct, Shape.htmlAll, Shape.htmlAll, List.append_nil, Shape.html]
  | .division ⟨children, id, classes⟩ => by
      rw [picture, direct, htmlAll_element (by decide), htmlAll_division,
        htmlAll_pictures style state env children]
  | .label ⟨children, target, id, classes⟩ => by
      rw [picture, direct, htmlAll_element (by decide), htmlAll_label,
        htmlAll_pictures style state env children]
  | .leaf _ _ => rfl
  | .composing _ environment body _ => by
      rw [picture, direct]
      exact htmlAll_picture style state _ (body (environment env state).1 state)
  | .group members => by
      rw [picture, direct]
      exact htmlAll_pictures style state env members

theorem htmlAll_pictures (style : VoidStyle) (state : σ) (env : Environment κ) :
    (cs : List (Component κ σ)) →
      Shape.htmlAll style (pictures state env cs) = directAll style state env cs
  | [] => rfl
  | c :: cs => by
      rw [pictures, directAll, Shape.htmlAll_append, htmlAll_picture style state env c,
        htmlAll_pictures style state env cs]

end

/-- Rendering a plain component always succeeds, and its HTML is the doctype, if it is
asked for, and then the component written directly. -/
theorem renderFresh_html {c : Component κ σ} (h : c.Plain) (env : Environment κ)
    (state opening : σ) (options : HtmlOptions) :
    (renderFresh c env state).html options =
      .ok (options.heading ++ String.ofList (c.direct options.voidStyle opening env)) := by
  obtain ⟨after, hafter, hwf, hforest⟩ :=
    Plain.draws opening env c h (#[].push (.renderStart c.componentType)) state
  have hpage : (renderPage c env (Stage.fresh state)).1 = .ok after.markup := by
    rw [Stage.fresh, renderPage_apply]
    simp only [hafter]
    rfl
  show (renderPage c env (Stage.fresh state)).1.map (fun m => m.toHtml options) = _
  rw [hpage, ← htmlAll_picture, ← hforest, ← hwf.toHtml_eq]
  rfl

/-- A division with a text that is escaped and a control that its surroundings
disable. -/
theorem renderFresh_html_disabled :
    let button : Component Empty Unit := .control (.radio { name := some "n" })
    let c : Component Empty Unit := .division
      { children := [.text "a<b", button.withValue .formDisabled true], classes := ["x"] }
    c.Plain ∧ (renderFresh c Environment.empty ()).html { doctype := true } =
      .ok ("<!DOCTYPE html><div class=\"x\">a&lt;b" ++
        "<input type=\"radio\" name=\"n\" disabled /></div>") := by
  intro button c
  have hplain : c.Plain := by
    refine .division fun child hchild => ?_
    rcases List.mem_cons.mp hchild with rfl | hbutton
    · exact .text _
    · rw [List.mem_singleton.mp hbutton]
      exact (Plain.control _).withValue _ _
  exact ⟨hplain, (renderFresh_html hplain Environment.empty () () { doctype := true }).trans
    (congrArg Except.ok (by decide +kernel))⟩

end Component

end HtmlComponents
