import HtmlComponents.Proofs.Disabling
import HtmlComponents.Proofs.Untouched

/-!
# The class attribute

A division or a label is set up by calls, and the calls that add a class may stand anywhere
between the others. What such a call does and what the others do is kept apart: adding a class
leaves everything but the classes alone, and no other call looks at the classes
(`Classes.Separate`). So the element can be told from two lists, the added classes and the
other calls, and how the two were mixed is lost.

Of the added classes only the first occurrences are left, because adding one that is there
already does nothing. The attribute is these with a space between two of them; if no class has
a space in it, they are found again between the spaces. Nothing has to be known about the
children, which are drawn inside the element after it has got its attributes and leave it as
it is, also when one of them fails.
-/

namespace HtmlComponents

open HtmlComponents.Markup HtmlComponents.Element

/-! ## Lists of classes -/

namespace Element.Classes

/-- What is added to classes are the names that are new, each at its first place. -/
theorem foldl_add (names classes : List String) :
    names.foldl add classes =
      classes ++ (firstOccurrences names).filter fun name => name ∉ classes := by
  induction names generalizing classes with
  | nil => exact (List.append_nil classes).symm
  | cons name names ih =>
      rw [List.foldl_cons, ih, firstOccurrences, add]
      by_cases h : name ∈ classes
      · rw [if_pos (List.contains_iff_mem.mpr h), List.filter_cons_of_neg (by simpa using h),
          List.filter_filter]
        congr 1
        refine List.filter_congr fun other _ => ?_
        have hne : other ∉ classes → other ≠ name := fun hother heq => hother (heq ▸ h)
        simpa using hne
      · rw [if_neg (by simpa using h), List.filter_cons_of_pos (by simpa using h),
          List.filter_filter, List.append_assoc, List.singleton_append]
        congr 2
        refine List.filter_congr fun other _ => ?_
        simp

theorem foldl_add_nil (names : List String) : names.foldl add [] = firstOccurrences names := by
  rw [foldl_add, List.nil_append, List.filter_eq_self.mpr (by simp)]

/-- A name that has occurred before adds nothing. -/
theorem firstOccurrences_again {before : List String} {name : String} (h : name ∈ before)
    (after : List String) :
    firstOccurrences (before ++ name :: after) = firstOccurrences (before ++ after) := by
  have hadd : add (before.foldl add []) name = before.foldl add [] := by
    rw [foldl_add_nil, add, if_pos (List.contains_iff_mem.mpr (mem_firstOccurrences.mpr h))]
  rw [← foldl_add_nil, ← foldl_add_nil, List.foldl_append, List.foldl_append, List.foldl_cons,
    hadd]

/-- The names that were added, each of them once, in the order in which they came first. -/
structure InFirstOrder (added names : List String) : Prop where
  mem : ∀ name, name ∈ names ↔ name ∈ added
  nodup : names.Nodup
  order : names.Pairwise fun a b => ∃ front back, added = front ++ a :: back ∧ b ∉ front

theorem inFirstOrder_firstOccurrences (added : List String) :
    InFirstOrder added (firstOccurrences added) where
  mem _ := mem_firstOccurrences
  nodup := nodup_firstOccurrences added
  order := pairwise_firstOccurrences added

theorem attribute?_eq_none_iff {classes : List String} :
    attribute? classes = none ↔ classes = [] := by
  simp [attribute?]

/-- Names without spaces are found again between the spaces. -/
theorem splitOn_attribute? {classes : List String} (h : ∀ name ∈ classes, ' ' ∉ name.toList)
    {value : String} (hvalue : attribute? classes = some value) :
    (value.toList.splitOn ' ').map String.ofList = classes := by
  unfold attribute? at hvalue
  split at hvalue
  · cases hvalue
  · next hsome =>
      cases hvalue
      have hne : classes.map String.toList ≠ [] := by simpa using hsome
      have hspace : " ".toList = [' '] := rfl
      rw [String.toList_intercalate, hspace,
        List.splitOn_intercalate _ (List.forall_mem_map.mpr h) hne, List.map_map]
      simp [Function.comp_def]

/-- If names were added, the attribute has a value that tells which. -/
theorem exists_attribute? {added : List String} (hadded : added ≠ [])
    (hspace : ∀ name ∈ added, ' ' ∉ name.toList) :
    ∃ value, attribute? (firstOccurrences added) = some value ∧
      (value.toList.splitOn ' ').map String.ofList = firstOccurrences added := by
  obtain ⟨name, hname⟩ := List.exists_mem_of_ne_nil _ hadded
  have hsome : attribute? (firstOccurrences added) ≠ none :=
    fun hnone => List.ne_nil_of_mem (mem_firstOccurrences.mpr hname)
      (attribute?_eq_none_iff.mp hnone)
  obtain ⟨value, hvalue⟩ := Option.ne_none_iff_exists'.mp hsome
  refine ⟨value, hvalue, splitOn_attribute? (fun name hname => ?_) hvalue⟩
  exact hspace name (mem_firstOccurrences.mp hname)

/-! ## Calls that add classes among others -/

section Separate

variable {α β : Type} {set : α → β → α} {classes : α → List String} {bare : α → α}
  {class? : β → Option String}

/-- A call adds a class and leaves the rest alone, or it leaves the classes alone and does not
look at them. The rest is the element with its classes taken away, and with the classes it is
the element again. -/
structure Separate (set : α → β → α) (classes : α → List String) (bare : α → α)
    (class? : β → Option String) : Prop where
  of_some : ∀ x {call name}, class? call = some name →
    classes (set x call) = add (classes x) name ∧ bare (set x call) = bare x
  of_none : ∀ x {call}, class? call = none →
    classes (set x call) = classes x ∧ bare (set x call) = set (bare x) call
  ext : ∀ {x y}, classes x = classes y → bare x = bare y → x = y

namespace Separate

theorem classes_foldl (h : Separate set classes bare class?) (calls : List β) (x : α) :
    classes (calls.foldl set x) = (calls.filterMap class?).foldl add (classes x) := by
  induction calls generalizing x with
  | nil => rfl
  | cons call calls ih =>
      rw [List.foldl_cons, ih]
      cases hcall : class? call with
      | none => rw [List.filterMap_cons_none hcall, (h.of_none x hcall).1]
      | some name => rw [List.filterMap_cons_some hcall, (h.of_some x hcall).1, List.foldl_cons]

theorem bare_foldl (h : Separate set classes bare class?) (calls : List β) (x : α) :
    bare (calls.foldl set x) =
      (calls.filter fun call => (class? call).isNone).foldl set (bare x) := by
  induction calls generalizing x with
  | nil => rfl
  | cons call calls ih =>
      rw [List.foldl_cons, ih]
      cases hcall : class? call with
      | none =>
          rw [List.filter_cons_of_pos (by rw [hcall]; rfl), (h.of_none x hcall).2,
            List.foldl_cons]
      | some name =>
          rw [List.filter_cons_of_neg (by rw [hcall]; exact Bool.false_ne_true),
            (h.of_some x hcall).2]

theorem classes_eq (h : Separate set classes bare class?) {blank : α} (hblank : classes blank = [])
    (calls : List β) :
    classes (calls.foldl set blank) = firstOccurrences (calls.filterMap class?) := by
  rw [h.classes_foldl, hblank, foldl_add_nil]

/-- The classes at their first occurrences and the other calls are all that matters. -/
theorem foldl_congr (h : Separate set classes bare class?) {blank : α} (hblank : classes blank = [])
    {calls other : List β}
    (hadded : firstOccurrences (other.filterMap class?) = firstOccurrences (calls.filterMap class?))
    (hothers : (other.filter fun call => (class? call).isNone) =
      calls.filter fun call => (class? call).isNone) :
    other.foldl set blank = calls.foldl set blank := by
  refine h.ext ?_ ?_
  · rw [h.classes_eq hblank, h.classes_eq hblank, hadded]
  · rw [h.bare_foldl, h.bare_foldl, hothers]

end Separate

end Separate

end Element.Classes

/-! ## Divisions and labels -/

namespace Element

variable {γ : Type}

/-- The class that a call adds. -/
def Division.Setting.class? : Division.Setting γ → Option String
  | .addClass name => some name
  | .id _ | .child _ | .children _ => none

/-- The class that a call adds. -/
def Label.Setting.class? : Label.Setting γ → Option String
  | .addClass name => some name
  | .target _ | .id _ | .child _ => none

theorem Division.separate : Classes.Separate (set : Division γ → _ → _) classes
    (fun division => { division with classes := [] }) Setting.class? where
  of_some _ call _ hcall := by
    cases call with
    | addClass =>
        cases hcall
        exact ⟨rfl, rfl⟩
    | id | child | children => cases hcall
  of_none _ call hcall := by
    cases call with
    | addClass => cases hcall
    | id | child | children => exact ⟨rfl, rfl⟩
  ext {x y} hclasses hbare := by
    cases x
    cases y
    simp_all

theorem Label.separate : Classes.Separate (set : Label γ → _ → _) classes
    (fun label => { label with classes := [] }) Setting.class? where
  of_some _ call _ hcall := by
    cases call with
    | addClass =>
        cases hcall
        exact ⟨rfl, rfl⟩
    | target | id | child => cases hcall
  of_none _ call hcall := by
    cases call with
    | addClass => cases hcall
    | target | id | child => exact ⟨rfl, rfl⟩
  ext {x y} hclasses hbare := by
    cases x
    cases y
    simp_all

/-- The elements that classes can be added to. -/
inductive Container where
  | division
  | label

namespace Container

def Setting (γ : Type) : Container → Type
  | division => Division.Setting γ
  | label => Label.Setting γ

def class? : (kind : Container) → kind.Setting γ → Option String
  | division => Division.Setting.class?
  | label => Label.Setting.class?

def tag : Container → String
  | division => "div"
  | label => "label"

/-- The classes that calls add, in the order of the calls, each as often as it is added. -/
def added (kind : Container) (calls : List (kind.Setting γ)) : List String :=
  calls.filterMap kind.class?

/-- The calls that do not add a class. -/
def others (kind : Container) (calls : List (kind.Setting γ)) : List (kind.Setting γ) :=
  calls.filter fun call => (kind.class? call).isNone

/-- The table of the element that was set up by calls. -/
def fields : (kind : Container) → List (kind.Setting γ) → List Field
  | division, calls =>
    let d : Division γ := .ofSettings calls
    Division.fields d.id d.classes
  | label, calls =>
    let l : Label γ := .ofSettings calls
    Label.fields l.target l.id l.classes

def children : (kind : Container) → List (kind.Setting γ) → List γ
  | division, calls => (Division.ofSettings calls).children
  | label, calls => (Label.ofSettings calls).children

theorem isTable_fields (kind : Container) (calls : List (kind.Setting γ)) :
    Field.IsTable (kind.fields calls) := by
  cases kind with
  | division => exact Division.isTable_fields _ _
  | label => exact Label.isTable_fields _ _ _

/-- The class is the last field of the table. -/
theorem exists_fields_eq (kind : Container) (calls : List (kind.Setting γ)) :
    ∃ front, (∀ f ∈ front, f.name ≠ "class") ∧
      kind.fields calls =
        front ++ [.text "class" (Classes.attribute? (firstOccurrences (kind.added calls)))] := by
  cases kind with
  | division =>
      let d : Division γ := .ofSettings calls
      have hclasses : d.classes = firstOccurrences (division.added calls) :=
        Division.separate.classes_eq rfl calls
      refine ⟨[.text "id" d.id], by simp [Field.name], ?_⟩
      rw [← hclasses]
      rfl
  | label =>
      let l : Label γ := .ofSettings calls
      have hclasses : l.classes = firstOccurrences (label.added calls) :=
        Label.separate.classes_eq rfl calls
      refine ⟨[.text "for" l.target, .text "id" l.id], by simp [Field.name], ?_⟩
      rw [← hclasses]
      rfl

end Container

end Element

/-! ## The rendered element -/

namespace Markup

/-- A field that is not asked for by another name is found by its own. -/
theorem attribute?_concat {front : List Field} {name : String} (hfront : ∀ f ∈ front, f.name ≠ name)
    (tag : String) (value : Option String) :
    (ElementData.mk tag (Field.attributes (front ++ [.text name value]))).attribute? name =
      value.map (.valued name) := by
  have hnone : (front.filterMap Field.attribute?).find? (fun a => a.name = name) = none := by
    refine List.find?_eq_none.mpr fun a ha => ?_
    obtain ⟨f, hf, hattribute⟩ := List.mem_filterMap.mp ha
    simpa [Field.name_attribute? hattribute] using hfront f hf
  rw [ElementData.attribute?, Field.attributes, List.filterMap_append, List.find?_append, hnone,
    Option.none_or]
  cases value with
  | none => rfl
  | some value => exact List.find?_cons_of_pos (by simp [Attribute.valued])

end Markup

namespace Element.Container

variable {κ σ : Type} [KeyFamily κ]

/-- The component that was set up by calls. -/
def component : (kind : Container) → List (kind.Setting (Component κ σ)) → Component κ σ
  | division, calls => .division (.ofSettings calls)
  | label, calls => .label (.ofSettings calls)

theorem render_component (kind : Container) (calls : List (kind.Setting (Component κ σ)))
    (env : Environment κ) (p : NodeId) :
    (kind.component calls).render env p =
      Rendering.report (.renderLeaf (kind.component calls).componentType) >>= fun _ =>
        enclose kind.tag (kind.fields calls)
          (fun node => Component.renderAll env node (kind.children calls)) p := by
  cases kind with
  | division => exact Component.render_division env p _ _ _
  | label => exact Component.render_label env p _ _ _ _

theorem component_congr (kind : Container) {calls other : List (kind.Setting (Component κ σ))}
    (hadded : firstOccurrences (kind.added other) = firstOccurrences (kind.added calls))
    (hothers : kind.others other = kind.others calls) :
    kind.component other = kind.component calls := by
  cases kind with
  | division => exact congrArg Component.division (Division.separate.foldl_congr rfl hadded hothers)
  | label => exact congrArg Component.label (Label.separate.foldl_congr rfl hadded hothers)

/-- A class that was added before can be added again at any later point. -/
theorem component_again (kind : Container) {before after : List (kind.Setting (Component κ σ))}
    {again : kind.Setting (Component κ σ)} {name : String} (hagain : kind.class? again = some name)
    (hname : name ∈ kind.added before) :
    kind.component (before ++ again :: after) = kind.component (before ++ after) := by
  have hadded : kind.added (before ++ again :: after) =
      kind.added before ++ name :: kind.added after := by
    rw [added, List.filterMap_append, List.filterMap_cons_some hagain, added, added]
  have hothers : kind.others (before ++ again :: after) = kind.others (before ++ after) := by
    rw [others, others, List.filter_append, List.filter_append,
      List.filter_cons_of_neg (by rw [hagain]; exact Bool.false_ne_true)]
  refine kind.component_congr ?_ hothers
  rw [hadded, Classes.firstOccurrences_again hname, added, added, added, List.filterMap_append]

theorem attribute?_class {γ : Type} (kind : Container) (calls : List (kind.Setting γ)) :
    (ElementData.mk kind.tag (Field.attributes (kind.fields calls))).attribute? "class" =
      (Classes.attribute? (firstOccurrences (kind.added calls))).map (.valued "class") := by
  obtain ⟨front, hfront, hfields⟩ := kind.exists_fields_eq calls
  rw [hfields]
  exact attribute?_concat hfront kind.tag _

/-- Where a node may have children, it gets one with the attributes of the table, and this
child is not changed by what is drawn inside it. -/
theorem get?_render_component (kind : Container) (calls : List (kind.Setting (Component κ σ)))
    (env : Environment κ) {p : NodeId} {stage : Stage σ}
    (hp : stage.markup.appendRefusal? p = none) :
    let after := ((kind.component calls).render env p stage).2.markup
    after.get? stage.markup.nextId =
        some (.element ⟨kind.tag, Field.attributes (kind.fields calls)⟩) ∧
      after.parent? stage.markup.nextId = some p := by
  intro after
  have htag : isName kind.tag = true := by cases kind <;> decide
  obtain ⟨events, henclose, -⟩ := enclose_grow hp htag (kind.isTable_fields calls)
    (fun node => Component.renderAll env node (kind.children calls))
    (stage.canvas.events.push (.renderLeaf (kind.component calls).componentType)) stage.hidden
  let grown := stage.markup.grow p (.element ⟨kind.tag, Field.attributes (kind.fields calls)⟩)
  have hnew : grown.contains stage.markup.nextId = true := (contains_grow _ _ _ _).mpr (.inr rfl)
  have huntouched := Component.untouched_renderAll env stage.markup.nextId (kind.children calls)
    ⟨⟨grown, events⟩, stage.hidden⟩
  have hafter : after = _ := congrArg (fun outcome => outcome.2.markup)
    ((congrFun (kind.render_component calls env p) stage).trans henclose)
  rw [hafter]
  refine ⟨(huntouched.get? _ hnew).trans ?_, (huntouched.parent? _ hnew).trans ?_⟩
  · exact (get?_grow _ _ _ _).trans (if_pos rfl)
  · exact (parent?_grow _ _ _ _).trans (if_pos rfl)

/-- However a division or a label was set up with classes that have no space in them, wherever a
node may have children it becomes an element there. The element has no class attribute if no
class was added. Otherwise the value of the attribute, split at its spaces, is the added
classes without repetitions, in the order in which they were first added. A class that was
added before can be added again at any later point, and the calls that add classes can be
moved among the other calls: what is rendered is the same. -/
theorem class_of_added (kind : Container) (calls : List (kind.Setting (Component κ σ)))
    (hspace : ∀ name ∈ kind.added calls, ' ' ∉ name.toList) (env : Environment κ) :
    let rendered := (kind.component calls).render env
    (∀ (p : NodeId) (stage : Stage σ), stage.markup.appendRefusal? p = none →
      ∃ e, (rendered p stage).2.markup.get? stage.markup.nextId = some (.element e) ∧
        (rendered p stage).2.markup.parent? stage.markup.nextId = some p ∧ e.tag = kind.tag ∧
        (kind.added calls = [] → e.hasAttribute "class" = false) ∧
        (kind.added calls ≠ [] → ∃ value, e.attribute? "class" = some (.valued "class" value) ∧
          let names := (value.toList.splitOn ' ').map String.ofList
          names = firstOccurrences (kind.added calls) ∧
            Classes.InFirstOrder (kind.added calls) names)) ∧
    (∀ before after again name, calls = before ++ after → kind.class? again = some name →
      name ∈ kind.added before →
        ∀ p, (kind.component (before ++ again :: after)).render env p = rendered p) ∧
    ∀ other, kind.added other = kind.added calls → kind.others other = kind.others calls →
      ∀ p, (kind.component other).render env p = rendered p := by
  intro rendered
  refine ⟨fun p stage hp => ?_, ?_, fun other hadded hothers p => ?_⟩
  · obtain ⟨hget, hparent⟩ := kind.get?_render_component calls env hp
    have hclass := kind.attribute?_class calls
    refine ⟨_, hget, hparent, rfl, fun hnone => ?_, fun hsome => ?_⟩
    · rw [ElementData.hasAttribute, hclass, hnone]
      rfl
    · obtain ⟨value, hvalue, hnames⟩ := Classes.exists_attribute? hsome hspace
      refine ⟨value, hclass.trans (congrArg _ hvalue), hnames, ?_⟩
      rw [hnames]
      exact Classes.inFirstOrder_firstOccurrences _
  · rintro before after again name rfl hagain hname p
    rw [kind.component_again hagain hname]
  · rw [kind.component_congr (congrArg _ hadded) hothers]

/-- A label with two classes, one of them added twice, between its other calls; and the same
label with its classes in front. -/
theorem class_of_added_label :
    let content : Component Empty Unit := .text "x"
    let calls : List (Label.Setting (Component Empty Unit)) :=
      [.addClass "b", .target "t", .addClass "a", .child content]
    let again : List (Label.Setting (Component Empty Unit)) :=
      [.addClass "b", .target "t", .addClass "a", .addClass "b", .child content]
    let moved : List (Label.Setting (Component Empty Unit)) :=
      [.addClass "b", .addClass "a", .target "t", .child content]
    let rendered (calls : List (Label.Setting (Component Empty Unit))) :=
      (Component.label (.ofSettings calls)).render .empty root
    (∃ e value, (rendered calls (Stage.fresh ())).2.markup.get? ⟨2⟩ = some (.element e) ∧
      e.attribute? "class" = some (.valued "class" value) ∧
      (value.toList.splitOn ' ').map String.ofList = ["b", "a"]) ∧
    rendered again = rendered calls ∧ rendered moved = rendered calls := by
  intro content calls again moved rendered
  have hspace : ∀ name ∈ label.added calls, ' ' ∉ name.toList :=
    (by decide : ∀ name ∈ ["b", "a"], ' ' ∉ name.toList)
  obtain ⟨helement, hagain, hmoved⟩ := label.class_of_added calls hspace .empty
  obtain ⟨e, hget, -, -, -, hclass⟩ := helement root (Stage.fresh ()) rfl
  obtain ⟨value, hvalue, hnames, -⟩ := hclass (List.cons_ne_nil _ _)
  exact ⟨⟨e, value, hget, hvalue, hnames.trans (by decide)⟩,
    hagain [.addClass "b", .target "t", .addClass "a"] [.child content] (.addClass "b") "b" rfl rfl
      List.mem_cons_self root, hmoved moved rfl rfl root⟩

end Element.Container

end HtmlComponents
