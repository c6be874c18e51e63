import HtmlComponents.Proofs.Run

/-!
# What is refused, and that it leaves no trace

An operation looks at the name first, then at the node, and refuses with the first
fault that it meets. `Unnameable`, `NoChild` and `NoAttribute` are the faults, said of
the text and of the tree without regard to the order in which anything is looked at.
Each refusal is the answer to one fault and to no other, and where there is no fault
the operation succeeds.

A refused operation has written nothing. For most refusals that is plain, because they
come before the first change. The one that comes after a change, when a new node is to
be made its parent's child and the parent has no list of children, is never given on maps
that operations have made: they are in step, so the parent that was seen among the nodes
has its list. Maps that are out of step would be refused there, with the node put in.
-/

namespace HtmlComponents.Markup

open HtmlComponents.Text

/-! ## Faults -/

/-- A text that is no name of a tag or an attribute. -/
def Unnameable (text : String) : Prop :=
  text = "" ∨ ∃ c ∈ text.toList,
    isBlank c = true ∨ isControl c = true ∨ c ∈ ['/', '>', '<', '"', '\'', '=']

theorem isName_eq_false_iff {text : String} : isName text = false ↔ Unnameable text := by
  have hempty : text.toList.isEmpty = true ↔ text = "" := by
    rw [List.isEmpty_iff, ← String.toList_inj]
    rfl
  rw [isName, Bool.and_eq_false_iff, Bool.not_eq_false', Bool.not_eq_false', hempty,
    List.any_eq_true, Unnameable]
  simp only [endsName, Bool.or_eq_true, List.contains_iff_mem, or_assoc]

theorem isName_eq_true_iff {text : String} : isName text = true ↔ ¬ Unnameable text := by
  rw [← isName_eq_false_iff, Bool.not_eq_false]

/-- Why a node cannot get a child. -/
inductive NoChild (m : Markup) (parent : NodeId) : Error → Prop where
  | unknown (h : m.contains parent = false) : NoChild m parent .unknownNode
  | text {content : String} (h : m.get? parent = some (.text content)) :
      NoChild m parent .notAContainer
  | void {e : ElementData} (h : m.get? parent = some (.element e))
      (hvoid : isVoid e.tag = true) : NoChild m parent (.voidElement e.tag)

/-- Why a node cannot get an attribute of a name. -/
inductive NoAttribute (m : Markup) (node : NodeId) (name : String) : Error → Prop where
  | unknown (h : m.contains node = false) : NoAttribute m node name .unknownNode
  | document (h : m.get? node = some .document) : NoAttribute m node name .notAnElement
  | text {content : String} (h : m.get? node = some (.text content)) :
      NoAttribute m node name .notAnElement
  | duplicate {e : ElementData} (h : m.get? node = some (.element e))
      (hname : name ∈ e.attributeNames) :
      NoAttribute m node name (.duplicateAttribute e.tag name)

variable {m : Markup}

theorem ElementData.hasAttribute_iff {e : ElementData} {name : String} :
    e.hasAttribute name = true ↔ name ∈ e.attributeNames := by
  simp [hasAttribute, attribute?, attributeNames]

/-! ## Asking -/

theorem appendRefusal?_eq_some_iff {parent : NodeId} {refusal : Error} :
    m.appendRefusal? parent = some refusal ↔ NoChild m parent refusal := by
  constructor
  · intro h
    unfold appendRefusal? childRefusal? at h
    split at h
    · next hget =>
        cases h
        exact .unknown (get?_eq_none_iff.mp hget)
    · next hget =>
        cases h
        exact .text hget
    · next hget =>
        split at h
        · next hvoid =>
            cases h
            exact .void hget hvoid
        · cases h
    · cases h
  · intro h
    unfold appendRefusal? childRefusal?
    cases h with
    | unknown h => rw [get?_eq_none_iff.mpr h]
    | text h => rw [h]
    | void h hvoid =>
        rw [h]
        exact if_pos hvoid

theorem attributeRefusal?_eq_some_iff {node : NodeId} {name : String} {refusal : Error} :
    m.attributeRefusal? node name = some refusal ↔ NoAttribute m node name refusal := by
  constructor
  · intro h
    unfold attributeRefusal? settingRefusal? at h
    split at h
    · next hget =>
        cases h
        exact .unknown (get?_eq_none_iff.mp hget)
    · next hget =>
        cases h
        exact .document hget
    · next hget =>
        cases h
        exact .text hget
    · next hget =>
        split at h
        · next hname =>
            cases h
            exact .duplicate hget (ElementData.hasAttribute_iff.mp hname)
        · cases h
  · intro h
    unfold attributeRefusal? settingRefusal?
    cases h with
    | unknown h => rw [get?_eq_none_iff.mpr h]
    | document h => rw [h]
    | text h => rw [h]
    | duplicate h hname =>
        rw [h]
        exact if_pos (ElementData.hasAttribute_iff.mpr hname)

/-! ## Answering -/

theorem append_error_iff {parent : NodeId} {data : NodeData} {refusal : Error} :
    (append parent data m).1 = .error refusal ↔ NoChild m parent refusal := by
  rw [append_eq, ← appendRefusal?_eq_some_iff]
  split
  · next other h =>
      rw [h]
      constructor
      · intro heq
        cases heq
        rfl
      · intro heq
        cases heq
        rfl
  · next h =>
      rw [h]
      constructor
      · intro heq
        cases heq
      · intro heq
        cases heq

theorem append_ok_iff {parent child : NodeId} {data : NodeData} :
    (append parent data m).1 = .ok child ↔
      (∃ held, m.get? parent = some held ∧ held.isContainer = true) ∧ child = m.nextId := by
  rw [append_eq, ← appendRefusal?_eq_none_iff]
  split
  · next refusal h =>
      rw [h]
      constructor
      · intro heq
        cases heq
      · rintro ⟨heq, -⟩
        cases heq
  · next h =>
      constructor
      · intro heq
        cases heq
        exact ⟨h, rfl⟩
      · rintro ⟨-, rfl⟩
        rfl

theorem append_of_error {parent : NodeId} {data : NodeData} {refusal : Error}
    (h : (append parent data m).1 = .error refusal) : (append parent data m).2 = m := by
  rw [append_eq] at h ⊢
  split at h
  · rfl
  · cases h

theorem appendElement_eq_append {tag : String} (h : ¬ Unnameable tag) (parent : NodeId) :
    appendElement parent tag m = append parent (.element (.ofTag tag)) m := by
  rw [appendElement_eq, if_pos (isName_eq_true_iff.mpr h)]

theorem appendElement_eq_error {tag : String} (h : Unnameable tag) (parent : NodeId) :
    appendElement parent tag m = (.error (.invalidName .tag tag), m) := by
  rw [appendElement_eq, isName_eq_false_iff.mpr h]
  rfl

theorem appendElement_error_iff {parent : NodeId} {tag : String} {refusal : Error} :
    (appendElement parent tag m).1 = .error refusal ↔
      Unnameable tag ∧ refusal = .invalidName .tag tag ∨
        ¬ Unnameable tag ∧ NoChild m parent refusal := by
  by_cases htag : Unnameable tag
  · rw [appendElement_eq_error htag]
    simp [htag, eq_comm]
  · rw [appendElement_eq_append htag, append_error_iff]
    simp [htag]

theorem appendElement_ok_iff {parent child : NodeId} {tag : String} :
    (appendElement parent tag m).1 = .ok child ↔
      ¬ Unnameable tag ∧ (∃ held, m.get? parent = some held ∧ held.isContainer = true) ∧
        child = m.nextId := by
  by_cases htag : Unnameable tag
  · rw [appendElement_eq_error htag]
    simp [htag]
  · rw [appendElement_eq_append htag, append_ok_iff]
    simp [htag]

theorem appendElement_of_error {parent : NodeId} {tag : String} {refusal : Error}
    (h : (appendElement parent tag m).1 = .error refusal) :
    (appendElement parent tag m).2 = m := by
  by_cases htag : Unnameable tag
  · rw [appendElement_eq_error htag]
  · rw [appendElement_eq_append htag] at h ⊢
    exact append_of_error h

theorem setAttribute_eq_error {name : String} (h : Unnameable name) (node : NodeId)
    (value : Option String) :
    setAttribute node name value m = (.error (.invalidName .attribute name), m) := by
  rw [setAttribute_eq, isName_eq_false_iff.mpr h]
  rfl

theorem setAttribute_error_iff {node : NodeId} {name : String} {value : Option String}
    {refusal : Error} :
    (setAttribute node name value m).1 = .error refusal ↔
      Unnameable name ∧ refusal = .invalidName .attribute name ∨
        ¬ Unnameable name ∧ NoAttribute m node name refusal := by
  by_cases hname : Unnameable name
  · rw [setAttribute_eq_error hname]
    simp [hname, eq_comm]
  · rw [setAttribute_eq, if_pos (isName_eq_true_iff.mpr hname), ← attributeRefusal?_eq_some_iff]
    rcases m.attributeRefusal? node name with _ | other
    · simp [hname]
    · simp [hname]

theorem setAttribute_ok_iff {node : NodeId} {name : String} {value : Option String} :
    (setAttribute node name value m).1 = .ok () ↔
      ¬ Unnameable name ∧ ∃ e, m.get? node = some (.element e) ∧ name ∉ e.attributeNames := by
  simp only [← ElementData.hasAttribute_eq_false_iff, ← attributeRefusal?_eq_none_iff]
  by_cases hname : Unnameable name
  · rw [setAttribute_eq_error hname]
    simp [hname]
  · rw [setAttribute_eq, if_pos (isName_eq_true_iff.mpr hname)]
    rcases m.attributeRefusal? node name with _ | refusal
    · simp [hname]
    · simp [hname]

theorem setAttribute_of_error {node : NodeId} {name : String} {value : Option String}
    {refusal : Error} (h : (setAttribute node name value m).1 = .error refusal) :
    (setAttribute node name value m).2 = m := by
  rw [setAttribute_eq] at h ⊢
  split at h
  · next hname =>
      rw [if_pos hname]
      split at h
      · rfl
      · cases h
  · next hname => rw [if_neg hname]

/-! ## The operations -/

/-- Maps that operations make of those of the empty tree, in any order and on any node
numbers. Any of the operations may have refused. -/
inductive Maps.Reachable : Maps → Prop where
  | empty : Reachable .empty
  | appendElement {maps : Maps} (h : Reachable maps) (parent : NodeId) (tag : String) :
      Reachable (Maps.appendElement parent tag maps).2
  | appendText {maps : Maps} (h : Reachable maps) (parent : NodeId) (content : String) :
      Reachable (Maps.appendText parent content maps).2
  | setAttribute {maps : Maps} (h : Reachable maps) (node : NodeId) (name : String)
      (value : Option String) : Reachable (Maps.setAttribute node name value maps).2

theorem Maps.Reachable.inStep {maps : Maps} (h : maps.Reachable) : maps.InStep := by
  induction h with
  | empty => exact .empty
  | appendElement _ parent tag ih => exact appendElement_inStep parent tag ih
  | appendText _ parent content ih => exact append_inStep parent _ ih
  | setAttribute _ node name value ih => exact setAttribute_inStep node name value ih

/-- The maps of the trees that come up are such maps, also when components were rendered. -/
theorem Reachable.maps {m : Markup} (h : Reachable m) : m.maps.Reachable :=
  h.calls.keeps (P := fun m => m.maps.Reachable) (fun m call hm => by
    cases call with
    | appendElement parent tag => exact .appendElement hm parent tag
    | appendText parent content => exact .appendText hm parent content
    | setAttribute node name value => exact .setAttribute hm node name value) .empty

/-- The tree that the maps are. -/
def Maps.Reachable.tree {maps : Maps} (h : maps.Reachable) : Markup := ⟨maps, h.inStep⟩

/-- An element is refused for its tag, or else for its parent, and a text for its parent
only; an attribute is refused for its name, or else for its node. With no such fault the
operation succeeds, and a new node gets the next number: for a parent that exists,
nothing is asked but whether it is a container. A refused operation leaves all maps as they
were, and with them the number that comes next. The refusal that would come after a change
is not among the answers: whenever a parent is accepted, the map of children has it after
the new node is put in. -/
theorem refused_iff_fault {maps : Maps} (h : maps.Reachable) (id : NodeId) :
    ((∀ tag refusal, (Maps.appendElement id tag maps).1 = .error refusal ↔
        Unnameable tag ∧ refusal = .invalidName .tag tag ∨
          ¬ Unnameable tag ∧ NoChild h.tree id refusal) ∧
      (∀ content refusal, (Maps.appendText id content maps).1 = .error refusal ↔
        NoChild h.tree id refusal) ∧
      ∀ name value refusal, (Maps.setAttribute id name value maps).1 = .error refusal ↔
        Unnameable name ∧ refusal = .invalidName .attribute name ∨
          ¬ Unnameable name ∧ NoAttribute h.tree id name refusal) ∧
    ((∀ tag child, (Maps.appendElement id tag maps).1 = .ok child ↔
        ¬ Unnameable tag ∧ (∃ data, maps.get? id = some data ∧ data.isContainer = true) ∧
          child = maps.nextId) ∧
      (∀ content child, (Maps.appendText id content maps).1 = .ok child ↔
        (∃ data, maps.get? id = some data ∧ data.isContainer = true) ∧ child = maps.nextId) ∧
      ∀ name value, (Maps.setAttribute id name value maps).1 = .ok () ↔
        ¬ Unnameable name ∧ ∃ e, maps.get? id = some (.element e) ∧ name ∉ e.attributeNames) ∧
    ((∀ tag refusal, (Maps.appendElement id tag maps).1 = .error refusal →
        (Maps.appendElement id tag maps).2 = maps) ∧
      (∀ content refusal, (Maps.appendText id content maps).1 = .error refusal →
        (Maps.appendText id content maps).2 = maps) ∧
      ∀ name value refusal, (Maps.setAttribute id name value maps).1 = .error refusal →
        (Maps.setAttribute id name value maps).2 = maps) ∧
    (maps.appendRefusal? id = none → ∀ data,
      ((maps.insert id data).children.get? id).isSome = true ∧
        (Maps.append id data maps).1 = .ok maps.nextId) := by
  refine ⟨⟨?_, ?_, ?_⟩, ⟨?_, ?_, ?_⟩, ⟨?_, ?_, ?_⟩, fun hid data => ⟨?_, ?_⟩⟩
  · intro tag refusal
    exact appendElement_error_iff (m := h.tree)
  · intro content refusal
    exact append_error_iff (m := h.tree)
  · intro name value refusal
    exact setAttribute_error_iff (m := h.tree)
  · intro tag child
    exact appendElement_ok_iff (m := h.tree)
  · intro content child
    exact append_ok_iff (m := h.tree)
  · intro name value
    exact setAttribute_ok_iff (m := h.tree)
  · intro tag refusal herror
    exact congrArg Markup.maps (appendElement_of_error (m := h.tree) herror)
  · intro content refusal herror
    exact congrArg Markup.maps (append_of_error (m := h.tree) herror)
  · intro name value refusal herror
    exact congrArg Markup.maps (setAttribute_of_error (m := h.tree) herror)
  · have hcontains : maps.contains id = true := contains_of_appendRefusal? (m := h.tree) hid
    rw [(h.inStep.insert id data).children, Maps.contains_insert, hcontains, Bool.or_true]
  · exact append_ok_iff (m := h.tree).mpr ⟨appendRefusal?_eq_none_iff.mp hid, rfl⟩

/-- A void element gets neither a child nor a second attribute of one name, and a bad tag
is the first fault of two. Nothing of it is seen in the maps. -/
theorem refused_iff_fault_void :
    let maps := (Maps.setAttribute ⟨2⟩ "id" (some "a") (Maps.appendElement root "Input" .empty).2).2
    (Maps.appendText ⟨2⟩ "lost" maps).1 = .error (.voidElement "Input") ∧
      (Maps.appendElement ⟨2⟩ "b c" maps).1 = .error (.invalidName .tag "b c") ∧
      (Maps.setAttribute ⟨2⟩ "id" none maps).1 = .error (.duplicateAttribute "Input" "id") ∧
      ((Maps.appendText ⟨2⟩ "lost" maps).2 = maps ∧
        (Maps.setAttribute ⟨2⟩ "id" none maps).2 = maps) ∧
      ((maps.insert root (.text "new")).children.get? root).isSome = true := by
  intro maps
  have hmaps : maps.Reachable := .setAttribute (.appendElement .empty root "Input") ⟨2⟩ "id" _
  obtain ⟨⟨helement, htext, hattribute⟩, -, ⟨-, htextKept, hattributeKept⟩, -⟩ :=
    refused_iff_fault hmaps ⟨2⟩
  have hget : hmaps.tree.get? ⟨2⟩ = some (.element ⟨"Input", [.valued "id" "a"]⟩) := rfl
  have hvoid : (Maps.appendText ⟨2⟩ "lost" maps).1 = .error (.voidElement "Input") :=
    (htext _ _).mpr (.void hget (by decide +kernel))
  have htag : Unnameable "b c" := .inr ⟨' ', by decide, .inl (by decide)⟩
  have hname : ¬ Unnameable "id" := isName_eq_true_iff.mp (by decide +kernel)
  have hduplicate : (Maps.setAttribute ⟨2⟩ "id" none maps).1 =
      .error (.duplicateAttribute "Input" "id") :=
    (hattribute _ _ _).mpr (.inr ⟨hname, .duplicate hget (by decide)⟩)
  exact ⟨hvoid, (helement _ _).mpr (.inl ⟨htag, rfl⟩), hduplicate,
    ⟨htextKept _ _ hvoid, hattributeKept _ _ _ hduplicate⟩,
    ((refused_iff_fault hmaps root).2.2.2 rfl _).1⟩

/-- Maps out of step, in which the document has no list of children. The late refusal is
given, and leaves the new node behind. -/
example :
    (Maps.append root (.text "new") ⟨#[.document], .empty, .empty⟩).1 = .error .unknownNode ∧
      (Maps.append root (.text "new") ⟨#[.document], .empty, .empty⟩).2.contains ⟨2⟩ = true :=
  ⟨rfl, rfl⟩

end HtmlComponents.Markup
