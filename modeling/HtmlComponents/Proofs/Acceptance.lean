import HtmlComponents.Proofs.Emission
import HtmlComponents.Proofs.Refusal
import HtmlComponents.Proofs.Run

/-!
# A table is set up to its first fault

A table offers attributes to an element, in the order of its fields. The element takes
them one by one until there is one that it cannot take: its name is no name, or the
element has an attribute of that name by then, be it an old one or one from the table
itself. What it has taken it keeps.

Which attributes are taken can be said without going through the table. An offer is
`Acceptable` to an element if it is free of such faults, and what is taken is the longest
acceptable prefix of what is offered. The proof takes the table apart from its front. An
offer is acceptable if its first attribute is, and the rest is acceptable to the element
that has got that one (`acceptable_cons_iff`), so the longest prefix grows with the
element as it does in the loop.
-/

namespace HtmlComponents

open HtmlComponents.Markup HtmlComponents.Text

/-! ## Offers -/

/-- Attributes that can all be set on an element that has the given names: their names
are names, the element has none of them, and none comes twice. -/
structure Acceptable (present : List String) (offer : List Attribute) : Prop where
  nameable : ∀ a ∈ offer, ¬ Unnameable a.name
  absent : ∀ a ∈ offer, a.name ∉ present
  nodup : (offer.map Attribute.name).Nodup

/-- The longest acceptable prefix of an offer. -/
structure LongestAcceptable (present : List String) (offer taken : List Attribute) : Prop where
  isPrefix : taken <+: offer
  acceptable : Acceptable present taken
  longest : ∀ other, other <+: offer → Acceptable present other → other <+: taken

section Offers

variable {present : List String} {offer taken : List Attribute} {a : Attribute}

theorem acceptable_nil : Acceptable present [] where
  nameable _ ha := by cases ha
  absent _ ha := by cases ha
  nodup := List.nodup_nil

/-- An offer is judged from its front, by an element that grows. -/
theorem acceptable_cons_iff :
    Acceptable present (a :: offer) ↔
      ¬ Unnameable a.name ∧ a.name ∉ present ∧ Acceptable (present ++ [a.name]) offer := by
  constructor
  · rintro ⟨hnameable, habsent, hnodup⟩
    rw [List.map_cons, List.nodup_cons] at hnodup
    refine ⟨hnameable a List.mem_cons_self, habsent a List.mem_cons_self,
      fun b hb => hnameable b (List.mem_cons_of_mem a hb), fun b hb => ?_, hnodup.2⟩
    rw [List.mem_append, List.mem_singleton, not_or]
    refine ⟨habsent b (List.mem_cons_of_mem a hb), fun hname => hnodup.1 ?_⟩
    rw [← hname]
    exact List.mem_map_of_mem hb
  · rintro ⟨hname, hnew, hrest⟩
    have hapart : ∀ b ∈ offer, b.name ∉ present ∧ b.name ≠ a.name := by
      intro b hb
      have hb' := hrest.absent b hb
      rwa [List.mem_append, List.mem_singleton, not_or] at hb'
    constructor
    · intro b hb
      rcases List.mem_cons.mp hb with rfl | hb'
      · exact hname
      · exact hrest.nameable b hb'
    · intro b hb
      rcases List.mem_cons.mp hb with rfl | hb'
      · exact hnew
      · exact (hapart b hb').1
    · rw [List.map_cons, List.nodup_cons]
      refine ⟨fun hmem => ?_, hrest.nodup⟩
      obtain ⟨b, hb, hsame⟩ := List.mem_map.mp hmem
      exact (hapart b hb).2 hsame

theorem longestAcceptable_nil : LongestAcceptable present [] [] where
  isPrefix := List.prefix_refl _
  acceptable := acceptable_nil
  longest _ h _ := h

/-- An attribute that can be taken is taken, and the rest is offered to the element that
has got it. -/
theorem LongestAcceptable.cons (hname : ¬ Unnameable a.name) (hnew : a.name ∉ present)
    (h : LongestAcceptable (present ++ [a.name]) offer taken) :
    LongestAcceptable present (a :: offer) (a :: taken) where
  isPrefix := List.cons_prefix_cons.mpr ⟨rfl, h.isPrefix⟩
  acceptable := acceptable_cons_iff.mpr ⟨hname, hnew, h.acceptable⟩
  longest := by
    intro other hprefix hother
    cases other with
    | nil => exact List.nil_prefix
    | cons b other =>
        obtain ⟨rfl, hrest⟩ := List.cons_prefix_cons.mp hprefix
        exact List.cons_prefix_cons.mpr
          ⟨rfl, h.longest other hrest (acceptable_cons_iff.mp hother).2.2⟩

/-- Where the first attribute cannot be taken, none is. -/
theorem longestAcceptable_of_fault (h : Unnameable a.name ∨ a.name ∈ present) :
    LongestAcceptable present (a :: offer) [] where
  isPrefix := List.nil_prefix
  acceptable := acceptable_nil
  longest := by
    intro other hprefix hother
    cases other with
    | nil => exact List.nil_prefix
    | cons b other =>
        obtain ⟨rfl, -⟩ := List.cons_prefix_cons.mp hprefix
        obtain ⟨hname, hnew, -⟩ := acceptable_cons_iff.mp hother
        rcases h with hfault | hfault
        · exact absurd hfault hname
        · exact absurd hfault hnew

/-- There is one longest acceptable prefix. -/
theorem LongestAcceptable.unique {taken' : List Attribute}
    (h : LongestAcceptable present offer taken) (h' : LongestAcceptable present offer taken') :
    taken' = taken :=
  (h.longest taken' h'.isPrefix h'.acceptable).eq_of_length_le
    (h'.longest taken h.isPrefix h.acceptable).length_le

end Offers

/-! ## What attributes leave alone -/

namespace Markup

variable {m : Markup} {node : NodeId}

/-- What no single attribute changes, no list of attributes changes. -/
theorem withAttributes_keeps {P : Markup → Prop}
    (h : ∀ m a, P m → P (m.withAttribute node a)) (attributes : List Attribute) (hm : P m) :
    P (m.withAttributes node attributes) := by
  induction attributes generalizing m with
  | nil => exact hm
  | cons a attributes ih => exact ih (h m a hm)

theorem get?_withAttributes_of_ne (attributes : List Attribute) {id : NodeId} (h : id ≠ node) :
    (m.withAttributes node attributes).get? id = m.get? id := by
  refine withAttributes_keeps (P := fun m' => m'.get? id = m.get? id) (fun m' a hm' => ?_)
    attributes rfl
  rw [get?_withAttribute_eq, if_neg h, hm']

theorem parent?_withAttributes (attributes : List Attribute) (id : NodeId) :
    (m.withAttributes node attributes).parent? id = m.parent? id :=
  withAttributes_keeps (P := fun m' => m'.parent? id = m.parent? id)
    (fun m' a hm' => (parent?_withAttribute m' node a id).trans hm') attributes rfl

theorem size_withAttributes (attributes : List Attribute) :
    (m.withAttributes node attributes).size = m.size :=
  withAttributes_keeps (P := fun m' => m'.size = m.size)
    (fun m' a hm' => (size_withAttribute m' node a).trans hm') attributes rfl

end Markup

/-! ## Setting what is offered -/

/-- How an element with the given tag refuses an attribute that it cannot take. -/
def Markup.Attribute.refusal (a : Attribute) (tag : String) : Markup.Error :=
  if isName a.name then .duplicateAttribute tag a.name else .invalidName .attribute a.name

namespace Drawing

variable {m : Markup} {node : NodeId} {e : ElementData} {a : Attribute}

theorem emitAttribute_apply (node : NodeId) (a : Attribute) (m : Markup)
    (events : Array RenderEvent) :
    emitAttribute node a ⟨m, events⟩ =
      ((setAttribute node a.name a.value m).1,
        ⟨(setAttribute node a.name a.value m).2, events.push (attributeEvent a)⟩) := by
  rw [emitAttribute, bind_apply]
  rfl

/-- A refused attribute leaves nothing but its report. -/
theorem emitAttribute_error {refusal : Markup.Error}
    (h : (setAttribute node a.name a.value m).1 = .error refusal) (events : Array RenderEvent) :
    emitAttribute node a ⟨m, events⟩ =
      (.error refusal, ⟨m, events.push (attributeEvent a)⟩) := by
  rw [emitAttribute_apply, h, setAttribute_of_error h]

/-- The one attribute that a table offers next is refused, and the table is left. -/
theorem emit_cons_error {field : Field} (hfield : field.attribute? = some a)
    {refusal : Markup.Error} (h : (setAttribute node a.name a.value m).1 = .error refusal)
    (fields : List Field) (events : Array RenderEvent) :
    emit node (field :: fields) ⟨m, events⟩ =
      (.error refusal, ⟨m, events.push (attributeEvent a)⟩) := by
  rw [emit_cons_some hfield, bind_apply, emitAttribute_error h]

theorem setAttribute_refusal (hget : m.get? node = some (.element e))
    (h : Unnameable a.name ∨ a.name ∈ e.attributeNames) :
    (setAttribute node a.name a.value m).1 = .error (a.refusal e.tag) := by
  rw [setAttribute_error_iff, Attribute.refusal]
  by_cases hname : Unnameable a.name
  · rw [isName_eq_false_iff.mpr hname]
    exact .inl ⟨hname, rfl⟩
  · rw [isName_eq_true_iff.mpr hname]
    exact .inr ⟨hname, .duplicate hget (h.resolve_left hname)⟩

/-- An element takes the longest acceptable prefix of what a table offers, and refuses the
attribute that follows it, if there is one. -/
theorem emit_element (fields : List Field) (hget : m.get? node = some (.element e))
    (events : Array RenderEvent) :
    ∃ taken answer events',
      LongestAcceptable e.attributeNames (Field.attributes fields) taken ∧
      emit node fields ⟨m, events⟩ = (answer, ⟨m.withAttributes node taken, events'⟩) ∧
      (answer = .ok () ↔ taken = Field.attributes fields) ∧
      ∀ a rest, Field.attributes fields = taken ++ a :: rest →
        answer = .error (a.refusal e.tag) := by
  induction fields generalizing m e events with
  | nil =>
      refine ⟨[], .ok (), events, longestAcceptable_nil, rfl, by simp [Field.attributes], ?_⟩
      intro a rest hnil
      cases hnil
  | cons field fields ih =>
      rcases hfield : field.attribute? with _ | a
      · rw [Field.attributes, List.filterMap_cons_none hfield, emit_cons_none hfield]
        exact ih hget events
      · rw [Field.attributes, List.filterMap_cons_some hfield]
        by_cases hfault : Unnameable a.name ∨ a.name ∈ e.attributeNames
        · refine ⟨[], .error (a.refusal e.tag), _, longestAcceptable_of_fault hfault,
            emit_cons_error hfield (setAttribute_refusal hget hfault) fields events, by simp, ?_⟩
          intro b rest hsplit
          cases hsplit
          rfl
        · rw [not_or] at hfault
          obtain ⟨events₁, hset⟩ :=
            emitAttribute_ok hget (isName_eq_true_iff.mpr hfault.1) hfault.2 events
          have hadded := (get?_withAttribute a hget node).trans (if_pos rfl)
          obtain ⟨taken, answer, events₂, hlongest, hemit, hok, herror⟩ := ih hadded events₁
          have hnames : (e.addAttribute a).attributeNames = e.attributeNames ++ [a.name] :=
            List.map_append
          rw [hnames] at hlongest
          refine ⟨a :: taken, answer, events₂, hlongest.cons hfault.1 hfault.2, ?_, ?_, ?_⟩
          · rw [emit_cons_some hfield, bind_apply, hset]
            exact hemit
          · rw [hok, List.cons_inj_right, Field.attributes]
          · intro b rest hsplit
            rw [List.cons_append, List.cons_inj_right] at hsplit
            exact herror b rest hsplit

/-- A table that offers nothing does nothing. -/
theorem emit_nothing {fields : List Field} (h : Field.attributes fields = []) (node : NodeId)
    (m : Markup) (events : Array RenderEvent) :
    emit node fields ⟨m, events⟩ = (.ok (), ⟨m, events⟩) := by
  induction fields with
  | nil => rfl
  | cons field fields ih =>
      rcases hfield : field.attribute? with _ | a
      · rw [Field.attributes, List.filterMap_cons_none hfield] at h
        rw [emit_cons_none hfield]
        exact ih h
      · rw [Field.attributes, List.filterMap_cons_some hfield] at h
        cases h

theorem setAttribute_of_not_element (h : m.element? node = none) (a : Attribute) :
    (setAttribute node a.name a.value m).1 = .error
      (if isName a.name then if m.contains node then .notAnElement else .unknownNode
        else .invalidName .attribute a.name) := by
  rw [setAttribute_error_iff]
  by_cases hname : Unnameable a.name
  · rw [isName_eq_false_iff.mpr hname]
    exact .inl ⟨hname, rfl⟩
  · rw [isName_eq_true_iff.mpr hname, if_pos rfl]
    refine .inr ⟨hname, ?_⟩
    rw [element?] at h
    rcases hget : m.get? node with _ | data
    · have hnode := get?_eq_none_iff.mp hget
      rw [hnode]
      exact .unknown hnode
    · rw [contains_of_get? hget, if_pos rfl]
      rw [hget] at h
      cases data with
      | document => exact .document hget
      | element e => cases h
      | text content => exact .text hget

/-- A node that is no element refuses the first attribute. -/
theorem emit_not_element {fields : List Field} {rest : List Attribute}
    (hoffer : Field.attributes fields = a :: rest) {refusal : Markup.Error}
    (h : (setAttribute node a.name a.value m).1 = .error refusal) (events : Array RenderEvent) :
    ∃ events', emit node fields ⟨m, events⟩ = (.error refusal, ⟨m, events'⟩) := by
  induction fields with
  | nil => cases hoffer
  | cons field fields ih =>
      rcases hfield : field.attribute? with _ | b
      · rw [Field.attributes, List.filterMap_cons_none hfield] at hoffer
        rw [emit_cons_none hfield]
        exact ih hoffer
      · rw [Field.attributes, List.filterMap_cons_some hfield] at hoffer
        cases hoffer
        exact ⟨_, emit_cons_error hfield h fields events⟩

/-- Whatever a table offers, in the order of its fields: where it offers nothing, nothing
happens, on any node. An element takes the longest acceptable prefix, behind the attributes
that it has, and nothing else in the tree changes. That is all of the offer just when the
table could be set; otherwise the attribute that follows is refused, for its name or as a
duplicate. A node that is no element takes nothing, and refuses the first attribute, for its
name or else for the node. -/
theorem emit_longest_acceptable (m : Markup) (node : NodeId) (fields : List Field)
    (events : Array RenderEvent) :
    let offer := (fields.filter Field.isEmitted).filterMap Field.attribute?
    let outcome := emit node fields ⟨m, events⟩
    let m' := outcome.2.markup
    (offer = [] → outcome = (.ok (), ⟨m, events⟩)) ∧
    (∀ e, m.get? node = some (.element e) →
      ∃ taken, LongestAcceptable e.attributeNames offer taken ∧
        (m'.get? node = some (.element { e with attributes := e.attributes ++ taken }) ∧
          (∀ id, id ≠ node → m'.get? id = m.get? id) ∧
          (∀ id, m'.parent? id = m.parent? id ∧ m'.children id = m.children id) ∧
          m'.size = m.size) ∧
        (outcome.1 = .ok () ↔ taken = offer) ∧
        ∀ a rest, offer = taken ++ a :: rest →
          outcome.1 = .error
            (if isName a.name then .duplicateAttribute e.tag a.name
              else .invalidName .attribute a.name)) ∧
    (m.element? node = none → ∀ a rest, offer = a :: rest →
      m' = m ∧ outcome.1 = .error
        (if isName a.name then if m.contains node then .notAnElement else .unknownNode
          else .invalidName .attribute a.name)) := by
  intro offer outcome m'
  have hoffer : offer = Field.attributes fields := by
    show (fields.filter Field.isEmitted).filterMap Field.attribute? = _
    rw [Field.attributes, List.filterMap_filter]
    congr 1
    funext field
    rw [Field.isEmitted]
    cases field.attribute? <;> rfl
  refine ⟨fun hnil => ?_, fun e hget => ?_, fun hget a rest hcons => ?_⟩
  · rw [hoffer] at hnil
    exact emit_nothing hnil node m events
  · obtain ⟨taken, answer, events', hlongest, hemit, hok, herror⟩ :=
      emit_element fields hget events
    have hm' : m' = m.withAttributes node taken := congrArg (fun o => o.2.markup) hemit
    have hanswer : outcome.1 = answer := congrArg Prod.fst hemit
    rw [hoffer, hm', hanswer]
    refine ⟨taken, hlongest, ⟨get?_withAttributes taken hget, fun id hid => ?_, fun id =>
      ⟨parent?_withAttributes taken id, children_withAttributes m node taken id⟩,
      size_withAttributes taken⟩, hok, herror⟩
    exact get?_withAttributes_of_ne taken hid
  · rw [hoffer] at hcons
    have hrefusal := setAttribute_of_not_element hget a
    obtain ⟨events', hemit⟩ := emit_not_element hcons hrefusal events
    exact ⟨congrArg (fun o => o.2.markup) hemit, congrArg Prod.fst hemit⟩

/-- The second of two fields of one name is refused, and what comes behind it is not looked
at. The field that is off is skipped, and the first one stays set. -/
theorem emit_longest_acceptable_duplicate :
    let m := Markup.empty.runCalls
      [.appendElement root "input", .setAttribute ⟨2⟩ "type" (some "radio")]
    let fields : List Field :=
      [.flag "type" false, .text "id" (some "a"), .flag "id" true, .text "=" (some "b")]
    m.get? ⟨2⟩ = some (.element ⟨"input", [.valued "type" "radio"]⟩) ∧
      (emit ⟨2⟩ fields ⟨m, #[]⟩).1 = .error (.duplicateAttribute "input" "id") ∧
      (emit ⟨2⟩ fields ⟨m, #[]⟩).2.markup.get? ⟨2⟩ =
        some (.element ⟨"input", [.valued "type" "radio", .valued "id" "a"]⟩) ∧
      (emit root fields ⟨m, #[]⟩).1 = .error .notAnElement ∧
      (emit ⟨3⟩ fields ⟨m, #[]⟩).1 = .error .unknownNode := by
  intro m fields
  have hget : m.get? ⟨2⟩ = some (.element ⟨"input", [.valued "type" "radio"]⟩) := rfl
  obtain ⟨-, helement, -⟩ := emit_longest_acceptable m ⟨2⟩ fields #[]
  obtain ⟨taken, hlongest, ⟨htaken, -⟩, -, herror⟩ := helement _ hget
  -- the first field that is on can be set, and then the next one of its name cannot
  have hid : ¬ Unnameable "id" := isName_eq_true_iff.mp (by decide +kernel)
  obtain rfl : [.valued "id" "a"] = taken := hlongest.unique
    ((longestAcceptable_of_fault (.inr (by decide))).cons hid (by decide))
  refine ⟨hget, (herror (.flag "id") _ rfl).trans (congrArg _ (by decide +kernel)), htaken, ?_, ?_⟩
  · exact ((emit_longest_acceptable m root fields #[]).2.2 rfl (.valued "id" "a") _ rfl).2.trans
      (congrArg _ (by decide +kernel))
  · exact ((emit_longest_acceptable m ⟨3⟩ fields #[]).2.2 rfl (.valued "id" "a") _ rfl).2.trans
      (congrArg _ (by decide +kernel))

end Drawing

end HtmlComponents
