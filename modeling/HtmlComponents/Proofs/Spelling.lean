import HtmlComponents.Proofs.Plan

/-!
# The two spellings of an attribute's name

An identifier can be spelled raw, and is then an identifier of its own. For the method that an
attribute calls the spelling does not matter, since the method is named after the name without
it. But the constructor's argument is looked for by the identifier, so that one attribute is not
the other: `content` can be the argument, and its raw spelling cannot.

To spell the name of one attribute the other way is to replace one token, at whatever depth the
attribute stands, because the tokens of nested elements are not grouped. What is read from the
tokens is the same view with one attribute in its other spelling (`Respelled`), and whether the
code is the same is decided where the attribute stands: around it the code is built from the
code in it, by appending and by grouping, and both can be undone. There the calls can be
counted. If an attribute is the constructor's argument as long as the name is plain, then a raw
name makes for one call more.
-/

namespace HtmlComponents.View

open Builder

/-- The identifier of the same name that is spelled the other way. -/
def Ident.respelled (i : Ident) : Ident := ⟨!i.raw, i.name⟩

variable {ε : Type}

def Attribute.respelled (a : Attribute ε) : Attribute ε := ⟨a.name.respelled, a.value⟩

/-- The elements differ in one attribute, at any depth. In the first element the attribute is
`a`, between the attributes `before` and `after`, and in the second one its name is spelled the
other way. -/
inductive Respelled (before : List (Attribute ε)) (a : Attribute ε)
    (after : List (Attribute ε)) : Element ε → Element ε → Prop where
  | here (tag : Ident) (children : List (Child ε)) (closed : Bool) :
      Respelled before a after (.mk tag (before ++ a :: after) children closed)
        (.mk tag (before ++ a.respelled :: after) children closed)
  | inside (tag : Ident) (attributes : List (Attribute ε)) (front back : List (Child ε))
      (closed : Bool) {e e' : Element ε} (h : Respelled before a after e e') :
      Respelled before a after (.mk tag attributes (front ++ .element e :: back) closed)
        (.mk tag attributes (front ++ .element e' :: back) closed)

variable {before after : List (Attribute ε)} {a : Attribute ε}

/-- Every attribute at any depth can be spelled the other way. -/
theorem Nested.exists_respelled {inner e : Element ε} (h : Nested inner e)
    (hattributes : inner.attributes = before ++ a :: after) :
    ∃ e', Respelled before a after e e' := by
  induction h with
  | refl =>
      obtain ⟨tag, attributes, children, closed⟩ := inner
      cases hattributes
      exact ⟨_, .here tag children closed⟩
  | @child e outer he hinner ih =>
      obtain ⟨tag, attributes, children, closed⟩ := outer
      obtain ⟨front, back, rfl⟩ := List.append_of_mem he
      obtain ⟨e', he'⟩ := ih
      exact ⟨_, .inside tag attributes front back closed he'⟩

/-! ## Tokens -/

/-- The second row has another identifier in one place. -/
def Replaced (i j : Ident) (row row' : List Token) : Prop :=
  ∃ left right, row = left ++ .ident i :: right ∧ row' = left ++ .ident j :: right

theorem Replaced.within {i j : Ident} {row row' : List Token} (h : Replaced i j row row')
    (front back : List Token) : Replaced i j (front ++ row ++ back) (front ++ row' ++ back) := by
  obtain ⟨left, right, rfl, rfl⟩ := h
  exact ⟨front ++ left, right ++ back, by simp, by simp⟩

theorem Replaced.behind {i j : Ident} {row row' : List Token} (h : Replaced i j row row')
    (front : List Token) : Replaced i j (front ++ row) (front ++ row') := by
  simpa using h.within front []

namespace Grammar

variable {reads : List Token → ε → Prop}

/-- An attribute is written as its name and what does not depend on the name. -/
theorem IsAttribute.respelled {row : List Token} (h : IsAttribute reads a row) :
    ∃ more, row = .ident a.name :: more ∧
      IsAttribute reads a.respelled (.ident a.name.respelled :: more) := by
  cases h with
  | flag name => exact ⟨_, rfl, .flag _⟩
  | text name equals literal => exact ⟨_, rfl, .text _ equals literal⟩
  | truth name equals value => exact ⟨_, rfl, .truth _ equals value⟩
  | expression name equals he => exact ⟨_, rfl, .expression _ equals he⟩

theorem AreAttributes.respelled {row : List Token}
    (h : AreAttributes reads (before ++ a :: after) row) :
    ∃ row', Replaced a.name a.name.respelled row row' ∧
      AreAttributes reads (before ++ a.respelled :: after) row' := by
  induction before generalizing row with
  | nil =>
      cases h with
      | cons ha hlater =>
          obtain ⟨more, rfl, ha'⟩ := ha.respelled
          have hreplaced : Replaced a.name a.name.respelled (.ident a.name :: more)
              (.ident a.name.respelled :: more) := ⟨[], more, rfl, rfl⟩
          exact ⟨_, hreplaced.within [] _, .cons ha' hlater⟩
  | cons b before ih =>
      cases h with
      | @cons _ _ front _ hb hlater =>
          obtain ⟨later', hreplaced, hlater'⟩ := ih hlater
          exact ⟨_, hreplaced.behind front, .cons hb hlater'⟩

theorem AreChildren.respelled {front back : List (Child ε)} {e e' : Element ε} {row : List Token}
    (h : AreChildren reads (front ++ .element e :: back) row)
    (he : ∀ {row}, IsElement reads e row →
      ∃ row', Replaced a.name a.name.respelled row row' ∧ IsElement reads e' row') :
    ∃ row', Replaced a.name a.name.respelled row row' ∧
      AreChildren reads (front ++ .element e' :: back) row' := by
  induction front generalizing row with
  | nil =>
      cases h with
      | cons hchild hlater =>
          cases hchild with
          | element hwritten =>
              obtain ⟨row', hreplaced, hwritten'⟩ := he hwritten
              exact ⟨_, hreplaced.within [] _, .cons (.element hwritten') hlater⟩
  | cons c front ih =>
      cases h with
      | @cons _ _ first _ hc hlater =>
          obtain ⟨later', hreplaced, hlater'⟩ := ih hlater
          exact ⟨_, hreplaced.behind first, .cons hc hlater'⟩

theorem AreElements.respelled {front back : List (Element ε)} {e e' : Element ε}
    {row : List Token} (h : AreElements reads (front ++ e :: back) row)
    (he : ∀ {row}, IsElement reads e row →
      ∃ row', Replaced a.name a.name.respelled row row' ∧ IsElement reads e' row') :
    ∃ row', Replaced a.name a.name.respelled row row' ∧
      AreElements reads (front ++ e' :: back) row' := by
  induction front generalizing row with
  | nil =>
      cases h with
      | cons hwritten hlater =>
          obtain ⟨row', hreplaced, hwritten'⟩ := he hwritten
          exact ⟨_, hreplaced.within [] _, .cons hwritten' hlater⟩
  | cons c front ih =>
      cases h with
      | @cons _ _ first _ hc hlater =>
          obtain ⟨later', hreplaced, hlater'⟩ := ih hlater
          exact ⟨_, hreplaced.behind first, .cons hc hlater'⟩

/-- To spell the name of an attribute the other way is to replace one token. -/
theorem IsElement.respelled {e e' : Element ε} (h : Respelled before a after e e')
    {row : List Token} (hwritten : IsElement reads e row) :
    ∃ row', Replaced a.name a.name.respelled row row' ∧ IsElement reads e' row' := by
  induction h generalizing row with
  | here tag children closed =>
      cases hwritten with
      | selfClosing less slash greater htag hattributes =>
          obtain ⟨inTag', hreplaced, hattributes'⟩ := hattributes.respelled
          exact ⟨_, hreplaced.within [.punct '<' less, .ident tag] _,
            .selfClosing less slash greater htag hattributes'⟩
      | paired less greater less' slash' greater' htag hattributes hchildren =>
          obtain ⟨inTag', hreplaced, hattributes'⟩ := hattributes.respelled
          exact ⟨_, hreplaced.within [.punct '<' less, .ident tag] _,
            .paired less greater less' slash' greater' htag hattributes' hchildren⟩
  | inside tag attributes front back closed h ih =>
      generalize hchildren : front ++ .element _ :: back = children at hwritten
      cases hwritten with
      | selfClosing => simp at hchildren
      | @paired _ _ _ inTag _ less greater less' slash' greater' htag hattributes hbetween =>
          cases hchildren
          obtain ⟨between', hreplaced, hbetween'⟩ := hbetween.respelled ih
          have hwithin := hreplaced.within
            (.punct '<' less :: .ident tag :: (inTag ++ [.punct '>' greater]))
            [.punct '<' less', .punct '/' slash', .ident tag, .punct '>' greater']
          simp only [List.cons_append, List.append_assoc, List.nil_append] at hwithin
          exact ⟨_, hwithin, .paired less greater less' slash' greater' htag hattributes hbetween'⟩

end Grammar

/-! ## The code for an element -/

section Code

variable (tokens : ε → List Token)

/-- Some attribute can be the constructor's argument. -/
def GivesContent (attributes : List (Attribute ε)) : Prop :=
  ∃ b ∈ attributes, ∃ value, IsContent tokens b value

theorem attributeCall_respelled (a : Attribute ε) :
    attributeCall tokens a.respelled = attributeCall tokens a := by
  obtain ⟨name, value⟩ := a
  cases value <;> rfl

theorem not_givesContent_iff {attributes : List (Attribute ε)} :
    ¬GivesContent tokens attributes ↔ attributes.findSome? (argument? tokens) = none := by
  simp only [GivesContent, not_exists, not_and, List.findSome?_eq_none_iff, argument?_eq_none_iff]

/-- An attribute of another name is a call, whatever is the constructor's argument. -/
theorem element_respelled_of_name_ne (hname : a.name.name ≠ "content") (tag : Ident)
    (children : List (Child ε)) (closed : Bool) :
    element tokens (.mk tag (before ++ a.respelled :: after) children closed) =
      element tokens (.mk tag (before ++ a :: after) children closed) := by
  have hne : ∀ b : Attribute ε, b.name.name = a.name.name → b.name ≠ contentName :=
    fun b hb hcontent => hname (hb.symm.trans (congrArg Ident.name hcontent))
  have hnone : ∀ b : Attribute ε, b.name.name = a.name.name → argument? tokens b = none :=
    fun b hb => if_neg (hne b hb)
  have hargument : (before ++ a.respelled :: after).findSome? (argument? tokens) =
      (before ++ a :: after).findSome? (argument? tokens) := by
    rw [List.findSome?_append, List.findSome?_append, List.findSome?_cons, List.findSome?_cons,
      hnone a.respelled rfl, hnone a rfl]
  have hcalls : (calledAttributes tokens (before ++ a.respelled :: after)).flatMap
        (attributeCall tokens) =
      (calledAttributes tokens (before ++ a :: after)).flatMap (attributeCall tokens) := by
    rw [calledAttributes, calledAttributes, hargument]
    split
    · rw [List.filter_append, List.filter_append,
        List.filter_cons_of_pos (by simpa using hne a.respelled rfl),
        List.filter_cons_of_pos (by simpa using hne a rfl), List.flatMap_append,
        List.flatMap_append, List.flatMap_cons, List.flatMap_cons, attributeCall_respelled]
    · rw [List.flatMap_append, List.flatMap_append, List.flatMap_cons, List.flatMap_cons,
        attributeCall_respelled]
  rw [element, element, hargument, hcalls]

/-- Where no attribute can be the constructor's argument, all are calls. -/
theorem element_of_not_givesContent {attributes : List (Attribute ε)}
    (h : ¬GivesContent tokens attributes) (tag : Ident) (children : List (Child ε))
    (closed : Bool) :
    element tokens (.mk tag attributes children closed) =
      constructor tag [] ++ attributes.flatMap (attributeCall tokens) ++
        childCalls tokens children := by
  rw [element, calledAttributes, (not_givesContent_iff tokens).mp h]
  rfl

/-- With the name spelled plainly there is one call less, if an attribute is the constructor's
argument then. -/
theorem length_calledAttributes_lt {v : AttributeValue ε}
    (h : GivesContent tokens (before ++ ⟨contentName, v⟩ :: after)) {raw : Ident}
    (hraw : raw ≠ contentName) :
    (calledAttributes tokens (before ++ ⟨contentName, v⟩ :: after)).length <
      (calledAttributes tokens (before ++ ⟨raw, v⟩ :: after)).length := by
  have hsome := Option.ne_none_iff_isSome.mp
    fun hnone => (not_givesContent_iff tokens).mpr hnone h
  have hle : ∀ attributes : List (Attribute ε),
      (attributes.filter fun b => b.name ≠ contentName).length ≤
        (calledAttributes tokens attributes).length := by
    intro attributes
    unfold calledAttributes
    split
    · exact Nat.le_refl _
    · exact List.length_filter_le _ _
  refine Nat.lt_of_lt_of_le ?_ (hle (before ++ ⟨raw, v⟩ :: after))
  rw [calledAttributes_eq_filter rfl hsome, List.filter_append, List.filter_append,
    List.filter_cons_of_pos (by simpa using hraw), List.length_append, List.length_append,
    List.length_cons]
  exact Nat.lt_succ_self _

/-- The code tells how many attributes became calls. -/
theorem length_calledAttributes_eq {tag : Ident} {attributes attributes' : List (Attribute ε)}
    {children : List (Child ε)} {closed : Bool}
    (h : element tokens (.mk tag attributes' children closed) =
      element tokens (.mk tag attributes children closed)) :
    (calledAttributes tokens attributes').length = (calledAttributes tokens attributes).length := by
  have hread := congrArg Chain.read? h
  rw [read?_element, read?_element] at hread
  have hlength := congrArg (fun chain => chain.calls.length) (Option.some.inj hread)
  simpa [Element.attributes, Element.children] using hlength

/-- With a raw name instead of the plain one, the code for the element itself is the same unless
an attribute is the constructor's argument as long as the name is plain. -/
theorem element_respelled_content_iff (v : AttributeValue ε) (tag : Ident)
    (children : List (Child ε)) (closed : Bool) :
    element tokens
          (.mk tag (before ++ Attribute.respelled ⟨contentName, v⟩ :: after) children closed) =
        element tokens (.mk tag (before ++ ⟨contentName, v⟩ :: after) children closed) ↔
      ¬GivesContent tokens (before ++ ⟨contentName, v⟩ :: after) := by
  have hraw : contentName.respelled ≠ contentName := by decide
  constructor
  · intro h hgives
    have hlt := length_calledAttributes_lt tokens hgives hraw
    exact hlt.ne (length_calledAttributes_eq tokens h).symm
  · intro hplain
    have hother :
        ¬GivesContent tokens (before ++ Attribute.respelled ⟨contentName, v⟩ :: after) := by
      rintro ⟨b, hb, value, hcontent⟩
      rcases List.mem_append.mp hb with hb | hb
      · exact hplain ⟨b, List.mem_append_left _ hb, value, hcontent⟩
      rcases List.mem_cons.mp hb with rfl | hb
      · exact hraw hcontent.name
      · exact hplain ⟨b, List.mem_append_right _ (List.mem_cons_of_mem _ hb), value, hcontent⟩
    rw [element_of_not_givesContent tokens hother, element_of_not_givesContent tokens hplain,
      List.flatMap_append, List.flatMap_append, List.flatMap_cons, List.flatMap_cons,
      attributeCall_respelled]

/-- The code for the element itself is the same unless the attribute is named `content` and,
with the name spelled plainly, an attribute is the constructor's argument. -/
theorem element_respelled_iff (tag : Ident) (children : List (Child ε)) (closed : Bool) :
    element tokens (.mk tag (before ++ a.respelled :: after) children closed) =
        element tokens (.mk tag (before ++ a :: after) children closed) ↔
      ¬(a.name.name = "content" ∧
        GivesContent tokens (before ++ ⟨contentName, a.value⟩ :: after)) := by
  by_cases hname : a.name.name = "content"
  swap
  · exact iff_of_true (element_respelled_of_name_ne tokens hname tag children closed)
      fun h => hname h.1
  obtain ⟨⟨raw, name⟩, v⟩ := a
  cases hname
  rw [not_and, forall_prop_of_true rfl]
  cases raw with
  | false => exact element_respelled_content_iff tokens v tag children closed
  | true => exact eq_comm.trans (element_respelled_content_iff tokens v tag children closed)

/-! ## The code around it -/

theorem call_right_inj {method : String} {argument argument' : List Token} :
    call method argument = call method argument' ↔ argument = argument' := by
  simp [call, parenthesized]

theorem childCalls_replaced_iff (front back : List (Child ε)) (c c' : Child ε) :
    childCalls tokens (front ++ c' :: back) = childCalls tokens (front ++ c :: back) ↔
      child tokens c' = child tokens c := by
  simp only [childCalls_eq, Chain.callTokens, List.map_append, List.map_cons, List.flatMap_append,
    List.flatMap_cons, List.append_cancel_left_eq, List.append_cancel_right_eq, call_right_inj]

/-- Whether the code for an element is the same is decided where the attribute stands. -/
theorem element_eq_iff_of_respelled {e e' : Element ε} (h : Respelled before a after e e') :
    element tokens e' = element tokens e ↔
      ¬(a.name.name = "content" ∧
        GivesContent tokens (before ++ ⟨contentName, a.value⟩ :: after)) := by
  induction h with
  | here tag children closed => exact element_respelled_iff tokens tag children closed
  -- everything around the child is the same in both
  | inside tag attributes front back closed h ih =>
      rw [element, element, List.append_cancel_left_eq, childCalls_replaced_iff, child, child, ih]

theorem component_inj {e e' : Element ε} :
    component tokens e' = component tokens e ↔ element tokens e' = element tokens e := by
  simp [component, parenthesized]

theorem separated_cons (row : List Token) {rows : List (List Token)} (hrows : rows ≠ []) :
    separated (row :: rows) = row ++ .punct ',' .alone :: separated rows := by
  obtain ⟨next, rows, rfl⟩ := List.exists_cons_of_ne_nil hrows
  rfl

theorem separated_replaced_iff (front back : List (List Token)) (row row' : List Token) :
    separated (front ++ row' :: back) = separated (front ++ row :: back) ↔ row' = row := by
  induction front with
  | nil =>
      cases back with
      | nil => rfl
      | cons next back =>
          rw [List.nil_append, List.nil_append, separated_cons _ (List.cons_ne_nil _ _),
            separated_cons _ (List.cons_ne_nil _ _), List.append_cancel_right_eq]
  | cons first front ih =>
      rw [List.cons_append, List.cons_append, separated_cons first (by simp),
        separated_cons first (by simp), List.append_cancel_left_eq, List.cons.injEq, ih,
        and_iff_right rfl]

theorem group_inj {components components' : List (List Token)} :
    group components' = group components ↔ separated components' = separated components := by
  simp [group, parenthesized]

theorem view?_replaced_iff (front back : List (Element ε)) (e e' : Element ε) :
    view? tokens (front ++ e' :: back) = view? tokens (front ++ e :: back) ↔
      element tokens e' = element tokens e := by
  have hgroup : group ((front ++ e' :: back).map (component tokens)) =
      group ((front ++ e :: back).map (component tokens)) ↔
        element tokens e' = element tokens e := by
    rw [group_inj, List.map_append, List.map_append, List.map_cons, List.map_cons,
      separated_replaced_iff, component_inj]
  rcases front with _ | ⟨first, front⟩
  · cases back with
    | nil => rw [List.nil_append, List.nil_append, view?, view?, Option.some_inj, component_inj]
    | cons next back => exact Option.some_inj.trans hgroup
  · cases front with
    | nil => exact Option.some_inj.trans hgroup
    | cons second front => exact Option.some_inj.trans hgroup

end Code

/-! ## Views -/

theorem codeOfTokens_eq_iff {source source' : List Token}
    {elements elements' : List (Element Expression)}
    (hread : readTokens source = .ok elements) (hread' : readTokens source' = .ok elements') :
    codeOfTokens source' = codeOfTokens source ↔
      view? Expression.tokens elements' = view? Expression.tokens elements := by
  rw [codeOfTokens_eq hread, codeOfTokens_eq hread', openedAll_view?, openedAll_view?]
  cases view? Expression.tokens elements <;> cases view? Expression.tokens elements' <;> simp

/-- The name of any attribute can be spelled the other way, raw or plain, by replacing one token,
and what is read then differs in that attribute's name only. The code is the same unless the
attribute is named `content` and, with its name plain, an attribute of its element is the
constructor's argument. -/
theorem codeOfTokens_respelled_iff {source : List Token} {front back : List (Element Expression)}
    {e e' : Element Expression} {before after : List (Attribute Expression)}
    {a : Attribute Expression} (hread : readTokens source = .ok (front ++ e :: back))
    (h : Respelled before a after e e') :
    ∃ source', Replaced a.name a.name.respelled source source' ∧
      readTokens source' = .ok (front ++ e' :: back) ∧
      (codeOfTokens source' = codeOfTokens source ↔
        ¬(a.name.name = "content" ∧
          GivesContent Expression.tokens (before ++ ⟨contentName, a.value⟩ :: after))) := by
  obtain ⟨source', hreplaced, hwritten⟩ :=
    (Grammar.readTokens_eq_ok_iff.mp hread).respelled (Grammar.IsElement.respelled h)
  have hread' := Grammar.readTokens_eq_ok_iff.mpr hwritten
  refine ⟨source', hreplaced, hread', ?_⟩
  rw [codeOfTokens_eq_iff hread hread', view?_replaced_iff, element_eq_iff_of_respelled _ h]

/-- A keyword in a nested element, beside its content. -/
theorem codeOfTokens_respelled_iff_for :
    let text : StringLiteral := ⟨"\"a\"", "a"⟩
    let source : List Token :=
      [.punct '<' .alone, .word "Div", .punct '>' .alone,
        .punct '<' .alone, .word "Label", .word "content", .punct '=' .alone, text.token,
        .word "for", .punct '=' .alone, .group .brace [.word "x"], .punct '/' .joint,
        .punct '>' .alone,
        .punct '<' .joint, .punct '/' .alone, .word "Div", .punct '>' .alone]
    ∃ source', Replaced (.plain "for") ⟨true, "for"⟩ source source' ∧
      codeOfTokens source' = codeOfTokens source := by
  intro text source
  let content : Attribute Expression := ⟨contentName, .text text⟩
  let name : Attribute Expression := ⟨.plain "for", .expression ⟨[.word "x"], none⟩⟩
  let label : Element Expression := .mk (.plain "Label") [content, name] [] true
  let page : Element Expression := .mk (.plain "Div") [] [.element label] false
  have hread : readTokens source = .ok ([] ++ page :: []) := by cbv
  have hnested : Nested label page := .child List.mem_cons_self .refl
  have hattributes : label.attributes = [content] ++ name :: [] := rfl
  obtain ⟨page', hrespelled⟩ := hnested.exists_respelled hattributes
  obtain ⟨source', hreplaced, -, hcode⟩ := codeOfTokens_respelled_iff hread hrespelled
  exact ⟨source', hreplaced, hcode.mpr fun h => absurd h.1 (by decide)⟩

/-- The content of a text is the constructor's argument when its name is plain, and a call when
it is raw. -/
theorem raw_content_differs :
    let text : StringLiteral := ⟨"\"a\"", "a"⟩
    let source (name : Ident) : List Token :=
      [.punct '<' .alone, .word "Text", .ident name, .punct '=' .alone, text.token,
        .punct '/' .joint, .punct '>' .alone]
    let e (name : Ident) : Element Expression := .mk (.plain "Text") [⟨name, .text text⟩] [] true
    readTokens (source contentName) = .ok [e contentName] ∧
      readTokens (source contentName.respelled) = .ok [e contentName.respelled] ∧
      Chain.read? (element Expression.tokens (e contentName)) =
        some ⟨.plain "Text", [text.token], []⟩ ∧
      Chain.read? (element Expression.tokens (e contentName.respelled)) =
        some ⟨.plain "Text", [], [("with_content", [text.token])]⟩ ∧
      codeOfTokens (source contentName.respelled) ≠ codeOfTokens (source contentName) := by
  intro text source e
  have hread : readTokens (source contentName) = .ok [e contentName] := rfl
  have hread' : readTokens (source contentName.respelled) = .ok [e contentName.respelled] := rfl
  have hplain : Chain.read? (element Expression.tokens (e contentName)) =
      some ⟨.plain "Text", [text.token], []⟩ := read?_element _
  have hraw : Chain.read? (element Expression.tokens (e contentName.respelled)) =
      some ⟨.plain "Text", [], [("with_content", [text.token])]⟩ := read?_element _
  refine ⟨hread, hread', hplain, hraw, fun hcode => ?_⟩
  have helement := (view?_replaced_iff Expression.tokens [] [] _ _).mp
    ((codeOfTokens_eq_iff hread hread').mp hcode)
  have hchain := hraw.symm.trans ((congrArg Chain.read? helement).trans hplain)
  cases hchain

end HtmlComponents.View
