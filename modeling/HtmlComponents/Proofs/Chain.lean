import HtmlComponents.View
import Mathlib.Data.List.Basic

/-!
# Chains of calls

The code for an element is a chain: a constructor, and calls of methods on what was
made so far. Its arguments stand in parentheses, and so a chain can be read back from
its tokens, whatever the arguments are (`read?_tokens`). What is said here about the
code for an element is said about what reading finds in it.

A chain has to use every attribute of its element. The first attribute named `content`
that has a text or an expression is the constructor's argument; every other attribute
is a call, in the order in which they are written. That is `Uses`. `Becomes` is what
attributes do become: once the constructor has an argument, nothing that is named
`content` becomes a call. The two agree if and only if no second attribute has the name
of the constructor's argument, and that is also when the numbers agree.
-/

namespace HtmlComponents.View

open Builder

/-- A constructor call and the calls behind it, each with the tokens in parentheses. -/
structure Chain where
  tag : Ident
  argument : List Token
  calls : List (String × List Token)

namespace Chain

/-- Calls one behind the other. -/
def callTokens (calls : List (String × List Token)) : List Token :=
  calls.flatMap fun c => call c.1 c.2

def tokens (chain : Chain) : List Token :=
  constructor chain.tag chain.argument ++ callTokens chain.calls

/-- Calls up to the end of the tokens. -/
def readCalls : List Token → Option (List (String × List Token))
  | [] => some []
  | .punct '.' .alone :: .ident ⟨false, method⟩ :: .group .parenthesis argument :: rest =>
    (readCalls rest).map ((method, argument) :: ·)
  | _ => none

/-- The chain that tokens are, if they are one. -/
def read? : List Token → Option Chain
  | .ident crate :: .punct ':' .joint :: .punct ':' .alone ::
      .ident elements :: .punct ':' .joint :: .punct ':' .alone ::
      .ident tag :: .punct ':' .joint :: .punct ':' .alone ::
      .ident new :: .group .parenthesis argument :: rest =>
    if crate = .plain "gilt_html" ∧ elements = .plain "elements" ∧ new = .plain "new" then
      (readCalls rest).map fun calls => ⟨tag, argument, calls⟩
    else none
  | _ => none

theorem readCalls_call (method : String) (argument rest : List Token) :
    readCalls (call method argument ++ rest) =
      (readCalls rest).map ((method, argument) :: ·) := rfl

theorem readCalls_callTokens (calls : List (String × List Token)) :
    readCalls (callTokens calls) = some calls := by
  induction calls with
  | nil => rfl
  | cons c calls ih =>
      rw [callTokens, List.flatMap_cons, readCalls_call, ← callTokens, ih]
      rfl

theorem read?_tokens (chain : Chain) : read? chain.tokens = some chain := by
  have hread : read? chain.tokens =
      if Ident.plain "gilt_html" = .plain "gilt_html" ∧
          Ident.plain "elements" = .plain "elements" ∧ Ident.plain "new" = .plain "new" then
        (readCalls (callTokens chain.calls)).map fun calls => ⟨chain.tag, chain.argument, calls⟩
      else none := rfl
  rw [hread, if_pos ⟨rfl, rfl, rfl⟩, readCalls_callTokens]
  rfl

/-- The first code is the second, or is made a child in it, at any depth. -/
inductive Within (inner : List Token) : List Token → Prop where
  | refl : Within inner inner
  | child {code outer : List Token} {chain : Chain} (hread : read? outer = some chain)
      (hcall : ("with_child", code) ∈ chain.calls) (hinner : Within inner code) :
      Within inner outer

end Chain

/-- The first element is the second or stands in it, at any depth. -/
inductive Nested {ε : Type} (inner : Element ε) : Element ε → Prop where
  | refl : Nested inner inner
  | child {e outer : Element ε} (he : .element e ∈ outer.children)
      (hinner : Nested inner e) : Nested inner outer

section Attributes

variable {ε : Type} (tokens : ε → List Token)

/-- The method that an attribute calls, and the argument. -/
def Attribute.called (a : Attribute ε) : String × List Token :=
  match a.value with
  | .text literal => ("with_" ++ a.name.name, [literal.token])
  | .expression e => ("with_" ++ a.name.name, tokens e)
  | .truth value => (a.name.name, [truth value])
  | .flag => (a.name.name, [truth true])

theorem attributeCalls_eq (attributes : List (Attribute ε)) :
    attributes.flatMap (attributeCall tokens) =
      Chain.callTokens (attributes.map (Attribute.called tokens)) := by
  rw [Chain.callTokens, List.flatMap_map]
  refine List.flatMap_congr fun a _ => ?_
  obtain ⟨name, value⟩ := a
  cases value <;> rfl

theorem childCalls_eq (children : List (Child ε)) :
    childCalls tokens children =
      Chain.callTokens (children.map fun c => ("with_child", child tokens c)) := by
  induction children with
  | nil => rfl
  | cons c children ih =>
      rw [childCalls, ih]
      rfl

/-- The attribute is named `content`, and has a text or an expression of these tokens. -/
inductive IsContent : Attribute ε → List Token → Prop where
  | text (literal : StringLiteral) : IsContent ⟨contentName, .text literal⟩ [literal.token]
  | expression (e : ε) : IsContent ⟨contentName, .expression e⟩ (tokens e)

theorem IsContent.name {a : Attribute ε} {value : List Token} (h : IsContent tokens a value) :
    a.name = contentName := by
  cases h <;> rfl

theorem argument?_eq_some_iff {a : Attribute ε} {value : List Token} :
    argument? tokens a = some value ↔ IsContent tokens a value := by
  obtain ⟨name, v⟩ := a
  constructor
  · intro h
    unfold argument? at h
    split at h
    · next hname =>
        cases hname
        cases v with
        | text literal =>
            cases h
            exact .text literal
        | expression e =>
            cases h
            exact .expression e
        | truth value => cases h
        | flag => cases h
    · cases h
  · intro h
    cases h <;> exact if_pos rfl

theorem argument?_eq_none_iff {a : Attribute ε} :
    argument? tokens a = none ↔ ∀ value, ¬IsContent tokens a value := by
  simp only [← argument?_eq_some_iff, ← Option.eq_none_iff_forall_ne_some]

/-- What attributes ought to become: the first that can be is the constructor's
argument, and all others are calls. -/
inductive Uses : List (Attribute ε) → Option (List Token) → List (String × List Token) → Prop where
  | calls {attributes : List (Attribute ε)}
      (h : ∀ a ∈ attributes, ∀ value, ¬IsContent tokens a value) :
      Uses attributes none (attributes.map (Attribute.called tokens))
  | argument {before after : List (Attribute ε)} {a : Attribute ε} {value : List Token}
      (hbefore : ∀ b ∈ before, ∀ value, ¬IsContent tokens b value)
      (ha : IsContent tokens a value) :
      Uses (before ++ a :: after) (some value) ((before ++ after).map (Attribute.called tokens))

/-- What attributes become: when one is the constructor's argument, the others of its
name become nothing. -/
inductive Becomes :
    List (Attribute ε) → Option (List Token) → List (String × List Token) → Prop where
  | calls {attributes : List (Attribute ε)}
      (h : ∀ a ∈ attributes, ∀ value, ¬IsContent tokens a value) :
      Becomes attributes none (attributes.map (Attribute.called tokens))
  | argument {before after : List (Attribute ε)} {a : Attribute ε} {value : List Token}
      (hbefore : ∀ b ∈ before, ∀ value, ¬IsContent tokens b value)
      (ha : IsContent tokens a value) :
      Becomes (before ++ a :: after) (some value)
        (((before ++ after).filter fun b => b.name ≠ contentName).map (Attribute.called tokens))

/-- If an attribute is the constructor's argument, no other one has its name. -/
def ContentOnce (attributes : List (Attribute ε)) : Prop :=
  (∀ a ∈ attributes, ∀ value, ¬IsContent tokens a value) ∨
    (attributes.countP fun a => a.name = contentName) ≤ 1

variable {tokens}

theorem contentOnce_iff {before after : List (Attribute ε)} {a : Attribute ε}
    {value : List Token} (ha : IsContent tokens a value) :
    ContentOnce tokens (before ++ a :: after) ↔
      ∀ b ∈ before ++ after, b.name ≠ contentName := by
  have hcount : ((before ++ a :: after).countP fun b => b.name = contentName) =
      ((before ++ after).countP fun b => b.name = contentName) + 1 := by
    rw [List.countP_append, List.countP_cons, List.countP_append, if_pos (by simp [ha.name])]
    omega
  constructor
  · rintro (hnone | hone)
    · exact absurd ha (hnone a (List.mem_append_right _ List.mem_cons_self) value)
    · have hzero : ((before ++ after).countP fun b => b.name = contentName) = 0 := by omega
      rw [List.countP_eq_zero] at hzero
      intro b hb
      simpa using hzero b hb
  · intro h
    have hzero : ((before ++ after).countP fun b => b.name = contentName) = 0 :=
      List.countP_eq_zero.mpr fun b hb => by simpa using h b hb
    exact .inr (by omega)

theorem Uses.length {attributes : List (Attribute ε)} {argument : Option (List Token)}
    {calls : List (String × List Token)} (h : Uses tokens attributes argument calls) :
    calls.length + argument.toList.length = attributes.length := by
  cases h with
  | calls h => simp
  | argument hbefore ha =>
      simp only [List.length_map, List.length_append, List.length_cons, Option.toList_some,
        List.length_nil]
      omega

/-- Counting finds out whether an attribute is left out. -/
theorem Becomes.length_iff {attributes : List (Attribute ε)} {argument : Option (List Token)}
    {calls : List (String × List Token)} (h : Becomes tokens attributes argument calls) :
    calls.length + argument.toList.length = attributes.length ↔
      ContentOnce tokens attributes := by
  cases h with
  | calls h => exact iff_of_true (by simp) (.inl h)
  | @argument before after a value hbefore ha =>
      have hlength : (before ++ a :: after).length = (before ++ after).length + 1 := by
        simp only [List.length_append, List.length_cons]
        omega
      rw [contentOnce_iff ha, hlength, List.length_map, Option.toList_some,
        List.length_singleton, Nat.add_right_cancel_iff, List.length_filter_eq_length_iff]
      simp only [decide_eq_true_eq]

theorem Becomes.uses_iff {attributes : List (Attribute ε)} {argument : Option (List Token)}
    {calls : List (String × List Token)} (h : Becomes tokens attributes argument calls) :
    Uses tokens attributes argument calls ↔ ContentOnce tokens attributes := by
  refine ⟨fun huses => h.length_iff.mp huses.length, fun honce => ?_⟩
  cases h with
  | calls h => exact .calls h
  | argument hbefore ha =>
      rw [List.filter_eq_self.mpr fun b hb => by simpa using (contentOnce_iff ha).mp honce b hb]
      exact .argument hbefore ha

/-- Beside an argument, an attribute of its name is not called, whether it is the argument or
not. -/
theorem calledAttributes_eq_filter {before after : List (Attribute ε)} {a : Attribute ε}
    (ha : a.name = contentName)
    (hsome : ((before ++ a :: after).findSome? (argument? tokens)).isSome) :
    calledAttributes tokens (before ++ a :: after) =
      (before ++ after).filter fun b => b.name ≠ contentName := by
  rw [calledAttributes, if_pos hsome, List.filter_append,
    List.filter_cons_of_neg (by simp [ha]), List.filter_append]

variable (tokens) in
theorem becomes_element (attributes : List (Attribute ε)) :
    Becomes tokens attributes (attributes.findSome? (argument? tokens))
      ((calledAttributes tokens attributes).map (Attribute.called tokens)) := by
  cases h : attributes.findSome? (argument? tokens) with
  | none =>
      rw [calledAttributes, h]
      refine .calls fun a ha => ?_
      rw [← argument?_eq_none_iff]
      exact List.findSome?_eq_none_iff.mp h a ha
  | some value =>
      obtain ⟨before, a, after, rfl, ha, hbefore⟩ := List.findSome?_eq_some_iff.mp h
      rw [argument?_eq_some_iff] at ha
      rw [calledAttributes_eq_filter ha.name (by rw [h]; rfl)]
      refine .argument (fun b hb => ?_) ha
      rw [← argument?_eq_none_iff]
      exact hbefore b hb

theorem read?_element (e : Element ε) :
    Chain.read? (element tokens e) =
      some ⟨e.tag, (e.attributes.findSome? (argument? tokens)).getD [],
        (calledAttributes tokens e.attributes).map (Attribute.called tokens) ++
          e.children.map fun c => ("with_child", child tokens c)⟩ := by
  obtain ⟨tag, attributes, children, closed⟩ := e
  rw [← Chain.read?_tokens]
  congr 1
  rw [element, attributeCalls_eq, childCalls_eq, Chain.tokens, List.append_assoc]
  simp only [Chain.callTokens, List.flatMap_append, Element.tag, Element.attributes,
    Element.children]

theorem Nested.within {inner e : Element ε} (h : Nested inner e) :
    Chain.Within (element tokens inner) (element tokens e) := by
  induction h with
  | refl => exact .refl
  | @child e outer he hinner ih =>
      have hcall : ("with_child", element tokens e) ∈
          outer.children.map fun c => ("with_child", Builder.child tokens c) :=
        List.mem_map.mpr ⟨.element e, he, by rw [Builder.child]⟩
      exact .child (read?_element outer) (List.mem_append_right _ hcall) ih

variable (tokens) in
/-- The code for an element, and the code in it for every element that stands in it, is a
chain of the element's tag: calls for attributes, and behind them a call for every child.
Of the attributes, the first one named `content` that has a text or an expression is
the constructor's argument, and others become calls in their order. That every other one
does, and that as many attributes were used as there are, is true just when no other
attribute has the name of the constructor's argument. -/
theorem element_uses_iff {inner e : Element ε} (h : Nested inner e) :
    Chain.Within (element tokens inner) (element tokens e) ∧
    ∃ argument calls,
      Chain.read? (element tokens inner) =
        some ⟨inner.tag, argument.getD [],
          calls ++ inner.children.map fun c => ("with_child", child tokens c)⟩ ∧
      Becomes tokens inner.attributes argument calls ∧
      (Uses tokens inner.attributes argument calls ↔ ContentOnce tokens inner.attributes) ∧
      (calls.length + argument.toList.length = inner.attributes.length ↔
        ContentOnce tokens inner.attributes) := by
  have hbecomes := becomes_element tokens inner.attributes
  exact ⟨h.within, _, _, read?_element inner, hbecomes, hbecomes.uses_iff, hbecomes.length_iff⟩

/-- A text in a division, with a flag and a raw name beside its content. -/
theorem element_uses_iff_nested :
    let written (name : String) := [Token.word name]
    let text : Element String := .mk (.plain "Text")
      [⟨.plain "hidden", .flag⟩, ⟨contentName, .expression "title"⟩,
        ⟨⟨true, "content"⟩, .expression "more"⟩] [] true
    let page : Element String := .mk (.plain "Div") [] [.expression "head", .element text] false
    Nested text page ∧ Chain.Within (element written text) (element written page) ∧
      ∃ argument calls,
        Chain.read? (element written text) = some ⟨.plain "Text", argument.getD [], calls ++ []⟩ ∧
        Uses written text.attributes argument calls ∧
        calls.length + argument.toList.length = 3 := by
  intro written text page
  have h : Nested text page := .child (List.mem_cons_of_mem _ List.mem_cons_self) .refl
  obtain ⟨hwithin, argument, calls, hread, -, huses, hlength⟩ := element_uses_iff written h
  have honce : ContentOnce written text.attributes := .inr (by decide)
  exact ⟨h, hwithin, argument, calls, hread, huses.mpr honce, hlength.mpr honce⟩

end Attributes

/-- Of two attributes named `content` the second is left out. -/
theorem repeated_content_left_out :
    let literal (text : String) : StringLiteral := ⟨"\"" ++ text ++ "\"", text⟩
    let e : Element Expression := .mk (.plain "Text")
      [⟨contentName, .text (literal "a")⟩, ⟨contentName, .text (literal "b")⟩] [] true
    readTokens [.punct '<' .alone, .word "Text",
        .word "content", .punct '=' .alone, (literal "a").token,
        .word "content", .punct '=' .alone, (literal "b").token,
        .punct '/' .joint, .punct '>' .alone] = .ok [e] ∧
      Chain.read? (element Expression.tokens e) =
        some ⟨.plain "Text", [(literal "a").token], []⟩ ∧
      ¬∃ argument calls,
        Chain.read? (element Expression.tokens e) = some ⟨.plain "Text", argument.getD [], calls⟩ ∧
        Uses Expression.tokens e.attributes argument calls := by
  intro literal e
  have hread : Chain.read? (element Expression.tokens e) =
      some ⟨.plain "Text", [(literal "a").token], []⟩ := read?_element e
  refine ⟨rfl, hread, ?_⟩
  rintro ⟨argument, calls, hread', huses⟩
  rw [hread] at hread'
  have hcalls : calls = [] := (congrArg Chain.calls (Option.some.inj hread')).symm
  have hlength : calls.length + argument.toList.length = 2 := huses.length
  rw [hcalls] at hlength
  cases argument with
  | none => exact absurd hlength (by decide)
  | some value => exact absurd hlength (by simp)

end HtmlComponents.View
