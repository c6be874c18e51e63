import HtmlComponents.Proofs.Chain
import HtmlComponents.Proofs.Grammar

/-!
# Reading the elements back from the code

The code for a view nests chains of calls in each other, and from its tokens alone one can
tell which constructors are called and inside which others, at any depth (`Plan.read?`). What
is needed for it is that arguments stand in parentheses, that nothing but a child is added by
the method for children, and that expressions keep to themselves: they are code too, and may
call constructors of their own. So the code is read with every expression as one atom, which
is a pair of braces around its tokens; the builder writes no braces of its own. What is read
is a plan, and it is the plan of the elements that the code is for.

How expressions are written is a parameter of the builder. So it makes no difference whether
the braces are taken away from the code (`Token.openedAll`) or were never written.
-/

namespace HtmlComponents.View

open Builder

/-! ## Expressions as atoms -/

namespace Token

mutual

/-- A token with the braces of atoms in it taken away. -/
def opened : Token → List Token
  | ident i => [ident i]
  | punct symbol spacing => [punct symbol spacing]
  | literal l => [literal l]
  | group .brace content => content
  | group .parenthesis content => [group .parenthesis (openedAll content)]
  | group .bracket content => [group .bracket (openedAll content)]

def openedAll : List Token → List Token
  | [] => []
  | token :: tokens => token.opened ++ openedAll tokens

end

theorem openedAll_append (front back : List Token) :
    openedAll (front ++ back) = openedAll front ++ openedAll back := by
  induction front with
  | nil => rfl
  | cons token front ih =>
      rw [List.cons_append, openedAll, openedAll, ih, List.append_assoc]

theorem openedAll_path (names : List Ident) : openedAll (path names) = path names := by
  induction names with
  | nil => rfl
  | cons name names ih =>
      cases names with
      | nil => rfl
      | cons next names =>
          rw [path, List.cons_append, openedAll, openedAll_append, ih]
          rfl

theorem openedAll_call (method : String) (argument : List Token) :
    openedAll (call method argument) = call method (openedAll argument) := rfl

theorem openedAll_constructor (tag : Ident) (argument : List Token) :
    openedAll (constructor tag argument) = constructor tag (openedAll argument) := by
  rw [constructor, openedAll_append, openedAll_path]
  rfl

theorem openedAll_separated (rows : List (List Token)) :
    openedAll (separated rows) = separated (rows.map openedAll) := by
  induction rows with
  | nil => rfl
  | cons row rows ih =>
      cases rows with
      | nil => rfl
      | cons next rows =>
          rw [separated, openedAll_append, openedAll, ih]
          rfl

end Token

section Atoms

variable {ε : Type} (tokens : ε → List Token)

/-- An expression as one token. -/
def atom (e : ε) : List Token := [.group .brace (tokens e)]

theorem openedAll_argument? (a : Attribute ε) :
    (argument? (atom tokens) a).map Token.openedAll = argument? tokens a := by
  unfold argument?
  split
  · cases a.value with
    | text literal => rfl
    | expression e => exact congrArg some (List.append_nil _)
    | truth value => rfl
    | flag => rfl
  · rfl

theorem openedAll_findSome? (attributes : List (Attribute ε)) :
    (attributes.findSome? (argument? (atom tokens))).map Token.openedAll =
      attributes.findSome? (argument? tokens) := by
  rw [List.map_findSome?]
  exact congrArg (attributes.findSome? ·) (funext (openedAll_argument? tokens))

theorem calledAttributes_atom (attributes : List (Attribute ε)) :
    calledAttributes (atom tokens) attributes = calledAttributes tokens attributes := by
  rw [calledAttributes, calledAttributes, ← openedAll_findSome? tokens, Option.isSome_map]

theorem openedAll_attributeCalls (attributes : List (Attribute ε)) :
    Token.openedAll (attributes.flatMap (attributeCall (atom tokens))) =
      attributes.flatMap (attributeCall tokens) := by
  induction attributes with
  | nil => rfl
  | cons a attributes ih =>
      have hcall : Token.openedAll (attributeCall (atom tokens) a) = attributeCall tokens a := by
        obtain ⟨name, value⟩ := a
        cases value with
        | text literal => rfl
        | expression e => exact congrArg (call _) (List.append_nil _)
        | truth value => rfl
        | flag => rfl
      rw [List.flatMap_cons, Token.openedAll_append, hcall, ih, List.flatMap_cons]

mutual

/-- The code for an element is the one with atoms, without the braces. -/
theorem openedAll_element :
    (e : Element ε) → Token.openedAll (element (atom tokens) e) = element tokens e
  | .mk tag attributes children _ => by
      rw [element, Token.openedAll_append, Token.openedAll_append, Token.openedAll_constructor,
        calledAttributes_atom, openedAll_attributeCalls, openedAll_childCalls children, element,
        ← openedAll_findSome? tokens]
      cases attributes.findSome? (argument? (atom tokens)) <;> rfl

theorem openedAll_child :
    (c : Child ε) → Token.openedAll (child (atom tokens) c) = child tokens c
  | .element e => by
      rw [child, child]
      exact openedAll_element e
  | .text _ => by
      rw [child, child]
      rfl
  | .expression _ => by
      rw [child, child]
      exact List.append_nil _

theorem openedAll_childCalls :
    (cs : List (Child ε)) → Token.openedAll (childCalls (atom tokens) cs) = childCalls tokens cs
  | [] => by
      rw [childCalls, childCalls]
      rfl
  | c :: cs => by
      rw [childCalls, childCalls, Token.openedAll_append, Token.openedAll_call,
        openedAll_child c, openedAll_childCalls cs]

end

theorem openedAll_component (e : Element ε) :
    Token.openedAll (component (atom tokens) e) = component tokens e := by
  rw [component, component, plainPath, Token.openedAll_append, Token.openedAll_path,
    ← openedAll_element tokens]
  rfl

/-- The code for a view is the one with atoms, without the braces. -/
theorem openedAll_view? (elements : List (Element ε)) :
    (view? (atom tokens) elements).map Token.openedAll = view? tokens elements := by
  match elements with
  | [] => rfl
  | [e] => exact congrArg some (openedAll_component tokens e)
  | e :: next :: es =>
      have hrows : ((e :: next :: es).map (component (atom tokens))).map Token.openedAll =
          (e :: next :: es).map (component tokens) := by
        rw [List.map_map]
        exact List.map_congr_left fun e _ => openedAll_component tokens e
      rw [view?, view?, Option.map_some, ← hrows, group, group, Token.openedAll_append, plainPath,
        Token.openedAll_path, ← Token.openedAll_separated]
      rfl

end Atoms

/-! ## Reading code -/

/-- What code makes. -/
inductive Plan where
  /-- A constructor call with its argument, the calls that set something on what was made,
  and what is added to it, in order. -/
  | made (tag : Ident) (argument : List Token) (settings : List (String × List Token))
    (children : List Plan)
  /-- What an expression makes. -/
  | expression (content : List Token)

namespace Plan

def childMethod : String := "with_child"

mutual

/-- The plan of an atom or a chain of calls. -/
def read? : List Token → Option Plan
  | [.group .brace content] => some (.expression content)
  | .ident crate :: .punct ':' .joint :: .punct ':' .alone ::
      .ident elements :: .punct ':' .joint :: .punct ':' .alone ::
      .ident tag :: .punct ':' .joint :: .punct ':' .alone ::
      .ident new :: .group .parenthesis argument :: rest =>
    if crate = .plain "gilt_html" ∧ elements = .plain "elements" ∧ new = .plain "new" then
      (readCalls? rest).map fun calls => .made tag argument calls.1 calls.2
    else none
  | _ => none

/-- Calls up to the end of the tokens: those that set something, and behind them those that
add a child. -/
def readCalls? : List Token → Option (List (String × List Token) × List Plan)
  | [] => some ([], [])
  | .punct '.' .alone :: .ident ⟨false, method⟩ :: .group .parenthesis argument :: rest =>
    match readCalls? rest with
    | none => none
    | some (settings, children) =>
      if method = childMethod then
        -- nothing is set on what has a child already
        if settings.isEmpty then
          (readArgument? (.group .parenthesis argument)).map fun plan => ([], plan :: children)
        else none
      else some ((method, argument) :: settings, children)
  | _ => none

/-- The plan of what stands in parentheses. -/
def readArgument? : Token → Option Plan
  | .group .parenthesis argument => read? argument
  | _ => none

end

theorem read?_constructor (tag : Ident) (argument calls : List Token) :
    read? (constructor tag argument ++ calls) =
      (readCalls? calls).map fun calls => .made tag argument calls.1 calls.2 := by
  have hread : read? (constructor tag argument ++ calls) =
      if Ident.plain "gilt_html" = .plain "gilt_html" ∧
          Ident.plain "elements" = .plain "elements" ∧ Ident.plain "new" = .plain "new" then
        (readCalls? calls).map fun calls => .made tag argument calls.1 calls.2
      else none := rfl
  rw [hread, if_pos ⟨rfl, rfl, rfl⟩]

/-- One call more in front of others. -/
theorem readCalls?_call (method : String) (argument : List Token) {rest : List Token}
    {settings : List (String × List Token)} {children : List Plan}
    (hrest : readCalls? rest = some (settings, children)) :
    readCalls? (call method argument ++ rest) =
      if method = childMethod then
        if settings.isEmpty then (read? argument).map fun plan => ([], plan :: children)
        else none
      else some ((method, argument) :: settings, children) := by
  have hcall : readCalls? (call method argument ++ rest) =
      match readCalls? rest with
      | none => none
      | some (settings, children) =>
        if method = childMethod then
          if settings.isEmpty then (read? argument).map fun plan => ([], plan :: children)
          else none
        else some ((method, argument) :: settings, children) := rfl
  rw [hcall, hrest]

/-- Calls that set something can stand in front of the others. -/
theorem readCalls?_settings {settings : List (String × List Token)}
    (h : ∀ s ∈ settings, s.1 ≠ childMethod) {rest : List Token} {children : List Plan}
    (hrest : readCalls? rest = some ([], children)) :
    readCalls? (Chain.callTokens settings ++ rest) = some (settings, children) := by
  induction settings with
  | nil => exact hrest
  | cons s settings ih =>
      obtain ⟨hs, hlater⟩ := List.forall_mem_cons.mp h
      rw [Chain.callTokens, List.flatMap_cons, List.append_assoc, ← Chain.callTokens,
        readCalls?_call s.1 s.2 (ih hlater), if_neg hs]

end Plan

/-! ## Plans of elements -/

section Elements

variable {ε : Type} (tokens : ε → List Token)

mutual

/-- What an element asks for: its constructor with the argument that an attribute gives,
settings for the other attributes, and its children in order. -/
def Element.plan : Element ε → Plan
  | .mk tag attributes children _ =>
    .made tag ((attributes.findSome? (argument? (atom tokens))).getD [])
      ((calledAttributes tokens attributes).map (Attribute.called (atom tokens)))
      (Child.plans children)

/-- What a child asks for. A text is a component of its own. -/
def Child.plan : Child ε → Plan
  | .element e => e.plan
  | .text literal => .made (.plain "Text") [literal.token] [] []
  | .expression e => .expression (tokens e)

def Child.plans : List (Child ε) → List Plan
  | [] => []
  | c :: cs => c.plan :: Child.plans cs

end

/-- No attribute has a name, raw or not, with which it could call the method that adds a
child. -/
def Element.NamesNoChild (e : Element ε) : Prop :=
  ∀ a ∈ e.attributes, a.name.name ≠ "child" ∧ a.name.name ≠ "with_child"

/-- What holds of the elements in an element holds of it and in its children. -/
theorem forall_nested_iff {P : Element ε → Prop} {e : Element ε} :
    (∀ inner, Nested inner e → P inner) ↔
      P e ∧ ∀ c, .element c ∈ e.children → ∀ inner, Nested inner c → P inner := by
  constructor
  · exact fun h => ⟨h e .refl, fun c hc inner hinner => h inner (.child hc hinner)⟩
  · rintro ⟨he, hchildren⟩ inner hinner
    cases hinner with
    | refl => exact he
    | child hc hinner => exact hchildren _ hc inner hinner

variable {tokens}

theorem Attribute.called_ne_childMethod {a : Attribute ε}
    (h : a.name.name ≠ "child" ∧ a.name.name ≠ "with_child") :
    (a.called (atom tokens)).1 ≠ Plan.childMethod := by
  have hwith : "with_" ++ a.name.name ≠ "with_" ++ "child" :=
    fun heq => h.1 ((String.append_right_inj "with_").mp heq)
  unfold Attribute.called
  cases a.value with
  | text literal => exact hwith
  | expression e => exact hwith
  | truth value => exact h.2
  | flag => exact h.2

theorem mem_of_mem_calledAttributes {attributes : List (Attribute ε)} {a : Attribute ε}
    (h : a ∈ calledAttributes tokens attributes) : a ∈ attributes := by
  unfold calledAttributes at h
  split at h
  · exact (List.mem_filter.mp h).1
  · exact h

variable (tokens)

mutual

/-- The code for an element is read as the plan of the element. -/
theorem Plan.read?_element : (e : Element ε) →
    (∀ inner, Nested inner e → inner.NamesNoChild) →
      Plan.read? (element (atom tokens) e) = some (e.plan tokens)
  | .mk tag attributes children closed, h => by
      obtain ⟨hnames, hinside⟩ := forall_nested_iff.mp h
      have hchildren := Plan.readCalls?_childCalls children hinside
      have hsettings : ∀ s ∈ (calledAttributes tokens attributes).map
          (Attribute.called (atom tokens)), s.1 ≠ Plan.childMethod := by
        refine List.forall_mem_map.mpr fun a ha => ?_
        exact Attribute.called_ne_childMethod (hnames a (mem_of_mem_calledAttributes ha))
      rw [element, List.append_assoc, Plan.read?_constructor, calledAttributes_atom,
        attributeCalls_eq, Plan.readCalls?_settings hsettings hchildren, Element.plan]
      rfl

theorem Plan.read?_child : (c : Child ε) →
    (∀ e, c = .element e → ∀ inner, Nested inner e → inner.NamesNoChild) →
      Plan.read? (child (atom tokens) c) = some (c.plan tokens)
  | .element e, h => by
      rw [child, Child.plan]
      exact Plan.read?_element e (h e rfl)
  | .text literal, _ => by
      rw [child, Child.plan, ← List.append_nil (constructor _ _), Plan.read?_constructor]
      rfl
  | .expression e, _ => by
      rw [child, Child.plan, atom, Plan.read?]

theorem Plan.readCalls?_childCalls : (cs : List (Child ε)) →
    (∀ e, .element e ∈ cs → ∀ inner, Nested inner e → inner.NamesNoChild) →
      Plan.readCalls? (childCalls (atom tokens) cs) = some ([], Child.plans tokens cs)
  | [], _ => by
      rw [childCalls, Child.plans, Plan.readCalls?]
  | c :: cs, h => by
      rw [childCalls, Child.plans]
      have hlater := Plan.readCalls?_childCalls cs fun e he => h e (List.mem_cons_of_mem c he)
      have hfirst := Plan.read?_child c fun e he => h e (he ▸ List.mem_cons_self)
      have hmethod : "with_child" = Plan.childMethod := rfl
      rw [Plan.readCalls?_call _ _ hlater, if_pos hmethod, hfirst]
      rfl

end

end Elements

/-! ## Reading the code for a view -/

/-- What stands behind a path of plain names. -/
def behind? : List String → List Token → Option (List Token)
  | [name], .ident i :: rest => if i = .plain name then some rest else none
  | name :: next :: names, .ident i :: .punct ':' .joint :: .punct ':' .alone :: rest =>
    if i = .plain name then behind? (next :: names) rest else none
  | _, _ => none

theorem behind?_plainPath (name : String) (names : List String) (rest : List Token) :
    behind? (name :: names) (plainPath (name :: names) ++ rest) = some rest := by
  induction names generalizing name with
  | nil => exact if_pos rfl
  | cons next names ih =>
      have hstep : behind? (name :: next :: names) (plainPath (name :: next :: names) ++ rest) =
          if Ident.plain name = .plain name then
            behind? (next :: names) (plainPath (next :: names) ++ rest)
          else none := rfl
      rw [hstep, if_pos rfl, ih]

namespace Plan

/-- The plan of what a component is made from. -/
def readRoot? (code : List Token) : Option Plan :=
  match behind? ["gilt_html", "component", "Component", "from"] code with
  | some [.group .parenthesis code] => read? code
  | _ => none

def isComma : Token → Bool
  | .punct ',' _ => true
  | _ => false

/-- The plans of what the components of a group are made from. -/
def readGroup? (code : List Token) : Option (List Plan) :=
  match behind? ["gilt_html", "component", "Component", "group"] code with
  | some [.group .parenthesis (.punct ':' .joint :: .punct ':' .alone :: vector)] =>
    match behind? ["std", "vec"] vector with
    | some [.punct '!' .alone, .group .bracket components] =>
      (components.splitOnP isComma).mapM readRoot?
    | _ => none
  | _ => none

end Plan

/-- Rows without commas can be told apart when they are separated by commas. -/
theorem splitOnP_separated {rows : List (List Token)} (hrows : rows ≠ [])
    (h : ∀ row ∈ rows, ∀ token ∈ row, Plan.isComma token = false) :
    (separated rows).splitOnP Plan.isComma = rows := by
  induction rows with
  | nil => exact absurd rfl hrows
  | cons row rows ih =>
      obtain ⟨hrow, hlater⟩ := List.forall_mem_cons.mp h
      cases rows with
      | nil => exact List.splitOnP_eq_singleton hrow
      | cons next rows =>
          rw [separated, List.splitOnP_append_cons_of_forall_mem hrow _ rfl,
            ih (List.cons_ne_nil _ _) hlater]

section Views

variable {ε : Type} (tokens : ε → List Token)

theorem isComma_component (e : Element ε) :
    ∀ token ∈ component tokens e, Plan.isComma token = false := by
  have hpath : ∀ token ∈ plainPath ["gilt_html", "component", "Component", "from"],
      Plan.isComma token = false := by
    simp [plainPath, path, pathSeparator, Token.symbol, Plan.isComma]
  rw [component, List.forall_mem_append]
  exact ⟨hpath, List.forall_mem_singleton.mpr rfl⟩

theorem Plan.readRoot?_component (e : Element ε)
    (h : ∀ inner, Nested inner e → inner.NamesNoChild) :
    Plan.readRoot? (component (atom tokens) e) = some (e.plan tokens) := by
  rw [readRoot?, component, behind?_plainPath]
  exact Plan.read?_element tokens e h

theorem Plan.mapM_readRoot? {elements : List (Element ε)}
    (h : ∀ e ∈ elements, ∀ inner, Nested inner e → inner.NamesNoChild) :
    (elements.map (component (atom tokens))).mapM Plan.readRoot? =
      some (elements.map (Element.plan tokens)) := by
  induction elements with
  | nil => rfl
  | cons e elements ih =>
      obtain ⟨he, hlater⟩ := List.forall_mem_cons.mp h
      rw [List.map_cons, List.mapM_cons, Plan.readRoot?_component tokens e he, ih hlater]
      rfl

theorem Plan.readGroup?_group {elements : List (Element ε)} (helements : elements ≠ [])
    (h : ∀ e ∈ elements, ∀ inner, Nested inner e → inner.NamesNoChild) :
    Plan.readGroup? (group (elements.map (component (atom tokens)))) =
      some (elements.map (Element.plan tokens)) := by
  have hsplit : (separated (elements.map (component (atom tokens)))).splitOnP Plan.isComma =
      elements.map (component (atom tokens)) := by
    refine splitOnP_separated (by simpa using helements) ?_
    exact List.forall_mem_map.mpr fun e _ => isComma_component (atom tokens) e
  rw [readGroup?, group, behind?_plainPath]
  show ((separated (elements.map (component (atom tokens)))).splitOnP Plan.isComma).mapM
    Plan.readRoot? = _
  rw [hsplit, Plan.mapM_readRoot? tokens h]

end Views

theorem codeOfTokens_eq {source : List Token} {elements : List (Element Expression)}
    (hread : readTokens source = .ok elements) :
    codeOfTokens source =
      ((view? (atom Expression.tokens) elements).map Token.openedAll).elim
        (.error ⟨.noElement, false⟩) .ok := by
  rw [openedAll_view?, codeOfTokens, hread]
  simp only [bind, Except.bind]
  cases view? Expression.tokens elements <;> rfl

/-- The code for a view can be read: with every expression as an atom it has, at any depth,
one constructor for every element, with the element's tag, settings for its attributes and
behind them its children in order, where a text is made into a component of its own and an
expression is left as it is. One element is made into a component, and several into a group of
as many components in their order; without elements there is no code. The code itself is the
one with atoms, without their braces. -/
theorem codeOfTokens_reads_back {source : List Token} {elements : List (Element Expression)}
    (hread : readTokens source = .ok elements)
    (hnames : ∀ e ∈ elements, ∀ inner, Nested inner e → inner.NamesNoChild) :
    (elements = [] → source = [] ∧ codeOfTokens source = .error ⟨.noElement, false⟩) ∧
    (elements ≠ [] → ∃ code,
      view? (atom Expression.tokens) elements = some code ∧
      codeOfTokens source = .ok (Token.openedAll code) ∧
      (∀ e, elements = [e] → Plan.readRoot? code = some (e.plan Expression.tokens)) ∧
      (2 ≤ elements.length →
        Plan.readGroup? code = some (elements.map (Element.plan Expression.tokens)))) := by
  have hcode := codeOfTokens_eq hread
  rcases elements with _ | ⟨e, _ | ⟨next, es⟩⟩
  · have hsource := Grammar.readTokens_eq_ok_iff.mp hread
    cases hsource
    exact ⟨fun _ => ⟨rfl, hcode⟩, fun h => absurd rfl h⟩
  · have hcons : [e] ≠ [] := List.cons_ne_nil _ _
    refine ⟨fun h => absurd h hcons, fun _ => ⟨_, rfl, hcode, fun e' he' => ?_, fun htwo => ?_⟩⟩
    · cases he'
      exact Plan.readRoot?_component Expression.tokens e (hnames e List.mem_cons_self)
    · exact absurd htwo (Nat.not_succ_le_self 1)
  · have hcons : e :: next :: es ≠ [] := List.cons_ne_nil _ _
    refine ⟨fun h => absurd h hcons, fun _ => ⟨_, rfl, hcode, fun e' he' => ?_, fun _ => ?_⟩⟩
    · cases he'
    · exact Plan.readGroup?_group Expression.tokens hcons hnames

/-- Two roots, the first with a child of each kind and with an expression for a setting. -/
theorem codeOfTokens_reads_back_rows :
    let text : StringLiteral := ⟨"\"a\"", "a"⟩
    let source : List Token :=
      [.punct '<' .alone, .word "Label", .word "for", .punct '=' .alone, .group .brace [.word "x"],
        .punct '>' .alone, .punct '<' .alone, .word "Radio", .word "checked", .punct '/' .joint,
        .punct '>' .alone, text.token, .group .brace [.word "y"],
        .punct '<' .joint, .punct '/' .alone, .word "Label", .punct '>' .alone,
        .punct '<' .alone, .word "Div", .punct '/' .joint, .punct '>' .alone]
    ∃ code, codeOfTokens source = .ok (Token.openedAll code) ∧
      Plan.readGroup? code = some
        [.made (.plain "Label") [] [("with_for", [.group .brace [.word "x"]])]
          [.made (.plain "Radio") [] [("checked", [.word "true"])] [],
            .made (.plain "Text") [text.token] [] [], .expression [.word "y"]],
          .made (.plain "Div") [] [] []] := by
  intro text source
  let radio : Element Expression := .mk (.plain "Radio") [⟨.plain "checked", .flag⟩] [] true
  let label : Element Expression := .mk (.plain "Label")
    [⟨.plain "for", .expression ⟨[.word "x"], none⟩⟩]
    [.element radio, .text text, .expression ⟨[.word "y"], none⟩] false
  let division : Element Expression := .mk (.plain "Div") [] [] true
  have hread : readTokens source = .ok [label, division] := by cbv
  have hradio : ∀ inner, Nested inner radio → inner.NamesNoChild :=
    forall_nested_iff.mpr ⟨List.forall_mem_singleton.mpr (by decide),
      fun c hc => absurd hc List.not_mem_nil⟩
  have hlabel : ∀ inner, Nested inner label → inner.NamesNoChild := by
    refine forall_nested_iff.mpr ⟨List.forall_mem_singleton.mpr (by decide), fun e he => ?_⟩
    have he : e = radio := by simpa [label, Element.children] using he
    rwa [he]
  have hdivision : ∀ inner, Nested inner division → inner.NamesNoChild :=
    forall_nested_iff.mpr ⟨fun a ha => absurd ha List.not_mem_nil,
      fun c hc => absurd hc List.not_mem_nil⟩
  have hnames : ∀ e ∈ [label, division], ∀ inner, Nested inner e → inner.NamesNoChild :=
    List.forall_mem_cons.mpr ⟨hlabel, List.forall_mem_singleton.mpr hdivision⟩
  obtain ⟨-, hcode⟩ := codeOfTokens_reads_back hread hnames
  obtain ⟨code, -, hok, -, hplans⟩ := hcode (List.cons_ne_nil _ _)
  exact ⟨code, hok, hplans (Nat.le_refl 2)⟩

end HtmlComponents.View
