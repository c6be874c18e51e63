import Mathlib
import HtmlComponents.View

/-!
# The grammar of views

The grammar says which rows of tokens are elements, and of each of them which
element it is. It is given as relations between what is written and the tokens that
it is written as, one relation for each kind of thing and one rule for each way of
writing it. The spacing of punctuation is left open in every rule. What an expression
is, is a parameter.

Reading agrees with the grammar in both directions. What is read is in the grammar:
the induction is on the fuel, and the tokens in front of the rest are the ones that
the rules ask for. What is in the grammar is read, whatever follows it: a token or two
decide at each place which rule applies, so the reader cannot leave the way, and fuel
for the tokens of an element is enough to read it. The tokens that follow stand in the
statements, and with them an element is told from every longer one.
-/

namespace HtmlComponents.View

variable {ε : Type}

namespace Grammar

section Rules

variable (reads : List Token → ε → Prop)

/-- An attribute and the tokens that it is written as. -/
inductive IsAttribute : Attribute ε → List Token → Prop where
  | flag (name : Ident) : IsAttribute ⟨name, .flag⟩ [.ident name]
  | text (name : Ident) (equals : Spacing) (literal : StringLiteral) :
      IsAttribute ⟨name, .text literal⟩ [.ident name, .punct '=' equals, literal.token]
  | truth (name : Ident) (equals : Spacing) (value : Bool) :
      IsAttribute ⟨name, .truth value⟩
        [.ident name, .punct '=' equals, .word (if value then "true" else "false")]
  | expression (name : Ident) (equals : Spacing) {content : List Token} {e : ε}
      (he : reads content e) :
      IsAttribute ⟨name, .expression e⟩ [.ident name, .punct '=' equals, .group .brace content]

/-- Attributes one behind the other. -/
inductive AreAttributes : List (Attribute ε) → List Token → Prop where
  | nil : AreAttributes [] []
  | cons {a : Attribute ε} {attributes : List (Attribute ε)} {tokens later : List Token}
      (ha : IsAttribute reads a tokens) (hlater : AreAttributes attributes later) :
      AreAttributes (a :: attributes) (tokens ++ later)

mutual

/-- An element and the tokens that it is written as. -/
inductive IsElement : Element ε → List Token → Prop where
  | selfClosing {tag : Ident} {attributes : List (Attribute ε)} {inTag : List Token}
      (less slash greater : Spacing) (htag : tag.isKeyword = false)
      (hattributes : AreAttributes reads attributes inTag) :
      IsElement (.mk tag attributes [] true)
        (.punct '<' less :: .ident tag :: (inTag ++ [.punct '/' slash, .punct '>' greater]))
  | paired {tag : Ident} {attributes : List (Attribute ε)} {children : List (Child ε)}
      {inTag between : List Token} (less greater less' slash' greater' : Spacing)
      (htag : tag.isKeyword = false) (hattributes : AreAttributes reads attributes inTag)
      (hchildren : AreChildren children between) :
      IsElement (.mk tag attributes children false)
        (.punct '<' less :: .ident tag :: (inTag ++ .punct '>' greater :: (between ++
          [.punct '<' less', .punct '/' slash', .ident tag, .punct '>' greater'])))

/-- A child and the tokens that it is written as. -/
inductive IsChild : Child ε → List Token → Prop where
  | element {e : Element ε} {tokens : List Token} (he : IsElement e tokens) :
      IsChild (.element e) tokens
  | text (literal : StringLiteral) : IsChild (.text literal) [literal.token]
  | expression {content : List Token} {e : ε} (he : reads content e) :
      IsChild (.expression e) [.group .brace content]

/-- Children one behind the other. -/
inductive AreChildren : List (Child ε) → List Token → Prop where
  | nil : AreChildren [] []
  | cons {child : Child ε} {children : List (Child ε)} {tokens later : List Token}
      (hchild : IsChild child tokens) (hlater : AreChildren children later) :
      AreChildren (child :: children) (tokens ++ later)

end

/-- Elements one behind the other. -/
inductive AreElements : List (Element ε) → List Token → Prop where
  | nil : AreElements [] []
  | cons {e : Element ε} {elements : List (Element ε)} {tokens later : List Token}
      (he : IsElement reads e tokens) (hlater : AreElements elements later) :
      AreElements (e :: elements) (tokens ++ later)

end Rules

/-- What a reader finds in the content of a pair of braces, if it is accepted. -/
def Found (read : List Token → Outcome ε) (accepted : ε → Prop) (content : List Token)
    (e : ε) : Prop :=
  read content = .ok e ∧ accepted e

/-- An expression and the tokens that it is written as. All the tokens between two
braces have to be used for it. -/
def IsExpression : List Token → Expression → Prop :=
  Found Expression.read fun e => e.excess = none

/-- What a start tag ends with, and whether that closes the element. -/
inductive EndsTag : Bool → List Token → Prop where
  | closed (slash greater : Spacing) : EndsTag true [.punct '/' slash, .punct '>' greater]
  | opened (greater : Spacing) : EndsTag false [.punct '>' greater]

variable {read : List Token → Outcome ε} {accepted : ε → Prop}

/-! ## What is read is in the grammar -/

theorem bind_ok {α β : Type} {x : Outcome α} {f : α → Outcome β} {b : β}
    (h : (x >>= f) = .ok b) : ∃ a, x = .ok a ∧ f a = .ok b := by
  cases x with
  | error => cases h
  | ok a => exact ⟨a, rfl, h⟩

theorem literal_of_string? {literal : Literal} {text : StringLiteral}
    (h : literal.string? = some text) : Token.literal literal = text.token := by
  obtain ⟨written, kind⟩ := literal
  unfold Literal.string? at h
  split at h
  · next value hkind =>
      cases h
      cases hkind
      rfl
  · cases h

theorem ident_of_truth? {ident : Ident} {value : Bool} (h : ident.truth? = some value) :
    Token.ident ident = .word (if value then "true" else "false") := by
  unfold Ident.truth? at h
  split at h
  · next htrue =>
      cases h
      rw [htrue]
      rfl
  · split at h
    · next hfalse =>
        cases h
        rw [hfalse]
        rfl
    · cases h

theorem withAttribute_ok {a : Attribute ε}
    {later : Outcome ((List (Attribute ε) × Bool) × List Token)}
    {attributes : List (Attribute ε)} {closed : Bool} {rest : List Token}
    (h : Reading.attributes.withAttribute a later = .ok ((attributes, closed), rest)) :
    ∃ others, attributes = a :: others ∧ later = .ok ((others, closed), rest) := by
  rcases later with error | ⟨⟨others, closed'⟩, rest'⟩
  · cases h
  · cases h
    exact ⟨others, rfl, rfl⟩

theorem areAttributes_of_read {tokens rest : List Token} {attributes : List (Attribute ε)}
    {closed : Bool}
    (h : Reading.attributes read tokens = .ok ((attributes, closed), rest))
    (haccepted : ∀ e ∈ attributes.filterMap Attribute.expression?, accepted e) :
    ∃ inTag ending, tokens = inTag ++ (ending ++ rest) ∧
      AreAttributes (Found read accepted) attributes inTag ∧ EndsTag closed ending := by
  fun_induction Reading.attributes read tokens generalizing attributes closed rest with
  | case1 slash greater rest' =>
      cases h
      exact ⟨[], _, rfl, .nil, .closed slash greater⟩
  | case2 => cases h
  | case3 greater rest' =>
      cases h
      exact ⟨[], _, rfl, .nil, .opened greater⟩
  | case4 => cases h
  | case5 name equals literal rest' text htext ih =>
      obtain ⟨others, rfl, hlater⟩ := withAttribute_ok h
      obtain ⟨inTag, ending, rfl, hothers, hending⟩ := ih hlater haccepted
      refine ⟨_, ending, ?_, .cons (.text name equals text) hothers, hending⟩
      rw [literal_of_string? htext]
      rfl
  | case6 => cases h
  | case7 name equals ident rest' value hvalue ih =>
      obtain ⟨others, rfl, hlater⟩ := withAttribute_ok h
      obtain ⟨inTag, ending, rfl, hothers, hending⟩ := ih hlater haccepted
      refine ⟨_, ending, ?_, .cons (.truth name equals value) hothers, hending⟩
      rw [ident_of_truth? hvalue]
      rfl
  | case8 => cases h
  | case9 name equals content rest' e he ih =>
      obtain ⟨others, rfl, hlater⟩ := withAttribute_ok h
      have haccepted := List.forall_mem_cons.mp haccepted
      obtain ⟨inTag, ending, rfl, hothers, hending⟩ := ih hlater haccepted.2
      exact ⟨_, ending, rfl, .cons (.expression name equals ⟨he, haccepted.1⟩) hothers,
        hending⟩
  | case10 => cases h
  | case11 name rest' _ _ _ _ ih =>
      obtain ⟨others, rfl, hlater⟩ := withAttribute_ok h
      obtain ⟨inTag, ending, rfl, hothers, hending⟩ := ih hlater haccepted
      exact ⟨_, ending, rfl, .cons (.flag name) hothers, hending⟩
  | case12 => cases h

theorem ident_ok {tokens rest : List Token} {i : Ident}
    (h : Reading.ident tokens = .ok (i, rest)) :
    tokens = .ident i :: rest ∧ i.isKeyword = false := by
  unfold Reading.ident at h
  split at h
  · split at h
    · cases h
    · next hkeyword =>
        cases h
        exact ⟨rfl, by simpa using hkeyword⟩
  · cases h

theorem closing_ok {opened : Ident} {tokens rest : List Token}
    (h : Reading.closing opened tokens = .ok rest) :
    ∃ greater, tokens = .ident opened :: .punct '>' greater :: rest := by
  unfold Reading.closing at h
  split at h
  · cases h
  · next closed behind hident =>
      obtain ⟨rfl, -⟩ := ident_ok hident
      split at h
      · cases h
      · next hsame =>
          obtain rfl := Decidable.not_not.mp hsame
          split at h
          · next greater _ =>
              cases h
              exact ⟨greater, rfl⟩
          · cases h

mutual

theorem isElement_of_read : (fuel : Nat) → {tokens rest : List Token} → {e : Element ε} →
    Reading.element read fuel tokens = .ok (e, rest) → (∀ x ∈ e.expressions, accepted x) →
    ∃ front, tokens = front ++ rest ∧ IsElement (Found read accepted) e front
  | 0, _, _, _, h, _ => by cases h
  | fuel + 1, tokens, rest, e, h, haccepted => by
      unfold Reading.element at h
      split at h
      · cases h
      · next less behind hfuel =>
          cases hfuel
          obtain ⟨⟨tag, afterTag⟩, htag, h⟩ := bind_ok h
          obtain ⟨⟨⟨attributes, closed⟩, inside⟩, hattributes, h⟩ := bind_ok h
          obtain ⟨rfl, hkeyword⟩ := ident_ok htag
          cases closed with
          | true =>
              cases h
              rw [Element.expressions, Child.expressionsAll, List.append_nil] at haccepted
              obtain ⟨inTag, ending, rfl, hinTag, hending⟩ :=
                areAttributes_of_read hattributes haccepted
              cases hending with
              | closed slash greater =>
                  exact ⟨_, by simp, .selfClosing less slash greater hkeyword hinTag⟩
          | false =>
              obtain ⟨⟨children, behind⟩, hchildren, h⟩ := bind_ok h
              cases h
              rw [Element.expressions, List.forall_mem_append] at haccepted
              obtain ⟨inTag, ending, rfl, hinTag, hending⟩ :=
                areAttributes_of_read hattributes haccepted.1
              obtain ⟨between, less', slash', greater', rfl, hbetween⟩ :=
                areChildren_of_read fuel hchildren haccepted.2
              cases hending with
              | opened greater =>
                  exact ⟨_, by simp,
                    .paired less greater less' slash' greater' hkeyword hinTag hbetween⟩
      · cases h

theorem areChildren_of_read : (fuel : Nat) → {tag : Ident} → {tokens rest : List Token} →
    {children : List (Child ε)} →
    Reading.children read fuel tag tokens = .ok (children, rest) →
    (∀ x ∈ Child.expressionsAll children, accepted x) →
    ∃ between less slash greater,
      tokens = between ++ .punct '<' less :: .punct '/' slash :: .ident tag ::
        .punct '>' greater :: rest ∧
      AreChildren (Found read accepted) children between
  | 0, _, _, _, _, h, _ => by cases h
  | fuel + 1, tag, tokens, rest, children, h, haccepted => by
      unfold Reading.children at h
      split at h
      · cases h
      · next less slash behind hfuel =>
          obtain ⟨rest', hclosing, h⟩ := bind_ok h
          cases h
          obtain ⟨greater, rfl⟩ := closing_ok hclosing
          exact ⟨[], less, slash, greater, rfl, .nil⟩
      · next less behind _ hfuel =>
          cases hfuel
          obtain ⟨⟨first, behind⟩, hfirst, h⟩ := bind_ok h
          obtain ⟨⟨later, behind'⟩, hlater, h⟩ := bind_ok h
          cases h
          rw [Child.expressionsAll, Child.expressions, List.forall_mem_append] at haccepted
          obtain ⟨front, hfront, helement⟩ := isElement_of_read fuel hfirst haccepted.1
          obtain ⟨between, less, slash, greater, rfl, hbetween⟩ :=
            areChildren_of_read fuel hlater haccepted.2
          exact ⟨front ++ between, less, slash, greater, by rw [hfront, List.append_assoc],
            .cons (.element helement) hbetween⟩
      · next literal behind hfuel =>
          cases hfuel
          split at h
          · cases h
          · next text htext =>
              obtain ⟨⟨later, behind'⟩, hlater, h⟩ := bind_ok h
              cases h
              rw [Child.expressionsAll, Child.expressions, List.nil_append] at haccepted
              obtain ⟨between, less, slash, greater, rfl, hbetween⟩ :=
                areChildren_of_read fuel hlater haccepted
              exact ⟨_, less, slash, greater, by rw [literal_of_string? htext]; rfl,
                .cons (.text text) hbetween⟩
      · next content behind hfuel =>
          cases hfuel
          obtain ⟨first, hfirst, h⟩ := bind_ok h
          obtain ⟨⟨later, behind'⟩, hlater, h⟩ := bind_ok h
          cases h
          rw [Child.expressionsAll, Child.expressions, List.forall_mem_append,
            List.forall_mem_singleton] at haccepted
          obtain ⟨between, less, slash, greater, rfl, hbetween⟩ :=
            areChildren_of_read fuel hlater haccepted.2
          exact ⟨_, less, slash, greater, rfl,
            .cons (.expression ⟨hfirst, haccepted.1⟩) hbetween⟩
      · cases h

end

theorem areElements_of_read : (fuel : Nat) → {tokens : List Token} →
    {elements : List (Element ε)} → Reading.elements read fuel tokens = .ok elements →
    (∀ x ∈ elements.flatMap Element.expressions, accepted x) →
    AreElements (Found read accepted) elements tokens
  | fuel, [], elements, h, _ => by
      rw [Reading.elements] at h
      cases h
      exact .nil
  | 0, _ :: _, _, h, _ => by cases h
  | fuel + 1, token :: tokens, elements, h, haccepted => by
      rw [Reading.elements] at h
      obtain ⟨⟨first, rest⟩, hfirst, h⟩ := bind_ok h
      obtain ⟨later, hlater, h⟩ := bind_ok h
      cases h
      rw [List.flatMap_cons, List.forall_mem_append] at haccepted
      obtain ⟨front, hfront, hfirst⟩ := isElement_of_read _ hfirst haccepted.1
      rw [hfront]
      exact .cons hfirst (areElements_of_read fuel hlater haccepted.2)

/-! ## What is in the grammar is read -/

/-- What follows attributes does not begin with an equals sign, which would belong to
the last one of them. -/
theorem AreAttributes.ne_equals {attributes : List (Attribute ε)} {inTag ending : List Token}
    {closed : Bool} (h : AreAttributes (Found read accepted) attributes inTag)
    (hending : EndsTag closed ending) (rest : List Token) (spacing : Spacing)
    (more : List Token) : inTag ++ (ending ++ rest) ≠ .punct '=' spacing :: more := by
  cases h with
  | nil => cases hending <;> simp
  | cons ha _ => cases ha <;> simp

/-- One attribute is read off the front, if no equals sign is left behind it. -/
theorem attributes_cons {a : Attribute ε} {tokens : List Token}
    (h : IsAttribute (Found read accepted) a tokens) {rest : List Token}
    (hrest : ∀ spacing more, rest ≠ .punct '=' spacing :: more) :
    Reading.attributes read (tokens ++ rest) =
      Reading.attributes.withAttribute a (Reading.attributes read rest) := by
  cases h with
  | flag name =>
      rw [List.singleton_append, Reading.attributes.eq_8]
      all_goals exact fun _ => by simp [hrest]
  | text name equals literal =>
      simp only [List.cons_append, List.nil_append, StringLiteral.token]
      rw [Reading.attributes.eq_4]
      rfl
  | truth name equals value =>
      simp only [List.cons_append, List.nil_append, Token.word]
      rw [Reading.attributes.eq_5]
      cases value <;> rfl
  | expression name equals he =>
      simp only [List.cons_append, List.nil_append]
      rw [Reading.attributes.eq_6, he.1]

theorem attributes_read {attributes : List (Attribute ε)} {inTag ending : List Token}
    {closed : Bool} (h : AreAttributes (Found read accepted) attributes inTag)
    (hending : EndsTag closed ending) (rest : List Token) :
    Reading.attributes read (inTag ++ (ending ++ rest)) = .ok ((attributes, closed), rest) := by
  induction h with
  | nil => cases hending <;> rfl
  | cons ha hlater ih =>
      rw [List.append_assoc, attributes_cons ha (hlater.ne_equals hending rest), ih]
      rfl

theorem ident_read {i : Ident} (h : i.isKeyword = false) (rest : List Token) :
    Reading.ident (.ident i :: rest) = .ok (i, rest) := by
  rw [Reading.ident, h]
  rfl

theorem closing_read {opened : Ident} (h : opened.isKeyword = false) (greater : Spacing)
    (rest : List Token) :
    Reading.closing opened (.ident opened :: .punct '>' greater :: rest) = .ok rest := by
  rw [Reading.closing, ident_read h]
  simp

theorem IsElement.length_pos {reads : List Token → ε → Prop} {e : Element ε}
    {tokens : List Token} (h : IsElement reads e tokens) : 0 < tokens.length := by
  cases h <;> exact Nat.succ_pos _

theorem IsElement.begins {reads : List Token → ε → Prop} {e : Element ε}
    {tokens : List Token} (h : IsElement reads e tokens) :
    ∃ less tag more, tokens = .punct '<' less :: .ident tag :: more := by
  cases h <;> exact ⟨_, _, _, rfl⟩

mutual

/-- An element is read off the front of what follows it. Fuel for its tokens is
enough. -/
theorem element_read : (fuel : Nat) → {e : Element ε} → {tokens : List Token} →
    IsElement (Found read accepted) e tokens → tokens.length ≤ fuel → (rest : List Token) →
    Reading.element read fuel (tokens ++ rest) = .ok (e, rest)
  | 0, _, _, h, hfuel, _ => absurd hfuel (Nat.not_le.mpr h.length_pos)
  | fuel + 1, _, _, .selfClosing less slash greater htag hattributes, hfuel, rest => by
      have hinside := attributes_read hattributes (.closed slash greater) rest
      rw [List.cons_append, List.cons_append, Reading.element, ident_read htag,
        List.append_assoc]
      simp only [bind, Except.bind]
      rw [hinside]
      rfl
  | fuel + 1, _, _, .paired less greater less' slash' greater' htag hattributes hchildren,
      hfuel, rest => by
      have hinside := attributes_read hattributes (.opened greater)
      have hbetween := children_read fuel htag hchildren
        (by simp only [List.length_cons, List.length_append] at hfuel; omega)
        less' slash' greater' rest
      rw [List.cons_append, List.cons_append, Reading.element, ident_read htag,
        List.append_assoc, List.cons_append, List.append_assoc]
      simp only [bind, Except.bind]
      rw [← List.singleton_append, hinside]
      simp only [Bool.false_eq_true, if_false, List.cons_append, List.nil_append]
      rw [hbetween]
      rfl

theorem children_read : (fuel : Nat) → {tag : Ident} → {children : List (Child ε)} →
    {between : List Token} → tag.isKeyword = false →
    AreChildren (Found read accepted) children between → between.length < fuel →
    (less slash greater : Spacing) → (rest : List Token) →
    Reading.children read fuel tag (between ++ .punct '<' less :: .punct '/' slash ::
      .ident tag :: .punct '>' greater :: rest) = .ok (children, rest)
  | 0, _, _, _, _, _, hfuel, _, _, _, _ => absurd hfuel (Nat.not_lt_zero _)
  | fuel + 1, tag, _, _, htag, .nil, hfuel, less, slash, greater, rest => by
      rw [List.nil_append, Reading.children, closing_read htag]
      rfl
  | fuel + 1, tag, _, _, htag, .cons (.element he) hlater, hfuel, less, slash, greater,
      rest => by
      rw [List.length_append] at hfuel
      have hpos := he.length_pos
      have hfirst := element_read fuel he (by omega)
      have hbehind := children_read fuel htag hlater (by omega) less slash greater rest
      obtain ⟨less', tag', more, rfl⟩ := he.begins
      simp only [List.append_assoc, List.cons_append] at hfirst ⊢
      rw [Reading.children.eq_3 _ _ _ _ _ (fun _ _ h => by cases h), hfirst]
      simp only [bind, Except.bind]
      rw [hbehind]
      rfl
  | fuel + 1, tag, _, _, htag, .cons (.text literal) hlater, hfuel, less, slash, greater,
      rest => by
      have hbehind := children_read fuel htag hlater (Nat.lt_of_succ_lt_succ hfuel)
        less slash greater rest
      rw [List.append_assoc, List.singleton_append, StringLiteral.token, Reading.children]
      simp only [Literal.string?, bind, Except.bind]
      rw [hbehind]
      rfl
  | fuel + 1, tag, _, _, htag, .cons (.expression he) hlater, hfuel, less, slash, greater,
      rest => by
      have hbehind := children_read fuel htag hlater (Nat.lt_of_succ_lt_succ hfuel)
        less slash greater rest
      rw [List.append_assoc, List.singleton_append, Reading.children, he.1]
      simp only [bind, Except.bind]
      rw [hbehind]
      rfl

end

theorem elements_read {elements : List (Element ε)} {tokens : List Token}
    (h : AreElements (Found read accepted) elements tokens) {fuel : Nat}
    (hfuel : tokens.length ≤ fuel) : Reading.elements read fuel tokens = .ok elements := by
  induction h generalizing fuel with
  | nil => rw [Reading.elements]
  | @cons e elements front later he _ ih =>
      obtain ⟨less, tag, more, rfl⟩ := he.begins
      rw [List.length_append] at hfuel
      cases fuel with
      | zero => simp at hfuel
      | succ fuel =>
          simp only [List.length_cons] at hfuel
          have hfirst := element_read ((.ident tag :: more ++ later).length + 2) he
            (by simp; omega) later
          simp only [List.cons_append] at hfirst ⊢
          rw [Reading.elements, hfirst]
          simp only [bind, Except.bind]
          rw [ih (by omega)]
          rfl

theorem AreAttributes.forall_accepted {attributes : List (Attribute ε)} {inTag : List Token}
    (h : AreAttributes (Found read accepted) attributes inTag) :
    ∀ e ∈ attributes.filterMap Attribute.expression?, accepted e := by
  induction h with
  | nil => exact fun _ he => by cases he
  | cons ha _ ih =>
      cases ha with
      | flag | text | truth => exact ih
      | expression name equals he => exact List.forall_mem_cons.mpr ⟨he.2, ih⟩

mutual

theorem IsElement.forall_accepted : {e : Element ε} → {tokens : List Token} →
    IsElement (Found read accepted) e tokens → ∀ x ∈ e.expressions, accepted x
  | _, _, .selfClosing _ _ _ _ hattributes => by
      rw [Element.expressions, Child.expressionsAll, List.append_nil]
      exact hattributes.forall_accepted
  | _, _, .paired _ _ _ _ _ _ hattributes hchildren => by
      rw [Element.expressions, List.forall_mem_append]
      exact ⟨hattributes.forall_accepted, hchildren.forall_accepted⟩

theorem AreChildren.forall_accepted : {children : List (Child ε)} → {tokens : List Token} →
    AreChildren (Found read accepted) children tokens →
    ∀ x ∈ Child.expressionsAll children, accepted x
  | _, _, .nil => fun _ h => by cases h
  | _, _, .cons (.element he) hlater => by
      rw [Child.expressionsAll, Child.expressions, List.forall_mem_append]
      exact ⟨he.forall_accepted, hlater.forall_accepted⟩
  | _, _, .cons (.text _) hlater => by
      rw [Child.expressionsAll, Child.expressions]
      exact hlater.forall_accepted
  | _, _, .cons (.expression he) hlater => by
      rw [Child.expressionsAll, Child.expressions, List.forall_mem_append]
      exact ⟨List.forall_mem_singleton.mpr he.2, hlater.forall_accepted⟩

end

theorem AreElements.forall_accepted {elements : List (Element ε)} {tokens : List Token}
    (h : AreElements (Found read accepted) elements tokens) :
    ∀ x ∈ elements.flatMap Element.expressions, accepted x := by
  induction h with
  | nil => exact fun _ hx => by cases hx
  | cons he _ ih =>
      rw [List.flatMap_cons, List.forall_mem_append]
      exact ⟨he.forall_accepted, ih⟩

/-! ## The spacing of punctuation -/

/-- Tokens that differ in the spacing of punctuation only. -/
inductive Respaced : List Token → List Token → Prop where
  | nil : Respaced [] []
  | cons (token : Token) {tokens tokens' : List Token} (h : Respaced tokens tokens') :
      Respaced (token :: tokens) (token :: tokens')
  | punct (symbol : Char) (spacing spacing' : Spacing) {tokens tokens' : List Token}
      (h : Respaced tokens tokens') :
      Respaced (.punct symbol spacing :: tokens) (.punct symbol spacing' :: tokens')

theorem Respaced.symm {tokens tokens' : List Token} (h : Respaced tokens tokens') :
    Respaced tokens' tokens := by
  induction h with
  | nil => exact .nil
  | cons token _ ih => exact .cons token ih
  | punct symbol spacing spacing' _ ih => exact .punct symbol spacing' spacing ih

theorem Respaced.of_append {front back : List Token} :
    {tokens : List Token} → Respaced (front ++ back) tokens →
      ∃ front' back', tokens = front' ++ back' ∧ Respaced front front' ∧ Respaced back back' := by
  induction front with
  | nil => exact fun h => ⟨[], _, rfl, .nil, h⟩
  | cons token front ih =>
      intro tokens h
      cases h with
      | cons _ h =>
          obtain ⟨front', back', rfl, hfront, hback⟩ := ih h
          exact ⟨_, back', rfl, .cons token hfront, hback⟩
      | punct symbol spacing spacing' h =>
          obtain ⟨front', back', rfl, hfront, hback⟩ := ih h
          exact ⟨_, back', rfl, .punct symbol spacing spacing' hfront, hback⟩

theorem Respaced.of_punct {symbol : Char} {spacing : Spacing} {behind tokens : List Token}
    (h : Respaced (.punct symbol spacing :: behind) tokens) :
    ∃ spacing' behind', tokens = .punct symbol spacing' :: behind' ∧ Respaced behind behind' := by
  cases h with
  | cons _ h => exact ⟨spacing, _, rfl, h⟩
  | punct _ _ spacing' h => exact ⟨spacing', _, rfl, h⟩

theorem Respaced.of_cons {token : Token}
    (htoken : ∀ symbol spacing, token ≠ .punct symbol spacing) {behind tokens : List Token}
    (h : Respaced (token :: behind) tokens) :
    ∃ behind', tokens = token :: behind' ∧ Respaced behind behind' := by
  cases h with
  | cons _ h => exact ⟨_, rfl, h⟩
  | punct symbol spacing => exact absurd rfl (htoken symbol spacing)

variable {reads : List Token → ε → Prop}

theorem IsAttribute.respaced {a : Attribute ε} {tokens tokens' : List Token}
    (h : IsAttribute reads a tokens) (hs : Respaced tokens tokens') :
    IsAttribute reads a tokens' := by
  cases h with
  | flag name =>
      obtain ⟨_, rfl, ⟨⟩⟩ := hs.of_cons (by nofun)
      exact .flag name
  | text name equals literal =>
      obtain ⟨_, rfl, hs₁⟩ := hs.of_cons (by nofun)
      obtain ⟨equals', _, rfl, hs₂⟩ := hs₁.of_punct
      obtain ⟨_, rfl, ⟨⟩⟩ := hs₂.of_cons (by nofun)
      exact .text name equals' literal
  | truth name equals value =>
      obtain ⟨_, rfl, hs₁⟩ := hs.of_cons (by nofun)
      obtain ⟨equals', _, rfl, hs₂⟩ := hs₁.of_punct
      obtain ⟨_, rfl, ⟨⟩⟩ := hs₂.of_cons (by nofun)
      exact .truth name equals' value
  | expression name equals he =>
      obtain ⟨_, rfl, hs₁⟩ := hs.of_cons (by nofun)
      obtain ⟨equals', _, rfl, hs₂⟩ := hs₁.of_punct
      obtain ⟨_, rfl, ⟨⟩⟩ := hs₂.of_cons (by nofun)
      exact .expression name equals' he

theorem AreAttributes.respaced {attributes : List (Attribute ε)} {tokens tokens' : List Token}
    (h : AreAttributes reads attributes tokens) (hs : Respaced tokens tokens') :
    AreAttributes reads attributes tokens' := by
  induction h generalizing tokens' with
  | nil =>
      cases hs
      exact .nil
  | cons ha _ ih =>
      obtain ⟨front, back, rfl, hfront, hback⟩ := hs.of_append
      exact .cons (ha.respaced hfront) (ih hback)

mutual

theorem IsElement.respaced : {e : Element ε} → {tokens tokens' : List Token} →
    IsElement reads e tokens → Respaced tokens tokens' → IsElement reads e tokens'
  | _, _, _, .selfClosing less slash greater htag hattributes, hs => by
      obtain ⟨less', _, rfl, hs₁⟩ := hs.of_punct
      obtain ⟨_, rfl, hs₂⟩ := hs₁.of_cons (by nofun)
      obtain ⟨inTag, ending, rfl, hinTag, hs₃⟩ := hs₂.of_append
      obtain ⟨slash', _, rfl, hs₄⟩ := hs₃.of_punct
      obtain ⟨greater', _, rfl, ⟨⟩⟩ := hs₄.of_punct
      exact .selfClosing less' slash' greater' htag (hattributes.respaced hinTag)
  | _, _, _, .paired less greater less₂ slash₂ greater₂ htag hattributes hchildren, hs => by
      obtain ⟨less', _, rfl, hs₁⟩ := hs.of_punct
      obtain ⟨_, rfl, hs₂⟩ := hs₁.of_cons (by nofun)
      obtain ⟨inTag, _, rfl, hinTag, hs₃⟩ := hs₂.of_append
      obtain ⟨greater', _, rfl, hs₄⟩ := hs₃.of_punct
      obtain ⟨between, _, rfl, hbetween, hs₅⟩ := hs₄.of_append
      obtain ⟨less₂', _, rfl, hs₆⟩ := hs₅.of_punct
      obtain ⟨slash₂', _, rfl, hs₇⟩ := hs₆.of_punct
      obtain ⟨_, rfl, hs₈⟩ := hs₇.of_cons (by nofun)
      obtain ⟨greater₂', _, rfl, ⟨⟩⟩ := hs₈.of_punct
      exact .paired less' greater' less₂' slash₂' greater₂' htag (hattributes.respaced hinTag)
        (hchildren.respaced hbetween)

theorem AreChildren.respaced : {children : List (Child ε)} → {tokens tokens' : List Token} →
    AreChildren reads children tokens → Respaced tokens tokens' →
    AreChildren reads children tokens'
  | _, _, _, .nil, .nil => .nil
  | _, _, _, .cons (.element he) hlater, hs => by
      obtain ⟨front, back, rfl, hfront, hback⟩ := hs.of_append
      exact .cons (.element (he.respaced hfront)) (hlater.respaced hback)
  | _, _, _, .cons (.text literal) hlater, hs => by
      obtain ⟨_, rfl, hs₁⟩ := hs.of_cons (by nofun)
      exact .cons (.text literal) (hlater.respaced hs₁)
  | _, _, _, .cons (.expression he) hlater, hs => by
      obtain ⟨_, rfl, hs₁⟩ := hs.of_cons (by nofun)
      exact .cons (.expression he) (hlater.respaced hs₁)

end

theorem AreElements.respaced {elements : List (Element ε)} {tokens tokens' : List Token}
    (h : AreElements reads elements tokens) (hs : Respaced tokens tokens') :
    AreElements reads elements tokens' := by
  induction h generalizing tokens' with
  | nil =>
      cases hs
      exact .nil
  | cons he _ ih =>
      obtain ⟨front, back, rfl, hfront, hback⟩ := hs.of_append
      exact .cons (he.respaced hfront) (ih hback)

/-! ## Reading is the grammar -/

theorem AreElements.append {es es' : List (Element ε)}
    {tokens tokens' : List Token} (h : AreElements reads es tokens)
    (h' : AreElements reads es' tokens') :
    AreElements reads (es ++ es') (tokens ++ tokens') := by
  induction h with
  | nil => exact h'
  | cons he _ ih =>
      rw [List.cons_append, List.append_assoc]
      exact .cons he ih

/-- An element of the grammar is no proper beginning of another one. -/
theorem IsElement.eq_nil_of_append {e e' : Element ε} {tokens rest : List Token}
    (h : IsElement (Found read accepted) e tokens)
    (h' : IsElement (Found read accepted) e' (tokens ++ rest)) : rest = [] ∧ e' = e := by
  have hshort := element_read (tokens ++ rest).length h (by simp) rest
  have hlong := element_read (tokens ++ rest).length h' (Nat.le_refl _) []
  rw [List.append_nil, hshort] at hlong
  cases hlong
  exact ⟨rfl, rfl⟩

theorem checkExcess_eq_ok_iff {elements : List (Element Expression)} :
    checkExcess elements = .ok () ↔
      ∀ e ∈ elements.flatMap Element.expressions, e.excess = none := by
  rw [← List.findSome?_eq_none_iff]
  simp only [checkExcess]
  cases (elements.flatMap Element.expressions).findSome? Expression.excess <;> simp

/-- Tokens are read as elements just when the grammar says so. -/
theorem readTokens_eq_ok_iff {tokens : List Token} {elements : List (Element Expression)} :
    readTokens tokens = .ok elements ↔ AreElements IsExpression elements tokens := by
  constructor
  · intro h
    obtain ⟨elements', hread, h⟩ := bind_ok h
    obtain ⟨⟨⟩, hcheck, h⟩ := bind_ok h
    cases h
    exact areElements_of_read _ hread (checkExcess_eq_ok_iff.mp hcheck)
  · intro h
    have hread := elements_read h (Nat.le_refl _)
    have hcheck := checkExcess_eq_ok_iff.mpr h.forall_accepted
    rw [readTokens, hread]
    simp only [bind, Except.bind]
    rw [hcheck]
    rfl

/-- Tokens are read just when they are elements of the grammar, one behind the other,
and what is read are these elements; the tokens are no other elements. No element of
the grammar begins with a shorter one, so tokens that are put behind each other are
read as the elements of both. The spacing of punctuation makes no difference. -/
theorem readTokens_grammar (tokens : List Token) :
    (∀ elements, readTokens tokens = .ok elements ↔
      AreElements IsExpression elements tokens) ∧
    (∀ elements elements', AreElements IsExpression elements tokens →
      AreElements IsExpression elements' tokens → elements' = elements) ∧
    (∀ e e' rest, IsElement IsExpression e tokens →
      IsElement IsExpression e' (tokens ++ rest) → rest = [] ∧ e' = e) ∧
    (∀ tokens' elements elements', readTokens tokens = .ok elements →
      readTokens tokens' = .ok elements' →
      readTokens (tokens ++ tokens') = .ok (elements ++ elements')) ∧
    ∀ tokens', Respaced tokens tokens' →
      ∀ elements, readTokens tokens = .ok elements ↔ readTokens tokens' = .ok elements := by
  refine ⟨fun _ => readTokens_eq_ok_iff, ?_, fun _ _ _ => IsElement.eq_nil_of_append, ?_, ?_⟩
  · intro elements elements' h h'
    have hread := readTokens_eq_ok_iff.mpr h
    rw [readTokens_eq_ok_iff.mpr h'] at hread
    exact Except.ok.inj hread
  · intro tokens' elements elements' h h'
    rw [readTokens_eq_ok_iff] at h h' ⊢
    exact h.append h'
  · intro tokens' hs elements
    rw [readTokens_eq_ok_iff, readTokens_eq_ok_iff]
    exact ⟨fun h => h.respaced hs, fun h => h.respaced hs.symm⟩

/-- A label with an expression in it, and behind it an element that closes itself. -/
theorem readTokens_grammar_append :
    let label : List Token :=
      [.punct '<' .alone, .word "Label", .word "for", .punct '=' .alone,
        .literal ⟨"\"a\"", .string "a"⟩, .punct '>' .alone, .group .brace [.word "x"],
        .punct '<' .joint, .punct '/' .alone, .word "Label", .punct '>' .alone]
    let radio : List Token :=
      [.punct '<' .alone, .word "Radio", .word "checked", .punct '/' .joint,
        .punct '>' .alone]
    readTokens (label ++ radio) = .ok
      [.mk (.plain "Label") [⟨.plain "for", .text ⟨"\"a\"", "a"⟩⟩]
          [.expression ⟨[.word "x"], none⟩] false,
        .mk (.plain "Radio") [⟨.plain "checked", .flag⟩] [] true] :=
  (readTokens_grammar _).2.2.2.1 _ [_] [_] (by cbv) (by cbv)

end Grammar

end HtmlComponents.View
