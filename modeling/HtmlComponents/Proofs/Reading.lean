import HtmlComponents.Proofs.NormalForm

/-!
# Reading HTML back

The HTML of a tree loses nothing but what its normal form leaves out. The proof is
a reader. It cuts the HTML into tokens from the left, and puts the tokens together
from the right, where a closing tag is met before what it closes.

Cutting never has to look far, and that is what the rules on names and the two
escapes are for. After an angle bracket a name runs until a character that no name
has. After the name there is a space for each attribute, and the space of a void
element's end is told apart by the slash, with which no attribute begins. A value
ends at its first quote, a text at the first angle bracket, and an ampersand
always begins an escape. Whether an element has a closing tag is not written, and
need not be: the reader knows the void elements as the writer does.

`lex_htmlAll` says that cutting finds the tokens of the shapes that were written, and
`build_tokensAll` that they go together to their normal form.
-/

namespace HtmlComponents.Markup

open HtmlComponents.Text

/-! ## Tokens -/

/-- What HTML is cut into. A text is cut into its characters. -/
inductive Token where
  | char (c : Char)
  | opening (e : ElementData)
  | closing (tag : String)

namespace Shape

mutual

/-- The tokens of a shape that is written out. -/
def tokens : Shape → List Token
  | node .document children => tokensAll children
  | node (.text content) _ => content.toList.map .char
  | node (.element e) children =>
    if isVoid e.tag then [.opening e]
    else .opening e :: tokensAll children ++ [.closing e.tag]

def tokensAll : List Shape → List Token
  | [] => []
  | shape :: shapes => shape.tokens ++ tokensAll shapes

end

end Shape

/-! ## Cutting -/

/-- A character and what follows it, read as an escape if it begins one. -/
def unescape (c : Char) (rest : List Char) : Char × List Char :=
  if c = '&' then
    match rest with
    | 'a' :: 'm' :: 'p' :: ';' :: rest => ('&', rest)
    | 'l' :: 't' :: ';' :: rest => ('<', rest)
    | 'g' :: 't' :: ';' :: rest => ('>', rest)
    | 'q' :: 'u' :: 'o' :: 't' :: ';' :: rest => ('"', rest)
    | rest => (c, rest)
  else (c, rest)

theorem length_unescape (c : Char) (rest : List Char) :
    (unescape c rest).2.length ≤ rest.length := by
  unfold unescape
  split
  · split <;> simp only [List.length_cons] <;> omega
  · exact Nat.le_refl _

/-- The value of an attribute, from behind its first quote to its second one. -/
def readValue : List Char → Option (List Char × List Char)
  | [] => none
  | c :: rest =>
    if c = '"' then some ([], rest)
    else
      (readValue (unescape c rest).2).map fun (value, after) =>
        ((unescape c rest).1 :: value, after)
termination_by input => input.length
decreasing_by exact Nat.lt_succ_of_le (length_unescape c rest)

theorem length_readValue {input value after : List Char}
    (h : readValue input = some (value, after)) : after.length ≤ input.length := by
  fun_induction readValue input generalizing value after with
  | case1 => cases h
  | case2 rest =>
      cases h
      simp
  | case3 c rest _ ih =>
      obtain ⟨⟨value', after'⟩, hread, heq⟩ := Option.map_eq_some_iff.mp h
      cases heq
      have hle := ih hread
      have hrest := length_unescape c rest
      simp only [List.length_cons]
      omega

/-- The name that begins a text, and what follows it. -/
def readName (input : List Char) : String × List Char :=
  (String.ofList (input.takeWhile fun c => !endsName c),
    input.dropWhile fun c => !endsName c)

theorem length_readName (input : List Char) : (readName input).2.length ≤ input.length :=
  (List.dropWhile_sublist _).length_le

/-- An attribute, from the first character of its name. -/
def readAttribute (input : List Char) : Option (Attribute × List Char) :=
  match (readName input).2 with
  | '=' :: '"' :: rest =>
    (readValue rest).map fun (value, after) =>
      (⟨(readName input).1, some (String.ofList value)⟩, after)
  | rest => some (⟨(readName input).1, none⟩, rest)

theorem length_readAttribute {input after : List Char} {a : Attribute}
    (h : readAttribute input = some (a, after)) : after.length ≤ input.length := by
  have hname := length_readName input
  unfold readAttribute at h
  split at h
  · next rest hrest =>
      obtain ⟨⟨value, after'⟩, hread, heq⟩ := Option.map_eq_some_iff.mp h
      cases heq
      have hle := length_readValue hread
      rw [hrest] at hname
      simp only [List.length_cons] at hname
      omega
  · cases h
    exact hname

/-- The attributes of a start tag, from behind the tag's name to the end of the
start tag. -/
def readAttributes : List Char → Option (List Attribute × List Char)
  | '>' :: rest => some ([], rest)
  | ' ' :: '/' :: '>' :: rest => some ([], rest)
  | ' ' :: rest =>
    match _ : readAttribute rest with
    | none => none
    | some (a, after) =>
      (readAttributes after).map fun (attributes, after) => (a :: attributes, after)
  | _ => none
termination_by input => input.length
decreasing_by exact Nat.lt_succ_of_le (length_readAttribute ‹_›)

theorem length_readAttributes {input after : List Char} {attributes : List Attribute}
    (h : readAttributes input = some (attributes, after)) : after.length ≤ input.length := by
  fun_induction readAttributes input generalizing attributes after with
  | case1 rest =>
      cases h
      simp
  | case2 rest =>
      cases h
      simp only [List.length_cons]
      omega
  | case3 => cases h
  | case4 rest _ a next hread ih =>
      obtain ⟨⟨attributes', after'⟩, hrest, heq⟩ := Option.map_eq_some_iff.mp h
      cases heq
      have hle := ih hrest
      have hnext := length_readAttribute hread
      simp only [List.length_cons]
      omega
  | case5 => cases h

/-- A tag, from behind its angle bracket. -/
def readTag : List Char → Option (Token × List Char)
  | '/' :: rest =>
    match (readName rest).2 with
    | '>' :: after => some (.closing (readName rest).1, after)
    | _ => none
  | rest =>
    (readAttributes (readName rest).2).map fun (attributes, after) =>
      (.opening ⟨(readName rest).1, attributes⟩, after)

theorem length_readTag {input after : List Char} {token : Token}
    (h : readTag input = some (token, after)) : after.length ≤ input.length := by
  unfold readTag at h
  split at h
  · next rest =>
      have hname := length_readName rest
      split at h
      · next hrest =>
          cases h
          rw [hrest] at hname
          simp only [List.length_cons] at hname ⊢
          omega
      · cases h
  · next rest _ =>
      have hname := length_readName input
      obtain ⟨⟨attributes, after'⟩, hread, heq⟩ := Option.map_eq_some_iff.mp h
      cases heq
      exact Nat.le_trans (length_readAttributes hread) hname

/-- The first token of a text that begins with the character. -/
def readToken (c : Char) (rest : List Char) : Option (Token × List Char) :=
  if c = '<' then readTag rest
  else some (.char (unescape c rest).1, (unescape c rest).2)

theorem length_readToken {c : Char} {rest after : List Char} {token : Token}
    (h : readToken c rest = some (token, after)) : after.length ≤ rest.length := by
  unfold readToken at h
  split at h
  · exact length_readTag h
  · cases h
    exact length_unescape c rest

/-- All tokens of a text. -/
def lex : List Char → Option (List Token)
  | [] => some []
  | c :: rest =>
    match _ : readToken c rest with
    | none => none
    | some (token, after) => (lex after).map (token :: ·)
termination_by input => input.length
decreasing_by exact Nat.lt_succ_of_le (length_readToken ‹_›)

/-! ### What was written is found

From the characters up: an escaped character, a value, a name, an attribute, the
attributes of a start tag, a tag, a shape. Each lemma has the text that follows in
its statement, and so it can be used in the middle of a text. -/

/-- An escaped character of a text does not begin a tag, and is read back. -/
theorem exists_escapeTextChar (c : Char) :
    ∃ d tail, escapeTextChar c = d :: tail ∧ d ≠ '<' ∧
      ∀ rest, unescape d (tail ++ rest) = (c, rest) := by
  unfold escapeTextChar
  split
  · exact ⟨'&', ['a', 'm', 'p', ';'], rfl, by decide, fun _ => rfl⟩
  · exact ⟨'&', ['l', 't', ';'], rfl, by decide, fun _ => rfl⟩
  · exact ⟨'&', ['g', 't', ';'], rfl, by decide, fun _ => rfl⟩
  · next hamp hlt _ => exact ⟨c, [], rfl, hlt, fun rest => if_neg hamp⟩

/-- An escaped character of a value does not end the value, and is read back. -/
theorem exists_escapeValueChar (c : Char) :
    ∃ d tail, escapeValueChar c = d :: tail ∧ d ≠ '"' ∧
      ∀ rest, unescape d (tail ++ rest) = (c, rest) := by
  unfold escapeValueChar
  split
  · exact ⟨'&', ['q', 'u', 'o', 't', ';'], rfl, by decide, fun _ => rfl⟩
  · next hquote =>
      unfold escapeTextChar
      split
      · exact ⟨'&', ['a', 'm', 'p', ';'], rfl, by decide, fun _ => rfl⟩
      · exact ⟨'&', ['l', 't', ';'], rfl, by decide, fun _ => rfl⟩
      · exact ⟨'&', ['g', 't', ';'], rfl, by decide, fun _ => rfl⟩
      · next hamp _ _ => exact ⟨c, [], rfl, hquote, fun rest => if_neg hamp⟩

theorem readValue_escape (value rest : List Char) :
    readValue (value.flatMap escapeValueChar ++ '"' :: rest) = some (value, rest) := by
  induction value with
  | nil =>
      rw [List.flatMap_nil, List.nil_append, readValue, if_pos rfl]
  | cons c value ih =>
      obtain ⟨d, tail, hescape, hquote, hread⟩ := exists_escapeValueChar c
      rw [List.flatMap_cons, hescape, List.cons_append, List.cons_append, List.append_assoc,
        readValue, if_neg hquote, hread, ih]
      rfl

theorem endsName_of_isName {name : String} (h : isName name = true) :
    name.toList ≠ [] ∧ ∀ c ∈ name.toList, endsName c = false := by
  simp only [isName, Bool.and_eq_true, Bool.not_eq_eq_eq_not, Bool.not_true,
    List.any_eq_false, List.isEmpty_eq_false_iff] at h
  exact ⟨h.1, fun c hc => by simpa using h.2 c hc⟩

theorem readName_append {name : String} (h : isName name = true) {c : Char}
    (hc : endsName c = true) (rest : List Char) :
    readName (name.toList ++ c :: rest) = (name, c :: rest) := by
  have hchars : ∀ d ∈ name.toList, (!endsName d) = true := fun d hd => by
    rw [(endsName_of_isName h).2 d hd]
    rfl
  rw [readName, List.takeWhile_append_of_pos hchars, List.dropWhile_append_of_pos hchars]
  simp [hc, String.ofList_toList]

/-- What may follow an attribute: the space of the next one or of a void element's
end, or the end itself. -/
def FollowsAttribute (c : Char) : Prop := c = ' ' ∨ c = '>'

theorem FollowsAttribute.endsName {c : Char} (h : FollowsAttribute c) :
    endsName c = true := by
  rcases h with rfl | rfl <;> decide

theorem readAttribute_html {a : Attribute} (ha : isName a.name = true) {c : Char}
    (hc : FollowsAttribute c) (rest : List Char) :
    ∃ text, a.html = ' ' :: text ∧
      readAttribute (text ++ c :: rest) = some (a, c :: rest) := by
  obtain ⟨name, value⟩ := a
  cases value with
  | none =>
      refine ⟨name.toList, by simp [Attribute.html], ?_⟩
      have hread := readName_append ha hc.endsName rest
      rw [readAttribute, hread]
      rcases hc with rfl | rfl <;> rfl
  | some value =>
      refine ⟨name.toList ++ '=' :: '"' :: (escapeValue value ++ ['"']),
        by simp [Attribute.html], ?_⟩
      have hread := readName_append ha (show endsName '=' = true by decide)
        ('"' :: (escapeValue value ++ '"' :: c :: rest))
      have hsplit : name.toList ++ '=' :: '"' :: (escapeValue value ++ ['"']) ++ c :: rest =
          name.toList ++ '=' :: '"' :: (escapeValue value ++ '"' :: c :: rest) := by simp
      rw [hsplit, readAttribute, hread]
      simp only []
      rw [escapeValue, readValue_escape]
      simp [String.ofList_toList]

/-- The ways in which a start tag ends. -/
def EndsTag (ending : List Char) : Prop := ending = ['>'] ∨ ending = [' ', '/', '>']

theorem VoidStyle.endsTag_terminator (style : VoidStyle) : EndsTag style.terminator := by
  cases style
  · exact .inr rfl
  · exact .inl rfl

theorem readAttributes_ending {ending : List Char} (h : EndsTag ending) (rest : List Char) :
    readAttributes (ending ++ rest) = some ([], rest) := by
  rcases h with rfl | rfl
  · rw [List.singleton_append, readAttributes]
  · rw [List.cons_append, List.cons_append, List.singleton_append, readAttributes]

/-- Attributes and a tag's end begin with a character that may follow a name. -/
theorem exists_followsAttribute (attributes : List Attribute) {ending : List Char}
    (h : EndsTag ending) (rest : List Char) :
    ∃ c more, FollowsAttribute c ∧
      attributes.flatMap Attribute.html ++ ending ++ rest = c :: more := by
  cases attributes with
  | nil =>
      rcases h with rfl | rfl
      · exact ⟨'>', rest, .inr rfl, rfl⟩
      · exact ⟨' ', '/' :: '>' :: rest, .inl rfl, rfl⟩
  | cons a attributes => exact ⟨' ', _, .inl rfl, rfl⟩

theorem readAttributes_html {attributes : List Attribute}
    (hnames : ∀ a ∈ attributes, isName a.name = true) {ending : List Char}
    (h : EndsTag ending) (rest : List Char) :
    readAttributes (attributes.flatMap Attribute.html ++ ending ++ rest) =
      some (attributes, rest) := by
  induction attributes with
  | nil => exact readAttributes_ending h rest
  | cons a attributes ih =>
      have ha := hnames a List.mem_cons_self
      have ih := ih fun b hb => hnames b (List.mem_cons_of_mem _ hb)
      obtain ⟨c, more, hc, hmore⟩ := exists_followsAttribute attributes h rest
      obtain ⟨text, htext, hread⟩ := readAttribute_html ha hc more
      have hslash : ∀ tail, text ++ c :: more = '/' :: '>' :: tail → False := by
        intro tail htail
        -- otherwise the name of the attribute would begin with a slash
        obtain ⟨hne, hchars⟩ := endsName_of_isName ha
        obtain ⟨d, name, hname⟩ := List.exists_cons_of_ne_nil hne
        rw [Attribute.html, hname] at htext
        simp only [List.cons_append, List.cons.injEq, true_and] at htext
        rw [← htext, List.cons_append, List.cons.injEq] at htail
        have hd := hchars d (hname ▸ List.mem_cons_self)
        rw [htail.1] at hd
        exact absurd hd (by decide)
      rw [List.flatMap_cons, htext, List.append_assoc, List.append_assoc,
        ← List.append_assoc (attributes.flatMap Attribute.html), hmore, List.cons_append,
        readAttributes.eq_3 _ hslash]
      split
      · next hnone =>
          rw [hread] at hnone
          cases hnone
      · next hsome =>
          rw [hread] at hsome
          cases hsome
          rw [← hmore, ih]
          rfl

theorem lex_token {c : Char} {rest after : List Char} {token : Token}
    (h : readToken c rest = some (token, after)) :
    lex (c :: rest) = (lex after).map (token :: ·) := by
  rw [lex]
  split
  · next hnone =>
      rw [h] at hnone
      cases hnone
  · next hsome =>
      rw [h] at hsome
      cases hsome
      rfl

theorem lex_escapeText (text rest : List Char) :
    lex (text.flatMap escapeTextChar ++ rest) = (lex rest).map (text.map .char ++ ·) := by
  induction text with
  | nil => simp
  | cons c text ih =>
      obtain ⟨d, tail, hescape, hlt, hread⟩ := exists_escapeTextChar c
      rw [List.flatMap_cons, hescape, List.cons_append, List.cons_append, List.append_assoc,
        lex_token (by rw [readToken, if_neg hlt, hread]), ih, Option.map_map]
      rfl

theorem lex_opening {e : ElementData} (htag : isName e.tag = true)
    (hnames : ∀ a ∈ e.attributes, isName a.name = true) {ending : List Char}
    (h : EndsTag ending) (rest : List Char) :
    lex (e.opening ++ ending ++ rest) = (lex rest).map (.opening e :: ·) := by
  obtain ⟨c, more, hc, hmore⟩ := exists_followsAttribute e.attributes h rest
  have hname := readName_append htag hc.endsName more
  obtain ⟨hne, hchars⟩ := endsName_of_isName htag
  obtain ⟨d, name, hd⟩ := List.exists_cons_of_ne_nil hne
  have hslash : d ≠ '/' := by
    rintro rfl
    exact absurd (hchars '/' (hd ▸ List.mem_cons_self)) (by decide)
  have htoken : readToken '<' (e.tag.toList ++ c :: more) = some (.opening e, rest) := by
    rw [readToken, if_pos rfl, readTag.eq_2, hname, ← hmore, readAttributes_html hnames h]
    · rfl
    · intro tail htail
      rw [hd, List.cons_append, List.cons.injEq] at htail
      exact hslash htail.1
  have hsplit : e.opening ++ ending ++ rest = '<' :: (e.tag.toList ++ c :: more) := by
    rw [← hmore]
    simp [ElementData.opening]
  rw [hsplit, lex_token htoken]

theorem lex_closing {tag : String} (h : isName tag = true) (rest : List Char) :
    lex (closing tag ++ rest) = (lex rest).map (.closing tag :: ·) := by
  have hname := readName_append h (show endsName '>' = true by decide) rest
  have htoken : readToken '<' ('/' :: (tag.toList ++ '>' :: rest)) =
      some (.closing tag, rest) := by
    rw [readToken, if_pos rfl, readTag, hname]
    rfl
  have hsplit : closing tag ++ rest = '<' :: '/' :: (tag.toList ++ '>' :: rest) := by
    simp [closing]
  rw [hsplit, lex_token htoken]

/-- Shapes that are cut one by one are cut together. -/
theorem lex_htmlAll_of {style : VoidStyle} {shapes : List Shape}
    (h : ∀ shape ∈ shapes, ∀ rest,
      lex (shape.html style ++ rest) = (lex rest).map (shape.tokens ++ ·)) :
    ∀ rest, lex (Shape.htmlAll style shapes ++ rest) =
      (lex rest).map (Shape.tokensAll shapes ++ ·) := by
  induction shapes with
  | nil =>
      intro rest
      simp [Shape.htmlAll, Shape.tokensAll]
  | cons shape shapes ih =>
      intro rest
      have htail := ih fun below hbelow => h below (List.mem_cons_of_mem _ hbelow)
      rw [Shape.htmlAll, List.append_assoc, h shape List.mem_cons_self, htail, Option.map_map,
        Shape.tokensAll]
      congr 1
      funext tokens
      simp

/-- Cutting finds the tokens of the shape that was written. -/
theorem lex_html (style : VoidStyle) {shape : Shape} (h : shape.Writable) :
    ∀ rest, lex (shape.html style ++ rest) = (lex rest).map (shape.tokens ++ ·) := by
  induction h with
  | text content =>
      intro rest
      rw [Shape.html_text, escapeText, lex_escapeText, Shape.tokens]
  | @element e children htag hattributes _ _ ih =>
      intro rest
      rw [Shape.html, Shape.tokens]
      by_cases hvoid : isVoid e.tag = true
      · rw [if_pos hvoid, if_pos hvoid,
          lex_opening htag hattributes style.endsTag_terminator]
        rfl
      · rw [if_neg hvoid, if_neg hvoid, List.append_assoc, List.append_assoc,
          lex_opening htag hattributes (.inl rfl), lex_htmlAll_of ih, lex_closing htag,
          Option.map_map, Option.map_map]
        congr 1
        funext tokens
        simp

theorem lex_htmlAll (style : VoidStyle) {shapes : List Shape}
    (h : ∀ shape ∈ shapes, shape.Writable) :
    lex (Shape.htmlAll style shapes) = some (Shape.tokensAll shapes) := by
  have hlex := lex_htmlAll_of (fun shape hshape => lex_html style (h shape hshape)) []
  rw [List.append_nil, lex] at hlex
  simpa using hlex

/-! ## Putting together -/

/-- Tokens put together from the right: the shapes since the last closing tag that
still waits for its opening, and for each that waits its tag and what follows it. -/
structure Pile where
  shapes : List Shape
  waiting : List (String × List Shape)

/-- Put one more token in front. -/
def Pile.add? (pile : Pile) : Token → Option Pile
  | .char c => some { pile with shapes := Shape.prependText (String.singleton c) pile.shapes }
  | .closing tag => some ⟨[], (tag, pile.shapes) :: pile.waiting⟩
  | .opening e =>
    if isVoid e.tag then some { pile with shapes := .node (.element e) [] :: pile.shapes }
    else
      match pile.waiting with
      | [] => none
      | (tag, following) :: waiting =>
        if tag = e.tag then some ⟨.node (.element e) pile.shapes :: following, waiting⟩
        else none

/-- Put tokens in front of what is there already. -/
def pileUp (tokens : List Token) (pile? : Option Pile) : Option Pile :=
  tokens.foldr (fun token pile? => pile?.bind fun pile => pile.add? token) pile?

/-- The shapes of which a text has the tokens. Nothing may wait in the end. -/
def build (tokens : List Token) : Option (List Shape) :=
  match pileUp tokens (some ⟨[], []⟩) with
  | some ⟨shapes, []⟩ => some shapes
  | _ => none

theorem prependText_prependText (front back : String) (rest : List Shape) :
    Shape.prependText front (Shape.prependText back rest) =
      Shape.prependText (front ++ back) rest := by
  match rest with
  | .node (.text next) below :: rest => simp [Shape.prependText, String.append_assoc]
  | [] | .node .document _ :: _ | .node (.element _) _ :: _ =>
      by_cases hback : back = ""
      · simp [Shape.prependText, hback]
      · simp [Shape.prependText, hback]

theorem prependText_empty (rest : List Shape) : Shape.prependText "" rest = rest := by
  match rest with
  | .node (.text next) below :: rest => simp [Shape.prependText]
  | [] | .node .document _ :: _ | .node (.element _) _ :: _ => simp [Shape.prependText]

theorem pileUp_append (front back : List Token) (pile? : Option Pile) :
    pileUp (front ++ back) pile? = pileUp front (pileUp back pile?) :=
  List.foldr_append

theorem pileUp_cons (token : Token) (tokens : List Token) (pile? : Option Pile) :
    pileUp (token :: tokens) pile? = (pileUp tokens pile?).bind fun pile => pile.add? token :=
  rfl

/-- The characters of a text go together to the text. -/
theorem pileUp_chars (text : List Char) (shapes : List Shape)
    (waiting : List (String × List Shape)) :
    pileUp (text.map .char) (some ⟨shapes, waiting⟩) =
      some ⟨Shape.prependText (String.ofList text) shapes, waiting⟩ := by
  induction text with
  | nil => rw [List.map_nil, String.ofList_nil, prependText_empty]; rfl
  | cons c text ih =>
      have hjoin : String.singleton c ++ String.ofList text = String.ofList (c :: text) := by
        rw [← String.toList_inj]
        simp
      rw [List.map_cons, pileUp_cons, ih, Option.bind_some, Pile.add?, prependText_prependText,
        hjoin]

/-- Shapes that go together one by one go together to a normal form. -/
theorem pileUp_tokensAll_of {shapes : List Shape}
    (h : ∀ shape ∈ shapes, ∀ following waiting,
      pileUp shape.tokens (some ⟨following, waiting⟩) =
        some ⟨Shape.prepend shape.normal following, waiting⟩)
    (waiting : List (String × List Shape)) :
    pileUp (Shape.tokensAll shapes) (some ⟨[], waiting⟩) =
      some ⟨Shape.normalAll shapes, waiting⟩ := by
  induction shapes with
  | nil => rfl
  | cons shape shapes ih =>
      have htail := ih fun below hbelow => h below (List.mem_cons_of_mem _ hbelow)
      rw [Shape.tokensAll, pileUp_append, htail, h shape List.mem_cons_self, Shape.normalAll]

/-- The tokens of a shape go together to its normal form, in front of whatever is
there. -/
theorem pileUp_tokens {shape : Shape} (h : shape.Writable) :
    ∀ following waiting, pileUp shape.tokens (some ⟨following, waiting⟩) =
      some ⟨Shape.prepend shape.normal following, waiting⟩ := by
  induction h with
  | text content =>
      intro following waiting
      rw [Shape.tokens, pileUp_chars, String.ofList_toList, Shape.normal, Shape.prepend]
  | @element e children htag hattributes hchildless _ ih =>
      intro following waiting
      rw [Shape.tokens, Shape.normal, Shape.prepend]
      · by_cases hvoid : isVoid e.tag = true
        · rw [if_pos hvoid, pileUp_cons, hchildless hvoid, Shape.normalAll]
          simp [pileUp, Pile.add?, hvoid]
        · -- the closing tag waits while the children are put together
          have hclosing : pileUp [.closing e.tag] (some ⟨following, waiting⟩) =
              some ⟨[], (e.tag, following) :: waiting⟩ := rfl
          rw [if_neg hvoid, List.cons_append, pileUp_cons, pileUp_append, hclosing,
            pileUp_tokensAll_of ih]
          simp [Pile.add?, hvoid]
      · intro content below hnode
        cases hnode

theorem build_tokensAll {shapes : List Shape} (h : ∀ shape ∈ shapes, shape.Writable) :
    build (Shape.tokensAll shapes) = some (Shape.normalAll shapes) := by
  rw [build, pileUp_tokensAll_of fun shape hshape => pileUp_tokens (h shape hshape)]

/-! ## Pages -/

/-- The shapes that a page shows, if it can be read. -/
def readPage (options : HtmlOptions) (page : String) : Option (List Shape) :=
  (lex (page.toList.drop options.heading.toList.length)).bind build

theorem WellFormed.readPage_toHtml {m : Markup} (hm : m.WellFormed) (options : HtmlOptions) :
    readPage options (m.toHtml options) = some m.normalForm := by
  rw [readPage, hm.toHtml_eq, String.toList_append, List.drop_left, String.toList_ofList,
    lex_htmlAll _ hm.writable_forest, Option.bind_some, build_tokensAll hm.writable_forest]
  rfl

theorem WellFormed.toHtml_eq_of_normalForm_eq {m₁ m₂ : Markup} (h₁ : m₁.WellFormed)
    (h₂ : m₂.WellFormed) (h : m₁.normalForm = m₂.normalForm) (options : HtmlOptions) :
    m₁.toHtml options = m₂.toHtml options := by
  have hhtml : ∀ m : Markup, Shape.htmlAll options.voidStyle (m.forest root) =
      Shape.htmlAll options.voidStyle m.normalForm :=
    fun m => (Shape.htmlAll_normalAll options.voidStyle (m.forest root)).symm
  rw [h₁.toHtml_eq, h₂.toHtml_eq, hhtml, hhtml, h]

/-- Writing loses nothing but the borders between texts. One reader finds the
normal form of every tree in its page, whatever the options, and so two trees have
the same page exactly if they have the same normal form. -/
theorem toHtml_eq_iff_normalForm_eq {m₁ m₂ : Markup} (h₁ : Reachable m₁)
    (h₂ : Reachable m₂) (options : HtmlOptions) :
    (m₁.toHtml options = m₂.toHtml options ↔ m₁.normalForm = m₂.normalForm) ∧
      readPage options (m₁.toHtml options) = some m₁.normalForm ∧
      readPage options (m₂.toHtml options) = some m₂.normalForm := by
  have hread₁ := h₁.wellFormed.readPage_toHtml options
  have hread₂ := h₂.wellFormed.readPage_toHtml options
  refine ⟨⟨fun h => ?_, fun h => ?_⟩, hread₁, hread₂⟩
  · rw [h, hread₂] at hread₁
    exact (Option.some.inj hread₁).symm
  · exact h₁.wellFormed.toHtml_eq_of_normalForm_eq h₂.wellFormed h options

/-- Texts that come in pieces, an append that is refused and a value that needs
escapes: the two trees differ, and since they have one page they have one normal
form. -/
theorem toHtml_eq_pieces :
    let start : List Call :=
      [.appendElement root "div", .setAttribute ⟨2⟩ "title" (some "a\"<b"),
        .setAttribute ⟨2⟩ "hidden" none]
    let pieces := Markup.empty.runCalls (start ++
      [.appendText ⟨2⟩ "x", .appendText ⟨2⟩ "", .appendText ⟨2⟩ "<y",
        .appendElement ⟨2⟩ "Input", .appendText ⟨6⟩ "refused"])
    let whole := Markup.empty.runCalls (start ++
      [.appendText ⟨2⟩ "x<y", .appendElement ⟨2⟩ "Input"])
    pieces ≠ whole ∧ pieces.normalForm = whole.normalForm :=
  ⟨by decide, (toHtml_eq_iff_normalForm_eq (Reachable.empty.runCalls _)
    (Reachable.empty.runCalls _) {}).1.mp (by decide +kernel)⟩

end HtmlComponents.Markup
