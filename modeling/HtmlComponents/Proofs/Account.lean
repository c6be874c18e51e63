import HtmlComponents.Proofs.Growth
import HtmlComponents.Proofs.Noting

/-!
# What the notes of a render tell

`Account` is what the notes of any render tell, whatever its leaves do and whether it fails
or not. The hidden state goes from one expansion to the next, and each of them derives one
environment from what it finds and makes one body from what the deriving has left; each is
reported once; and they come in the order of the nodes that are there when they come. A body
that is a text stands in the tree with the number that was the next one when its component
was expanded, unless a leaf has failed.

All of this passes from the parts of a render to the whole, so it is kept by drawing, by
notes and by expansions one by one, and by induction over renders (`account_renderNoted`).
-/

namespace HtmlComponents

open HtmlComponents.Markup HtmlComponents.Element

variable {κ σ : Type} [KeyFamily κ]

/-! ## Lists of expansions -/

theorem occurrences_append (front back : List (Note κ σ)) :
    occurrences (front ++ back) = occurrences front ++ occurrences back := List.filterMap_append

theorem hiddenAfter_append (state : σ) (front back : List (Occurrence κ σ)) :
    hiddenAfter state (front ++ back) = hiddenAfter (hiddenAfter state front) back :=
  List.foldl_append

theorem threads_append {state : σ} {front back : List (Occurrence κ σ)} :
    Threads state (front ++ back) ↔
      Threads state front ∧ Threads (hiddenAfter state front) back := by
  induction front generalizing state with
  | nil => exact ⟨fun h => ⟨trivial, h⟩, And.right⟩
  | cons occurrence front ih =>
      rw [List.cons_append, Threads, Threads, ih, and_assoc]
      rfl

/-! ## What is reported -/

/-- The name of the composing component that an event says is expanded. -/
def RenderEvent.expanded? : RenderEvent → Option String
  | expandBody name => some name
  | renderStart _ | renderLeaf _ | emitAttribute _ _ | emitFlag _ | renderComplete _ _ => none

/-- The names of the composing components that were reported to be expanded. -/
def Canvas.expansions (canvas : Canvas) : List String :=
  canvas.events.toList.filterMap RenderEvent.expanded?

theorem Canvas.expansions_push (m m' : Markup) (events : Array RenderEvent) (event : RenderEvent) :
    (Canvas.mk m (events.push event)).expansions =
      (Canvas.mk m' events).expansions ++ event.expanded?.toList := by
  rw [expansions, expansions, Array.toList_push, List.filterMap_append]
  rcases hevent : event.expanded? with _ | name
  · rw [List.filterMap_cons_none hevent]
    rfl
  · rw [List.filterMap_cons_some hevent]
    rfl

theorem RenderEvent.expanded?_of_isDrawing {event : RenderEvent} (h : event.isDrawing = true) :
    event.expanded? = none := by
  cases event <;> first | rfl | cases h

/-! ## Accounts -/

/-- No leaf has failed. -/
def Unfailing (notes : List (Note κ σ)) : Prop := ∀ note ∈ notes, note.error? = none

theorem unfailing_append {front back : List (Note κ σ)} :
    Unfailing (front ++ back) ↔ Unfailing front ∧ Unfailing back := List.forall_mem_append

/-- Bodies that are texts stand in the tree where their components were expanded, each of them
before what was expanded behind it. -/
structure Shown (m : Markup) (expanded : List (Occurrence κ σ)) : Prop where
  get? : ∀ occurrence ∈ expanded, ∀ content, occurrence.expansion = .text content →
    m.get? occurrence.next = some (.text content)
  apart : expanded.Pairwise fun a b => ∀ content, a.expansion = .text content →
    a.next.number < b.next.number

/-- What the notes that were taken between two stages tell, if every composing component has
the property. -/
structure Account (P : Occurrence κ σ → Prop) (before after : Stage σ)
    (notes : List (Note κ σ)) : Prop where
  grown : before.markup.Extends after.markup
  threads : Threads before.hidden (occurrences notes)
  hidden : after.hidden = hiddenAfter before.hidden (occurrences notes)
  reported : after.canvas.expansions =
    before.canvas.expansions ++ (occurrences notes).map Occurrence.name
  holds : ∀ occurrence ∈ occurrences notes, P occurrence
  within : ∀ occurrence ∈ occurrences notes, before.markup.size < occurrence.next.number ∧
    occurrence.next.number ≤ after.markup.size + 1
  ordered : (occurrences notes).Pairwise fun a b => a.next.number ≤ b.next.number
  shown : Unfailing notes → Shown after.markup (occurrences notes)

namespace Account

variable {P : Occurrence κ σ → Prop} {a b c before after : Stage σ} {notes notes' : List (Note κ σ)}

/-- Nothing was expanded, and at most something was drawn. -/
theorem unexpanded (hnotes : occurrences notes = []) (hgrown : before.markup.Extends after.markup)
    (hhidden : after.hidden = before.hidden)
    (hreported : after.canvas.expansions = before.canvas.expansions) :
    Account P before after notes where
  grown := hgrown
  threads := by
    rw [hnotes]
    exact trivial
  hidden := by
    rw [hnotes]
    exact hhidden
  reported := by
    rw [hnotes]
    exact hreported.trans (List.append_nil _).symm
  holds := by
    rw [hnotes]
    exact nofun
  within := by
    rw [hnotes]
    exact nofun
  ordered := by
    rw [hnotes]
    exact List.Pairwise.nil
  shown := by
    rw [hnotes]
    exact fun _ => ⟨nofun, List.Pairwise.nil⟩

theorem trans (h : Account P a b notes) (h' : Account P b c notes') :
    Account P a c (notes ++ notes') where
  grown := h.grown.trans h'.grown
  threads := by
    rw [occurrences_append, threads_append, ← h.hidden]
    exact ⟨h.threads, h'.threads⟩
  hidden := by rw [occurrences_append, hiddenAfter_append, ← h.hidden, h'.hidden]
  reported := by
    rw [occurrences_append, List.map_append, ← List.append_assoc, ← h.reported, h'.reported]
  holds := by
    rw [occurrences_append]
    exact List.forall_mem_append.mpr ⟨h.holds, h'.holds⟩
  within := by
    rw [occurrences_append]
    have hgrown := h.grown.size_le
    have hgrown' := h'.grown.size_le
    refine List.forall_mem_append.mpr ⟨fun occurrence hmem => ?_, fun occurrence hmem => ?_⟩
    · obtain ⟨hlow, hhigh⟩ := h.within occurrence hmem
      exact ⟨hlow, by omega⟩
    · obtain ⟨hlow, hhigh⟩ := h'.within occurrence hmem
      exact ⟨by omega, hhigh⟩
  ordered := by
    rw [occurrences_append]
    refine List.pairwise_append.mpr ⟨h.ordered, h'.ordered, fun first hfirst second hsecond => ?_⟩
    exact Nat.le_trans (h.within first hfirst).2 (h'.within second hsecond).1
  shown := by
    intro hunfailing
    rw [unfailing_append] at hunfailing
    have hshown := h.shown hunfailing.1
    have hshown' := h'.shown hunfailing.2
    rw [occurrences_append]
    refine ⟨List.forall_mem_append.mpr ⟨fun first hfirst content htext =>
      h'.grown.get?_text (hshown.get? first hfirst content htext), hshown'.get?⟩, ?_⟩
    refine List.pairwise_append.mpr ⟨hshown.apart, hshown'.apart,
      fun first hfirst second hsecond content htext => ?_⟩
    -- the text of the first one is there before anything behind it is expanded
    have hthere := (contains_iff.mp (contains_of_get? (hshown.get? first hfirst content htext))).2
    exact Nat.lt_of_le_of_lt hthere (h'.within second hsecond).1

end Account

/-- The notes that have come to the first ones tell the stages. -/
def Accounted (P : Occurrence κ σ → Prop) (noted noted' : Noted κ σ) : Prop :=
  ∃ notes, noted'.notes = noted.notes ++ notes ∧ Account P noted.stage noted'.stage notes

section Accounted

variable {P : Occurrence κ σ → Prop}

theorem Accounted.trans (a b c : Noted κ σ) (hab : Accounted P a b) (hbc : Accounted P b c) :
    Accounted P a c := by
  obtain ⟨notes, hb, h⟩ := hab
  obtain ⟨notes', hc, h'⟩ := hbc
  exact ⟨notes ++ notes', by rw [hc, hb, List.append_assoc], h.trans h'⟩

theorem goesAlong_accounted (notes : List (Note κ σ)) :
    GoesAlong fun a b : Stage σ => Accounted P ⟨a, notes⟩ ⟨b, notes⟩ where
  refl _ := ⟨[], (List.append_nil notes).symm, .unexpanded rfl (.refl _) rfl rfl⟩
  trans _ _ _ := Accounted.trans _ _ _
  reported stage event hdrawing := by
    refine ⟨[], (List.append_nil notes).symm, .unexpanded rfl (.refl _) rfl ?_⟩
    have hpush := Canvas.expansions_push stage.markup stage.markup stage.canvas.events event
    rw [RenderEvent.expanded?_of_isDrawing hdrawing] at hpush
    exact hpush.trans (List.append_nil _)
  called stage call :=
    ⟨[], (List.append_nil notes).symm, .unexpanded rfl (extends_call stage.markup call) rfl rfl⟩

/-- A body that is a text is drawn as the next node, or a leaf has failed. -/
theorem renderNoted_text (env : Environment κ) (p : NodeId) (content : String)
    (noted : Noted κ σ) :
    ∃ notes, ((Component.text content).renderNoted env p noted).2.notes = noted.notes ++ notes ∧
      occurrences notes = [] ∧ (Unfailing notes →
        ((Component.text content).renderNoted env p noted).2.stage.markup.get?
          noted.stage.markup.nextId = some (.text content)) := by
  rw [Component.renderNoted]
  simp only [Noting.leaf, Noting.silent]
  rcases hrender : (Component.text content).render env p noted.stage with ⟨e | _, after⟩
  · refine ⟨[.leaf "Text", .failed "Text" e], List.append_assoc .., rfl, fun hunfailing => ?_⟩
    have hnone := hunfailing (.failed "Text" e) (List.mem_cons_of_mem _ List.mem_cons_self)
    exact absurd hnone (Option.some_ne_none e)
  · refine ⟨[.leaf "Text"], rfl, rfl, fun _ => ?_⟩
    rw [Component.render] at hrender
    have hrender : ((do let _ ← Rendering.draw (Drawing.build (appendText p content))) :
        Rendering σ Unit) (noted.stage.reported (.renderLeaf "Text")) = (.ok (), after) := hrender
    obtain ⟨node, drawn, hdraw, hdone⟩ := bind_ok hrender
    obtain ⟨-, -, hgrow⟩ := append_eq_ok (Drawing.build_ok (Rendering.draw_eq_ok hdraw))
    have hafter : after = drawn := (congrArg Prod.snd hdone).symm
    show after.canvas.markup.get? _ = _
    rw [hafter, hgrow, get?_grow]
    exact if_pos rfl

theorem accounted_expanded {noted : Noted κ σ} {occurrence : Occurrence κ σ} {p : NodeId}
    (hholds : P occurrence) (hfound : occurrence.found = noted.stage.hidden)
    (hnext : occurrence.next = noted.stage.markup.nextId)
    (hbody : Moves (Accounted P) (occurrence.expansion.renderNoted occurrence.derived p)) :
    Accounted P noted
      (occurrence.expansion.renderNoted occurrence.derived p (noted.expanded occurrence)).2 := by
  obtain ⟨notes, hnotes, h⟩ := hbody (noted.expanded occurrence)
  have hnumber : occurrence.next.number = noted.stage.markup.size + 1 := by rw [hnext, nextId_eq]
  have hlow : ∀ other ∈ occurrences notes, occurrence.next.number ≤ other.next.number := by
    intro other hother
    rw [hnumber]
    exact (h.within other hother).1
  have hcons : occurrences (.expand occurrence :: notes) = occurrence :: occurrences notes := rfl
  refine ⟨.expand occurrence :: notes, ?_, h.grown, ⟨hfound, h.threads⟩, ?_, ?_, ?_, ?_, ?_, ?_⟩
  · rw [hnotes, Noted.expanded, List.append_assoc]
    rfl
  · exact h.hidden
  · rw [h.reported, hcons, List.map_cons, List.append_cons]
    exact congrArg (· ++ _) (Canvas.expansions_push noted.stage.markup noted.stage.markup _ _)
  · exact List.forall_mem_cons.mpr ⟨hholds, h.holds⟩
  · have hgrown : noted.stage.markup.size ≤ _ := h.grown.size_le
    refine List.forall_mem_cons.mpr ⟨by omega, fun other hother => ?_⟩
    exact h.within other hother
  · exact List.pairwise_cons.mpr ⟨hlow, h.ordered⟩
  · intro hunfailing
    have hrest : Unfailing notes := fun note hnote => hunfailing note (List.mem_cons_of_mem _ hnote)
    have hshown := h.shown hrest
    have htext : ∀ content, occurrence.expansion = .text content → occurrences notes = [] ∧
        (occurrence.expansion.renderNoted occurrence.derived p
          (noted.expanded occurrence)).2.stage.markup.get? occurrence.next =
            some (.text content) := by
      intro content hcontent
      obtain ⟨notes', hnotes', hnone, hdrawn⟩ :=
        renderNoted_text occurrence.derived p content (noted.expanded occurrence)
      rw [hcontent] at hnotes ⊢
      rw [hnotes, List.append_cancel_left_eq] at hnotes'
      rw [hnotes', hnext]
      exact ⟨hnone, hdrawn (hnotes' ▸ hrest)⟩
    refine ⟨List.forall_mem_cons.mpr ⟨fun content hcontent => (htext content hcontent).2,
      hshown.get?⟩, List.pairwise_cons.mpr ⟨fun other hother content hcontent => ?_, hshown.apart⟩⟩
    have hother : other ∈ occurrences notes := hother
    rw [(htext content hcontent).1] at hother
    exact nomatch hother

theorem notesAlong_accounted : NotesAlong P (Accounted P) where
  drawing := goesAlong_accounted
  trans := Accounted.trans
  jotted _ _ note hnote :=
    ⟨[note], rfl, .unexpanded (List.filterMap_cons_none hnote) (.refl _) rfl rfl⟩
  expanded _ _ _ := accounted_expanded

end Accounted

namespace Component

/-- The notes of a render tell what comes of the stage. -/
theorem account_renderNoted {P : Occurrence κ σ → Prop} {c : Component κ σ} (h : c.Throughout P)
    (env : Environment κ) (p : NodeId) (noted : Noted κ σ) :
    Accounted P noted (c.renderNoted env p noted).2 :=
  renderNoted_along notesAlong_accounted env p c h noted

mutual

theorem throughout_true : (c : Component κ σ) → c.Throughout fun _ => True
  | .control c => .control c
  | .text content => .text content
  | .division ⟨children, _, _⟩ => .division (throughout_true_all children)
  | .label ⟨children, _, _, _⟩ => .label (throughout_true_all children)
  | .leaf _ draw => .leaf fun env => throughout_true_program (draw env)
  | .composing _ _ body _ =>
    .composing (fun _ _ _ => trivial) fun env state => throughout_true (body env state)
  | .group members => .group (throughout_true_all members)

theorem throughout_true_all : (cs : List (Component κ σ)) → ∀ c ∈ cs, c.Throughout fun _ => True
  | [] => nofun
  | c :: cs => List.forall_mem_cons.mpr ⟨throughout_true c, throughout_true_all cs⟩

theorem throughout_true_program : (program : Program κ σ) → program.Throughout fun _ => True
  | .done => .done
  | .fail error => .fail error
  | .element _ _ next => .element fun answer => throughout_true_program (next answer)
  | .text _ _ next => .text fun answer => throughout_true_program (next answer)
  | .set _ _ _ next => .set fun answer => throughout_true_program (next answer)
  | .emit _ _ next => .emit fun answer => throughout_true_program (next answer)
  | .render _ _ c next =>
    .render (throughout_true c) fun answer => throughout_true_program (next answer)
  | .look next => .look fun m p own => throughout_true_program (next m p own)

end

end Component

end HtmlComponents
