import HtmlComponents.Proofs.Account
import HtmlComponents.Proofs.Picture

/-!
# Leaves that draw in order

A leaf may fill its elements in any order, and may go on after a render that it asked for has
failed. Most leaves do neither. They draw as one writes, so that what is drawn is behind all
that was there before; and a render that fails makes them fail with its error. These are the
`Orderly` ones, whatever they make of refused calls and of what they see of the tree. The
built-in elements and all leaves that draw strokes are among them.

Of orderly components the notes tell more: when a leaf has failed, nothing is noted but that
the leaves around it fail too, all of them with the error that is answered in the end
(`Orderly.passesOn`). That holds of each step of a render and passes on to the whole. The
other half, which is about the order of the nodes, is in `HtmlComponents.Proofs.Succession`.
-/

namespace HtmlComponents

open HtmlComponents.Markup HtmlComponents.Element

variable {κ σ : Type} [KeyFamily κ]

/-! ## Orderly leaves -/

mutual

/-- Every leaf that the component can come to is orderly. -/
inductive Component.Orderly : Component κ σ → Prop where
  | control (c : Control) : Component.Orderly (.control c)
  | text (content : String) : Component.Orderly (.text content)
  | division {d : Division (Component κ σ)} (h : ∀ c ∈ d.children, Component.Orderly c) :
      Component.Orderly (.division d)
  | label {l : Label (Component κ σ)} (h : ∀ c ∈ l.children, Component.Orderly c) :
      Component.Orderly (.label l)
  | leaf {name : String} {draw : Environment κ → Program κ σ}
      (h : ∀ env, Program.Orderly 0 [.here] (draw env)) : Component.Orderly (.leaf name draw)
  | composing {name : String} {environment : Environment κ → σ → Environment κ × σ}
      {body : Environment κ → σ → Component κ σ} {advance : Environment κ → σ → σ}
      (h : ∀ env state, Component.Orderly (body env state)) :
      Component.Orderly (.composing name environment body advance)
  | group {members : List (Component κ σ)} (h : ∀ c ∈ members, Component.Orderly c) :
      Component.Orderly (.group members)

/-- The program of a leaf that has appended so many nodes draws in order. The open places are
those where something can still be drawn behind all that is there, the innermost one first.
Drawing in a place closes those inside it, and an element that was appended is open. -/
inductive Program.Orderly : Nat → List Place → Program κ σ → Prop where
  | done {made : Nat} {opened : List Place} : Program.Orderly made opened .done
  | fail {made : Nat} {opened : List Place} (error : RenderError) :
      Program.Orderly made opened (.fail error)
  | element {made : Nat} {opened outer : List Place} {place : Place} {tag : String}
      {next : Except Markup.Error Unit → Program κ σ} (hplace : place :: outer <:+ opened)
      (hok : Program.Orderly (made + 1) (.own made :: place :: outer) (next (.ok ())))
      (herror : ∀ e, Program.Orderly made opened (next (.error e))) :
      Program.Orderly made opened (.element place tag next)
  | text {made : Nat} {opened outer : List Place} {place : Place} {content : String}
      {next : Except Markup.Error Unit → Program κ σ} (hplace : place :: outer <:+ opened)
      (hok : Program.Orderly (made + 1) (place :: outer) (next (.ok ())))
      (herror : ∀ e, Program.Orderly made opened (next (.error e))) :
      Program.Orderly made opened (.text place content next)
  | set {made : Nat} {opened : List Place} {index : Nat} {name : String} {value : Option String}
      {next : Except Markup.Error Unit → Program κ σ}
      (h : ∀ answer, Program.Orderly made opened (next answer)) :
      Program.Orderly made opened (.set index name value next)
  | emit {made : Nat} {opened : List Place} {index : Nat} {fields : List Field}
      {next : Except Markup.Error Unit → Program κ σ}
      (h : ∀ answer, Program.Orderly made opened (next answer)) :
      Program.Orderly made opened (.emit index fields next)
  | render {made : Nat} {opened outer : List Place} {place : Place} {env : Environment κ}
      {c : Component κ σ} {next : Except RenderError Unit → Program κ σ}
      (hplace : place :: outer <:+ opened) (hc : Component.Orderly c)
      (hok : Program.Orderly made (place :: outer) (next (.ok ())))
      (herror : ∀ e, next (.error e) = .fail e) :
      Program.Orderly made opened (.render place env c next)
  | look {made : Nat} {opened : List Place} {next : Markup → NodeId → List NodeId → Program κ σ}
      (h : ∀ m p own, Program.Orderly made opened (next m p own)) :
      Program.Orderly made opened (.look next)

end

namespace Program.Orderly

theorem retouch {made : Nat} {opened : List Place} (index : Nat) {next : Program κ σ}
    (h : Program.Orderly made opened next) :
    (changes : List Retouch) → Program.Orderly made opened (Retouch.programs index next changes)
  | [] => h
  | .attribute _ _ :: changes => .set fun
    | .ok () => retouch index h changes
    | .error e => .fail (.markup e)
  | .emit _ :: changes => .emit fun
    | .ok () => retouch index h changes
    | .error e => .fail (.markup e)

mutual

/-- A stroke may leave elements open that it has drawn, so what follows it has to be in order
with more open places. -/
theorem stroke {place : Place} {outer : List Place} {next : Nat → Program κ σ}
    (hnext : ∀ made opened, place :: outer <:+ opened → Program.Orderly made opened (next made))
    (made : Nat) {opened : List Place} (hplace : place :: outer <:+ opened) :
    (stroke : Stroke κ σ) → stroke.Renders Component.Orderly →
      Program.Orderly made opened (stroke.program place made next)
  | .element tag attributes content, h => by
      cases h with
      | element _ _ h =>
          rw [Stroke.program]
          refine .element hplace (retouch made ?_ attributes) fun e => .fail (.markup e)
          refine strokes (fun made' opened' hinner => hnext made' opened' ?_) (made + 1)
            List.suffix_rfl content h
          exact (List.suffix_cons _ _).trans hinner
  | .text content, _ => by
      rw [Stroke.program]
      exact .text hplace (hnext _ _ List.suffix_rfl) fun e => .fail (.markup e)
  | .render env c, h => by
      cases h with
      | render _ hc =>
          rw [Stroke.program]
          exact .render hplace hc (hnext _ _ List.suffix_rfl) fun _ => rfl
  | .fail error, _ => by
      rw [Stroke.program]
      exact .fail error

theorem strokes {place : Place} {outer : List Place} {next : Nat → Program κ σ}
    (hnext : ∀ made opened, place :: outer <:+ opened → Program.Orderly made opened (next made))
    (made : Nat) {opened : List Place} (hplace : place :: outer <:+ opened) :
    (strokes : List (Stroke κ σ)) → (∀ stroke ∈ strokes, stroke.Renders Component.Orderly) →
      Program.Orderly made opened (Stroke.programs place made next strokes)
  | [], _ => by
      rw [Stroke.programs]
      exact hnext made opened hplace
  | stroke :: strokes, h => by
      rw [Stroke.programs]
      refine Orderly.stroke (fun made' opened' hplace' => ?_) made hplace stroke
        (h stroke List.mem_cons_self)
      exact Orderly.strokes hnext made' hplace' strokes fun s hs =>
        h s (List.mem_cons_of_mem _ hs)

end

end Program.Orderly

namespace Component

/-- A leaf that draws strokes is orderly. -/
theorem Orderly.custom {name : String} {strokes : Environment κ → List (Stroke κ σ)}
    (h : ∀ env, ∀ stroke ∈ strokes env, stroke.Renders Component.Orderly) :
    (Component.custom name strokes).Orderly :=
  .leaf fun env => Program.Orderly.strokes (fun _ _ _ => .done) 0 List.suffix_rfl (strokes env)
    (h env)

theorem Plain.orderly {c : Component κ σ} (h : c.Plain) : c.Orderly := by
  induction h with
  | control c => exact .control c
  | text content => exact .text content
  | division _ ih => exact .division ih
  | label _ ih => exact .label ih
  | composing _ _ _ ih => exact .composing ih
  | group _ ih => exact .group ih

end Component

/-! ## Failures are passed on -/

/-- The notes tell the answer. No leaf has failed if there is one; behind the first leaf that
has failed there is nothing but failures, with the error that is answered. -/
def Tells {α : Type} (answer : Except RenderError α) (notes : List (Note κ σ)) : Prop :=
  ∃ front back, notes = front ++ back ∧ Unfailing front ∧
    match answer with
    | .ok _ => back = []
    | .error e => ∀ note ∈ back, note.error? = some e

/-- The notes that are taken meanwhile tell the answer. -/
def PassesOn {α : Type} (x : Noting κ σ α) : Prop :=
  ∀ noted, ∃ notes, (x noted).2.notes = noted.notes ++ notes ∧ Tells (x noted).1 notes

section PassesOn

variable {α β : Type}

/-- What takes no notes passes failures on. -/
theorem passesOn_of_notes_eq {x : Noting κ σ α} (h : ∀ noted, (x noted).2.notes = noted.notes) :
    PassesOn x := by
  refine fun noted => ⟨[], (h noted).trans (List.append_nil _).symm, [], [], rfl, nofun, ?_⟩
  cases (x noted).1 with
  | ok a => rfl
  | error e => exact nofun

theorem passesOn_silent (step : Rendering σ α) : PassesOn (Noting.silent step : Noting κ σ α) :=
  passesOn_of_notes_eq fun _ => rfl

theorem PassesOn.bind {x : Noting κ σ α} {f : α → Noting κ σ β} (hx : PassesOn x)
    (hf : ∀ a, PassesOn (f a)) : PassesOn (x >>= f) := by
  intro noted
  obtain ⟨notes, hnotes, front, back, rfl, hfront, hanswer⟩ := hx noted
  rw [bind_apply]
  rcases hstep : x noted with ⟨e | a, mid⟩ <;> rw [hstep] at hnotes hanswer
  · exact ⟨_, hnotes, front, back, rfl, hfront, hanswer⟩
  · cases hanswer
    obtain ⟨notes', hnotes', front', back', rfl, hfront', hanswer'⟩ := hf a mid
    refine ⟨front ++ (front' ++ back'), ?_, front ++ front', back', ?_, ?_, hanswer'⟩
    · rw [hnotes', hnotes, List.append_nil, List.append_assoc]
    · rw [List.append_assoc]
    · exact unfailing_append.mpr ⟨hfront, hfront'⟩

theorem PassesOn.leaf {x : Noting κ σ Unit} (hx : PassesOn x) (componentType : String) :
    PassesOn (Noting.leaf componentType x) := by
  intro noted
  obtain ⟨notes, hnotes, front, back, rfl, hfront, hanswer⟩ :=
    hx { noted with notes := noted.notes ++ [.leaf componentType] }
  have hbegun : Unfailing (.leaf componentType :: front : List (Note κ σ)) :=
    List.forall_mem_cons.mpr ⟨rfl, hfront⟩
  simp only [Noting.leaf]
  rcases hstep : x { noted with notes := noted.notes ++ [.leaf componentType] } with
    ⟨e | _, after⟩ <;> rw [hstep] at hnotes hanswer
  · refine ⟨.leaf componentType :: front ++ (back ++ [.failed componentType e]), ?_,
      _, _, rfl, hbegun, ?_⟩
    · show after.notes ++ [.failed componentType e] = _
      rw [hnotes]
      simp only [List.append_assoc, List.cons_append, List.nil_append]
    · exact List.forall_mem_append.mpr ⟨hanswer, List.forall_mem_singleton.mpr rfl⟩
  · refine ⟨.leaf componentType :: front ++ back, ?_, _, _, rfl, hbegun, hanswer⟩
    show after.notes = _
    rw [hnotes]
    simp only [List.append_assoc, List.cons_append, List.nil_append]

theorem PassesOn.enclose {content : NodeId → Noting κ σ Unit}
    (h : ∀ node, PassesOn (content node)) (componentType tag : String) (fields : List Field)
    (p : NodeId) : PassesOn (Noting.enclose componentType tag fields content p) :=
  ((passesOn_silent _).bind fun _ => (passesOn_silent _).bind fun node =>
    (passesOn_silent _).bind fun _ => h node).leaf componentType

theorem passesOn_expand (occurrence : Stage σ → Occurrence κ σ) :
    PassesOn (Noting.expand occurrence) :=
  fun noted => ⟨[.expand (occurrence noted.stage)], rfl, [.expand (occurrence noted.stage)], [],
    rfl, List.forall_mem_singleton.mpr rfl, rfl⟩

/-- If its failure is passed on, it does not matter that a step is attempted. -/
theorem Noting.attempt_bind (step : Noting κ σ α) {next : Except RenderError α → Noting κ σ β}
    (h : ∀ e, next (.error e) = throw e) :
    Noting.attempt step >>= next = step >>= fun a => next (.ok a) := by
  funext noted
  rw [bind_apply, bind_apply]
  simp only [attempt]
  rcases step noted with ⟨e | a, after⟩
  · simp only [h]
    rfl
  · rfl

end PassesOn

mutual

/-- Orderly components pass failures on. -/
theorem Component.Orderly.passesOn (env : Environment κ) (p : NodeId) :
    (c : Component κ σ) → c.Orderly → PassesOn (c.renderNoted env p)
  | .control c, _ => by
      rw [Component.renderNoted]
      exact (passesOn_silent _).leaf _
  | .text content, _ => by
      rw [Component.renderNoted]
      exact (passesOn_silent _).leaf _
  | .division ⟨children, id, classes⟩, h => by
      cases h with
      | division h =>
          rw [Component.renderNoted]
          exact .enclose (fun node => Component.Orderly.passesOn_all env node children h) _ _ _ p
  | .label ⟨children, target, id, classes⟩, h => by
      cases h with
      | label h =>
          rw [Component.renderNoted]
          exact .enclose (fun node => Component.Orderly.passesOn_all env node children h) _ _ _ p
  | .leaf name draw, h => by
      cases h with
      | leaf h =>
          rw [Component.renderNoted]
          exact ((passesOn_silent _).bind fun _ =>
            Program.Orderly.passesOn p [] (draw env) (h env)).leaf _
  | .composing name environment body advance, h => by
      cases h with
      | composing h =>
          rw [Component.renderNoted]
          exact (passesOn_expand _).bind fun occurrence =>
            Component.Orderly.passesOn _ p (body _ _) (h _ _)
  | .group members, h => by
      cases h with
      | group h =>
          rw [Component.renderNoted]
          exact Component.Orderly.passesOn_all env p members h

theorem Component.Orderly.passesOn_all (env : Environment κ) (p : NodeId) :
    (cs : List (Component κ σ)) → (∀ c ∈ cs, c.Orderly) →
      PassesOn (Component.renderAllNoted env p cs)
  | [], _ => by
      rw [Component.renderAllNoted]
      exact passesOn_of_notes_eq fun _ => rfl
  | c :: cs, h => by
      rw [Component.renderAllNoted]
      exact (Component.Orderly.passesOn env p c (h c List.mem_cons_self)).bind fun _ =>
        Component.Orderly.passesOn_all env p cs fun d hd => h d (List.mem_cons_of_mem c hd)

theorem Program.Orderly.passesOn {made : Nat} {opened : List Place} (p : NodeId)
    (own : List NodeId) :
    (program : Program κ σ) → program.Orderly made opened →
      PassesOn (Component.performNoted p own program)
  | .done, _ => by
      rw [Component.performNoted]
      exact passesOn_of_notes_eq fun _ => rfl
  | .fail error, _ => by
      rw [Component.performNoted]
      exact passesOn_of_notes_eq fun _ => rfl
  | .element place tag next, h => by
      cases h with
      | element _ hok herror =>
          rw [Component.performNoted]
          refine (passesOn_silent _).bind fun answer => ?_
          cases answer with
          | ok node => exact Program.Orderly.passesOn p _ (next (.ok ())) hok
          | error e => exact Program.Orderly.passesOn p _ (next (.error e)) (herror e)
  | .text place content next, h => by
      cases h with
      | text _ hok herror =>
          rw [Component.performNoted]
          refine (passesOn_silent _).bind fun answer => ?_
          cases answer with
          | ok node => exact Program.Orderly.passesOn p _ (next (.ok ())) hok
          | error e => exact Program.Orderly.passesOn p _ (next (.error e)) (herror e)
  | .set index name value next, h => by
      cases h with
      | set h =>
          rw [Component.performNoted]
          exact (passesOn_silent _).bind fun answer =>
            Program.Orderly.passesOn p own (next answer) (h answer)
  | .emit index fields next, h => by
      cases h with
      | emit h =>
          rw [Component.performNoted]
          exact (passesOn_silent _).bind fun answer =>
            Program.Orderly.passesOn p own (next answer) (h answer)
  | .render place env c next, h => by
      cases h with
      | render _ hc hok herror =>
          rw [Component.performNoted, Noting.attempt_bind _ fun e => by
            rw [herror e, Component.performNoted]]
          exact (Component.Orderly.passesOn env _ c hc).bind fun _ =>
            Program.Orderly.passesOn p own (next (.ok ())) hok
  | .look next, h => by
      cases h with
      | look h =>
          rw [Component.performNoted]
          exact (passesOn_silent _).bind fun markup =>
            Program.Orderly.passesOn p own (next markup p own) (h markup p own)

end

/-! ## The leaf that fails -/

section Blames

theorem Noting.leaf_eq_error {x : Noting κ σ Unit} {componentType : String}
    {noted after : Noted κ σ} {error : RenderError}
    (h : Noting.leaf componentType x noted = (.error error, after)) :
    ∃ notes, after.notes = notes ++ [.failed componentType error] := by
  simp only [Noting.leaf] at h
  rcases hstep : x { noted with notes := noted.notes ++ [.leaf componentType] } with
    ⟨e | _, mid⟩ <;> rw [hstep] at h <;> cases h
  exact ⟨mid.notes, rfl⟩

mutual

/-- When a render has failed, the last note is of a leaf that has failed with the error that is
answered, whatever the leaves do. -/
theorem Component.failed_of_error {env : Environment κ} {p : NodeId} {noted after : Noted κ σ}
    {error : RenderError} : (c : Component κ σ) →
      c.renderNoted env p noted = (.error error, after) →
      ∃ notes componentType, after.notes = notes ++ [.failed componentType error]
  | .control c, h => by
      rw [Component.renderNoted] at h
      obtain ⟨notes, hnotes⟩ := Noting.leaf_eq_error h
      exact ⟨notes, _, hnotes⟩
  | .text content, h => by
      rw [Component.renderNoted] at h
      obtain ⟨notes, hnotes⟩ := Noting.leaf_eq_error h
      exact ⟨notes, _, hnotes⟩
  | .division ⟨children, id, classes⟩, h => by
      rw [Component.renderNoted, Noting.enclose] at h
      obtain ⟨notes, hnotes⟩ := Noting.leaf_eq_error h
      exact ⟨notes, _, hnotes⟩
  | .label ⟨children, target, id, classes⟩, h => by
      rw [Component.renderNoted, Noting.enclose] at h
      obtain ⟨notes, hnotes⟩ := Noting.leaf_eq_error h
      exact ⟨notes, _, hnotes⟩
  | .leaf name draw, h => by
      rw [Component.renderNoted] at h
      obtain ⟨notes, hnotes⟩ := Noting.leaf_eq_error h
      exact ⟨notes, _, hnotes⟩
  | .composing name environment body advance, h => by
      rw [Component.renderNoted] at h
      exact Component.failed_of_error (body _ _) h
  | .group members, h => by
      rw [Component.renderNoted] at h
      exact Component.failed_of_error_all members h

theorem Component.failed_of_error_all {env : Environment κ} {p : NodeId}
    {noted after : Noted κ σ} {error : RenderError} : (cs : List (Component κ σ)) →
      Component.renderAllNoted env p cs noted = (.error error, after) →
      ∃ notes componentType, after.notes = notes ++ [.failed componentType error]
  | [], h => by
      rw [Component.renderAllNoted] at h
      cases h
  | c :: cs, h => by
      rw [Component.renderAllNoted, bind_apply] at h
      rcases hfirst : c.renderNoted env p noted with ⟨e | _, mid⟩ <;> rw [hfirst] at h
      · cases h
        exact Component.failed_of_error c hfirst
      · exact Component.failed_of_error_all cs h

end

end Blames

end HtmlComponents
