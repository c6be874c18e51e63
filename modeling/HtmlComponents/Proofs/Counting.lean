import HtmlComponents.Component.Parts
import HtmlComponents.Proofs.Delimiters
import HtmlComponents.Proofs.Succession
import Mathlib.Data.List.Sort

/-!
# What is expanded in a session, and how often

A session is a list of renders, each of which finds the hidden state that the one before it
has left. The composing components that a render reaches are told by its notes, and each of
them is expanded once: it is reported once, and it changes the hidden state once when it
derives its environment and once when it makes its body, finding what the component before it
has left (`Visit.outcome`). The leaves of a page may be such that what a render draws is out of
order, or that it goes on after a failure. If they are orderly, nothing is expanded behind the
first leaf that fails, and the error is that leaf's (`Visit.orderly`).

So a component that counts its own expansions in the hidden state counts through the whole
session. Which hidden state that is, and what else is kept in it, does not matter: `count`
reads the number from it, and every composing component in the session either is a counter
for this number or leaves it alone (`CountsBy`). Counters draw texts, and since the nodes of
orderly pages are created in document order, the texts of a page that was rendered are
consecutive numbers to anyone who walks through it.
-/

namespace HtmlComponents

open HtmlComponents.Markup HtmlComponents.Element

variable {κ σ : Type} [KeyFamily κ]

/-! ## Sessions -/

/-- One render of a session, with the hidden state that it finds. -/
structure Visit (κ σ : Type) [KeyFamily κ] where
  page : Component κ σ
  env : Environment κ
  found : σ

namespace Visit

variable (visit : Visit κ σ)

/-- What comes of the render. -/
def rendered : Rendered σ := renderFresh visit.page visit.env visit.found

/-- The stage on which the page is drawn. -/
def start : Stage σ := Stage.begun visit.page visit.found

/-- What the render answers and leaves behind, with the notes of it. -/
def noted : Except RenderError Unit × Noted κ σ :=
  visit.page.renderNoted visit.env root ⟨visit.start, []⟩

/-- The notes of the render. -/
def notes : List (Note κ σ) := visit.noted.2.notes

/-- The composing components that the render reaches, in order. -/
def reached : List (Occurrence κ σ) := occurrences visit.notes

end Visit

/-- The renders of pages one after the other. -/
def session (state : σ) : List (Component κ σ × Environment κ) → List (Visit κ σ)
  | [] => []
  | (page, env) :: rest =>
    let visit : Visit κ σ := ⟨page, env, state⟩
    visit :: session visit.rendered.hidden rest

/-! ## One render -/

theorem hidden_renderFresh (page : Component κ σ) (env : Environment κ) (state : σ) :
    (renderFresh page env state).hidden =
      (page.render env root (Stage.begun page state)).2.hidden := by
  rw [renderFresh_eq]
  rcases page.render env root (Stage.begun page state) with ⟨_ | _, after⟩ <;> rfl

theorem expansions_renderFresh (page : Component κ σ) (env : Environment κ) (state : σ) :
    (renderFresh page env state).events.filterMap RenderEvent.expanded? =
      (page.render env root (Stage.begun page state)).2.canvas.expansions := by
  rw [renderFresh_eq]
  rcases page.render env root (Stage.begun page state) with ⟨_ | _, after⟩
  · rfl
  · exact (Canvas.expansions_push after.markup after.markup _ _).trans (List.append_nil _)

namespace Visit

variable (visit : Visit κ σ)

theorem render_eq_noted :
    visit.page.render visit.env root visit.start = (visit.noted.1, visit.noted.2.stage) :=
  visit.page.render_eq_noted visit.env root ⟨visit.start, []⟩

theorem account {P : Occurrence κ σ → Prop} (h : visit.page.Throughout P) :
    Account P visit.start visit.noted.2.stage visit.notes := by
  obtain ⟨notes, hnotes, haccount⟩ :=
    Component.account_renderNoted h visit.env root ⟨visit.start, []⟩
  have hnotes : visit.notes = notes := hnotes
  rw [hnotes]
  exact haccount

/-- The composing components that a render reaches are expanded once each: the first one finds
the hidden state that the render finds, each other one what the one before it has left, and
the last one leaves what the render leaves; and each of them is reported once. They are
reached in the order of the nodes that follow. -/
theorem outcome :
    Threads visit.found visit.reached ∧
    visit.rendered.hidden = hiddenAfter visit.found visit.reached ∧
    visit.rendered.events.filterMap RenderEvent.expanded? =
      visit.reached.map Occurrence.name ∧
    visit.reached.Pairwise fun a b => a.next.number ≤ b.next.number := by
  have haccount := visit.account (Component.throughout_true visit.page)
  rw [rendered, hidden_renderFresh, expansions_renderFresh, ← start, render_eq_noted]
  exact ⟨haccount.threads, haccount.hidden, haccount.reported, haccount.ordered⟩

theorem result_eq :
    visit.rendered.result = visit.noted.1.map fun _ => visit.noted.2.stage.markup := by
  rw [rendered, result_renderFresh, ← start, render_eq_noted]

/-- The error of a render is that of a leaf, and of the one that has failed last. -/
theorem failed_of_error {e : RenderError} (h : visit.rendered.result = .error e) :
    ∃ notes name, visit.notes = notes ++ [.failed name e] := by
  rw [result_eq] at h
  rcases hnoted : visit.noted with ⟨answer, after⟩
  rw [hnoted] at h
  cases answer with
  | ok _ => cases h
  | error e' =>
      cases h
      rw [notes, hnoted]
      exact visit.page.failed_of_error hnoted

/-- The notes of an orderly page have the failures behind everything else, all of them with the
error of the render. A page that was rendered has nodes in document order. -/
theorem orderly (h : visit.page.Orderly) :
    ∃ front back, visit.notes = front ++ back ∧ Unfailing front ∧
      match visit.rendered.result with
      | .ok m => back = [] ∧ m.walk root = m.ids
      | .error e => back ≠ [] ∧ ∀ note ∈ back, note.error? = some e := by
  obtain ⟨notes, hnotes, htells⟩ :=
    Component.Orderly.passesOn visit.env root visit.page h ⟨visit.start, []⟩
  have hnotes : visit.notes = notes := hnotes
  have htells : Tells visit.noted.1 notes := htells
  have hresult := visit.result_eq
  rcases hnoted : visit.noted.1 with e | _ <;> rw [hnoted] at htells hresult <;>
    obtain ⟨front, back, rfl, hfront, hanswer⟩ := htells
  · have hresult : visit.rendered.result = .error e := hresult
    refine ⟨front, back, hnotes, hfront, ?_⟩
    rw [hresult]
    refine ⟨?_, hanswer⟩
    rintro rfl
    obtain ⟨notes, name, hfailed⟩ := visit.failed_of_error hresult
    have hmem : .failed name e ∈ front := by
      rw [← List.append_nil front, ← hnotes, hfailed]
      exact List.mem_append_right _ List.mem_cons_self
    exact nomatch hfront _ hmem
  · have hresult : visit.rendered.result = .ok _ := hresult
    refine ⟨front, back, hnotes, hfront, ?_⟩
    rw [hresult]
    exact ⟨hanswer, walk_renderFresh h hresult⟩

end Visit

/-- Through a session, too, each composing component finds what the one before it has left. -/
theorem threads_session (opening : σ) (pages : List (Component κ σ × Environment κ)) :
    Threads opening ((session opening pages).flatMap Visit.reached) := by
  induction pages generalizing opening with
  | nil => exact trivial
  | cons entry rest ih =>
      obtain ⟨page, env⟩ := entry
      rw [session, List.flatMap_cons, threads_append]
      obtain ⟨hthreads, hhidden, -⟩ := Visit.outcome ⟨page, env, opening⟩
      exact ⟨hthreads, hhidden ▸ ih _⟩

theorem found_eq_hiddenAfter {opening : σ} {pages : List (Component κ σ × Environment κ)}
    {before after : List (Visit κ σ)} {visit : Visit κ σ}
    (h : session opening pages = before ++ visit :: after) :
    visit.found = hiddenAfter opening (before.flatMap Visit.reached) := by
  induction before generalizing opening pages with
  | nil =>
      cases pages with
      | nil => cases h
      | cons entry rest =>
          cases h
          rfl
  | cons first before ih =>
      cases pages with
      | nil => cases h
      | cons entry rest =>
          obtain ⟨page, env⟩ := entry
          rw [session, List.cons_append, List.cons.injEq] at h
          obtain ⟨rfl, h⟩ := h
          have hhidden := (Visit.outcome ⟨page, env, opening⟩).2.1
          rw [ih h, List.flatMap_cons, hiddenAfter_append, hhidden]

/-! ## Counters -/

/-- The composing component leaves the number alone, or is a counter for it: it adds one, and
stands for a text that shows the new number. -/
def Occurrence.Honest (count : σ → Nat) (occurrence : Occurrence κ σ) : Prop :=
  count occurrence.left = count occurrence.found ∨
    count occurrence.left = count occurrence.found + 1 ∧
      occurrence.expansion = .text (toString (count occurrence.found + 1))

/-- Every composing component in the component, and in the bodies that come of it, is a
counter for the number or leaves it alone. -/
def Component.CountsBy (count : σ → Nat) (c : Component κ σ) : Prop :=
  c.Throughout (Occurrence.Honest count)

/-- The occurrences that change the number. -/
def tally (count : σ → Nat) (expanded : List (Occurrence κ σ)) : List (Occurrence κ σ) :=
  expanded.filter fun occurrence => count occurrence.left ≠ count occurrence.found

theorem tally_append (count : σ → Nat) (front back : List (Occurrence κ σ)) :
    tally count (front ++ back) = tally count front ++ tally count back := List.filter_append ..

section Counters

variable {count : σ → Nat} {state : σ} {expanded : List (Occurrence κ σ)}

/-- What changes the number shows the new one. -/
theorem expansion_of_mem_tally (honest : ∀ occurrence ∈ expanded, occurrence.Honest count)
    {occurrence : Occurrence κ σ} (h : occurrence ∈ tally count expanded) :
    occurrence.expansion = .text (toString (count occurrence.found + 1)) := by
  obtain ⟨hmem, hcounts⟩ := List.mem_filter.mp h
  rw [decide_eq_true_iff] at hcounts
  exact ((honest occurrence hmem).resolve_left hcounts).2

/-- Of composing components that find what the one before them has left, the counters find
consecutive numbers, and leave a number that is greater by as many as they are. -/
theorem tally_of_threads (hthreads : Threads state expanded)
    (honest : ∀ occurrence ∈ expanded, occurrence.Honest count) :
    (tally count expanded).map (fun occurrence => count occurrence.found) =
        List.range' (count state) (tally count expanded).length ∧
      count (hiddenAfter state expanded) = count state + (tally count expanded).length := by
  induction expanded generalizing state with
  | nil => exact ⟨rfl, rfl⟩
  | cons occurrence rest ih =>
      obtain ⟨rfl, hrest⟩ := hthreads
      obtain ⟨hfound, hafter⟩ := ih hrest fun other hother =>
        honest other (List.mem_cons_of_mem occurrence hother)
      have hhidden : hiddenAfter occurrence.found (occurrence :: rest) =
          hiddenAfter occurrence.left rest := rfl
      rw [hhidden, hafter]
      rcases honest occurrence List.mem_cons_self with hkeeps | ⟨hcounts, -⟩
      · have htally : tally count (occurrence :: rest) = tally count rest :=
          List.filter_cons_of_neg (by simp [hkeeps])
        rw [htally, hfound, hkeeps]
        exact ⟨rfl, rfl⟩
      · have htally : tally count (occurrence :: rest) = occurrence :: tally count rest :=
          List.filter_cons_of_pos (by simp [hcounts])
        rw [htally, List.map_cons, hfound, hcounts, List.length_cons, List.range'_succ]
        exact ⟨rfl, by omega⟩

/-- The `k`-th counter of all that are expanded shows how many there are up to it. -/
theorem expansion_of_getElem? (hthreads : Threads state expanded)
    (honest : ∀ occurrence ∈ expanded, occurrence.Honest count) {k : Nat}
    {occurrence : Occurrence κ σ} (hk : (tally count expanded)[k]? = some occurrence) :
    occurrence.expansion = .text (toString (count state + k + 1)) := by
  have hnumber := congrArg (·[k]?) (tally_of_threads hthreads honest).1
  obtain ⟨hlt, -⟩ := List.getElem?_eq_some_iff.mp hk
  simp only [List.getElem?_map, hk, List.getElem?_range' hlt, Option.map_some, Nat.one_mul,
    Option.some.injEq] at hnumber
  rw [expansion_of_mem_tally honest (List.mem_of_getElem? hk), hnumber]

end Counters

/-- Nodes with increasing numbers are found in this order among all the nodes. -/
theorem Markup.sublist_ids {m : Markup} {nodes : List NodeId}
    (hincreasing : nodes.Pairwise fun a b => a.number < b.number) (hsubset : nodes ⊆ m.ids) :
    nodes.Sublist m.ids := by
  have hantisymm : Std.Antisymm fun a b : NodeId => a.number < b.number :=
    ⟨fun _ _ hab hba => absurd hab (Nat.lt_asymm hba)⟩
  have hnodup : nodes.Nodup := hincreasing.imp fun hlt heq => Nat.ne_of_lt hlt (congrArg _ heq)
  exact List.sublist_of_subperm_of_pairwise (List.subperm_of_subset hnodup hsubset) hincreasing
    m.pairwise_ids

namespace Visit

variable {count : σ → Nat} {visit : Visit κ σ}

theorem honest_reached (h : visit.page.CountsBy count) :
    ∀ occurrence ∈ visit.reached, occurrence.Honest count :=
  (visit.account h).holds

/-- On an orderly page that was rendered the texts of counters are consecutive numbers, and
come in document order. -/
theorem counted_texts (hcounts : visit.page.CountsBy count) (horderly : visit.page.Orderly)
    {m : Markup} (hm : visit.rendered.result = .ok m) :
    ((tally count visit.reached).map Occurrence.next).Sublist (m.walk root) ∧
      (tally count visit.reached).map (fun counter => m.get? counter.next) =
        (List.range' (count visit.found + 1) (tally count visit.reached).length).map fun number =>
          some (.text (toString number)) := by
  have honest := honest_reached hcounts
  obtain ⟨front, back, hnotes, hfront, hrendered⟩ := visit.orderly horderly
  rw [hm] at hrendered
  obtain ⟨rfl, hwalk⟩ := hrendered
  have hmarkup : visit.noted.2.stage.markup = m := by
    have hresult := visit.result_eq
    rw [hm] at hresult
    cases hnoted : visit.noted.1 with
    | error e =>
        rw [hnoted] at hresult
        cases hresult
    | ok _ =>
        rw [hnoted] at hresult
        exact (Except.ok.inj hresult).symm
  have hunfailing : Unfailing visit.notes := by rwa [hnotes, List.append_nil]
  have hshown := (visit.account hcounts).shown hunfailing
  rw [hmarkup] at hshown
  have htext : ∀ counter ∈ tally count visit.reached,
      m.get? counter.next = some (.text (toString (count counter.found + 1))) :=
    fun counter hcounter => hshown.get? counter (List.mem_filter.mp hcounter).1 _
      (expansion_of_mem_tally honest hcounter)
  have hincreasing : (tally count visit.reached).Pairwise fun a b =>
      a.next.number < b.next.number := by
    refine (hshown.apart.filter _).imp_of_mem fun ha _ hlt => ?_
    exact hlt _ (expansion_of_mem_tally honest ha)
  refine ⟨?_, ?_⟩
  · have hpairwise : ((tally count visit.reached).map Occurrence.next).Pairwise
        fun a b => a.number < b.number := List.pairwise_map.mpr hincreasing
    have hsubset : (tally count visit.reached).map Occurrence.next ⊆ m.ids := by
      intro node hnode
      obtain ⟨counter, hcounter, rfl⟩ := List.mem_map.mp hnode
      exact mem_ids.mpr (contains_of_get? (htext counter hcounter))
    rw [hwalk]
    exact sublist_ids hpairwise hsubset
  · have hnumbers := (tally_of_threads visit.outcome.1 honest).1
    rw [List.map_congr_left htext, Nat.add_comm, ← List.map_add_range', ← hnumbers]
    simp only [List.map_map]
    exact List.map_congr_left fun counter _ => by
      rw [Function.comp_apply, Function.comp_apply, Nat.add_comm]

end Visit

/-! ## Through a session -/

section Session

variable {count : σ → Nat} {opening : σ} {pages : List (Component κ σ × Environment κ)}

theorem countsBy_of_mem_session (hpages : ∀ entry ∈ pages, entry.1.CountsBy count) :
    ∀ visit ∈ session opening pages, visit.page.CountsBy count := by
  induction pages generalizing opening with
  | nil => exact nofun
  | cons entry rest ih =>
      obtain ⟨page, env⟩ := entry
      intro visit hvisit
      rcases List.mem_cons.mp hvisit with rfl | hvisit
      · exact hpages _ List.mem_cons_self
      · exact ih (fun other hother => hpages other (List.mem_cons_of_mem _ hother)) visit hvisit

/-- What a render of a session finds is counted by the renders before it. -/
theorem count_found_of_session (hpages : ∀ entry ∈ pages, entry.1.CountsBy count)
    {before after : List (Visit κ σ)} {visit : Visit κ σ}
    (hsession : session opening pages = before ++ visit :: after) :
    count visit.found = count opening + (tally count (before.flatMap Visit.reached)).length := by
  have hthreads := threads_session opening pages
  rw [hsession, List.flatMap_append, threads_append] at hthreads
  have honest : ∀ occurrence ∈ before.flatMap Visit.reached, occurrence.Honest count := by
    intro occurrence hoccurrence
    obtain ⟨earlier, hearlier, hreached⟩ := List.mem_flatMap.mp hoccurrence
    have hmem : earlier ∈ session opening pages := hsession ▸ List.mem_append_left _ hearlier
    exact Visit.honest_reached (countsBy_of_mem_session hpages earlier hmem) occurrence hreached
  rw [found_eq_hiddenAfter hsession]
  exact (tally_of_threads hthreads.1 honest).2

end Session

/-- In a session of renders each render expands the composing components that it reaches once
each: deriving the environment and making the body find, once for each of them, the hidden
state that was left before, and what is left at last is what the render leaves. They are reported
in this order, and they come in the order of the nodes that are next when they come. A render
that fails has the error of the leaf that has failed last. If the leaves of the page are
orderly, nothing is reached behind the first leaf that fails; only the leaves around it fail
then, with the same error. And the nodes of a page that was rendered have document order.

Counters count through the session: the `k`-th one of all that are expanded shows the number
`k`, whatever renders have failed before it. A render finds the number of all counters that
were expanded before it, and leaves a number that is greater by as many as it reaches. On an
orderly page that was rendered the nodes of the counters come in the order of a walk through
the page, and their texts are the numbers that follow. -/
theorem expansions_in_order (opening : σ) (pages : List (Component κ σ × Environment κ)) :
    (∀ visit ∈ session opening pages,
      Threads visit.found visit.reached ∧
      visit.rendered.hidden = hiddenAfter visit.found visit.reached ∧
      visit.rendered.events.filterMap RenderEvent.expanded? =
        visit.reached.map Occurrence.name ∧
      (visit.reached.Pairwise fun a b => a.next.number ≤ b.next.number) ∧
      (∀ e, visit.rendered.result = .error e →
        ∃ notes name, visit.notes = notes ++ [.failed name e]) ∧
      (visit.page.Orderly → ∃ front back, visit.notes = front ++ back ∧ Unfailing front ∧
        match visit.rendered.result with
        | .ok m => back = [] ∧ m.walk root = m.ids
        | .error e => back ≠ [] ∧ ∀ note ∈ back, note.error? = some e)) ∧
    ∀ count : σ → Nat, (∀ entry ∈ pages, entry.1.CountsBy count) →
      (∀ (k : Nat) (occurrence : Occurrence κ σ),
        (tally count ((session opening pages).flatMap Visit.reached))[k]? = some occurrence →
          occurrence.expansion = .text (toString (count opening + k + 1))) ∧
      ∀ before visit after, session opening pages = before ++ visit :: after →
        let counted := count opening + (tally count (before.flatMap Visit.reached)).length
        let counters := tally count visit.reached
        count visit.found = counted ∧
        count visit.rendered.hidden = counted + counters.length ∧
        (visit.page.Orderly → ∀ m, visit.rendered.result = .ok m →
          (counters.map Occurrence.next).Sublist (m.walk root) ∧
          counters.map (fun counter => m.get? counter.next) =
            (List.range' (counted + 1) counters.length).map fun number =>
              some (.text (toString number))) := by
  refine ⟨fun visit _ => ?_, fun count hpages => ⟨fun k occurrence hk => ?_,
    fun before visit after hsession => ?_⟩⟩
  · obtain ⟨hthreads, hhidden, hevents, hordered⟩ := visit.outcome
    exact ⟨hthreads, hhidden, hevents, hordered, fun _ => visit.failed_of_error, visit.orderly⟩
  · refine expansion_of_getElem? (threads_session opening pages) (fun other hother => ?_) hk
    obtain ⟨visit, hvisit, hreached⟩ := List.mem_flatMap.mp hother
    exact Visit.honest_reached (countsBy_of_mem_session hpages visit hvisit) other hreached
  · have hmem : visit ∈ session opening pages :=
      hsession ▸ List.mem_append_right _ List.mem_cons_self
    have hpage := countsBy_of_mem_session hpages visit hmem
    obtain ⟨hthreads, hhidden, -⟩ := visit.outcome
    intro counted counters
    rw [hhidden]
    have hfound : count visit.found = counted := count_found_of_session hpages hsession
    rw [← hfound]
    exact ⟨rfl, (tally_of_threads hthreads (Visit.honest_reached hpage)).2,
      fun horderly m hm => Visit.counted_texts hpage horderly hm⟩

theorem Component.countsBy_counter (cell : Nat) :
    (counter cell : Component κ Cells).CountsBy fun cells => cells cell :=
  .composing (fun _ _ _ => .inr ⟨if_pos rfl, rfl⟩) fun _ _ => .text _

theorem Component.countsBy_failing (count : σ → Nat) (component message : String) :
    (failing component message : Component κ σ).CountsBy count := by
  refine .leaf fun _ => ?_
  rw [Stroke.programs, Stroke.program]
  exact .fail _

/-- Three pages with copies of a counter. The second one fails after one copy and before
another one. -/
theorem expansions_in_order_counter :
    let count : Component.Cells → Nat := fun cells => cells 0
    let copy : Component Empty Component.Cells := .counter 0
    let pages := [(.division ⟨[copy, .text "and", .group [copy]], none, []⟩, Environment.empty),
      (.group [copy, .failing "Form" "broken", copy], .empty), (copy, .empty)]
    (∀ entry ∈ pages, entry.1.CountsBy count) ∧
    ∃ first failed last, session Component.Cells.zero pages = [first, failed, last] ∧
      (∃ m, first.rendered.result = .ok m ∧
        (tally count first.reached).map (fun counter => m.get? counter.next) =
          [some (.text "1"), some (.text "2")]) ∧
      count failed.rendered.hidden = 3 ∧
      ∃ m, last.rendered.result = .ok m ∧
        (tally count last.reached).map (fun counter => m.get? counter.next) =
          [some (.text "4")] := by
  intro count copy pages
  have hcopy : copy.CountsBy count := Component.countsBy_counter 0
  have hpages : ∀ entry ∈ pages, entry.1.CountsBy count := by
    simp only [pages, List.forall_mem_cons, List.not_mem_nil, false_implies, implies_true, and_true]
    refine ⟨.division ?_, .group ?_, hcopy⟩
    all_goals
      simp only [List.forall_mem_cons, List.not_mem_nil, false_implies, implies_true, and_true]
    · exact ⟨hcopy, .text _, .group (List.forall_mem_singleton.mpr hcopy)⟩
    · exact ⟨hcopy, Component.countsBy_failing count _ _, hcopy⟩
  obtain ⟨-, hcounts⟩ := expansions_in_order Component.Cells.zero pages
  obtain ⟨-, hrenders⟩ := hcounts count hpages
  let first : Visit Empty Component.Cells := ⟨pages[0].1, .empty, Component.Cells.zero⟩
  let failed : Visit Empty Component.Cells := ⟨pages[1].1, .empty, first.rendered.hidden⟩
  let last : Visit Empty Component.Cells := ⟨pages[2].1, .empty, failed.rendered.hidden⟩
  have hsession : session Component.Cells.zero pages = [first, failed, last] := rfl
  have hfirst : (tally count first.reached).length = 2 := by decide +kernel
  have hfailed : (tally count failed.reached).length = 1 := by decide +kernel
  have hlast : (tally count last.reached).length = 1 := by decide +kernel
  have hrendered : ∀ visit : Visit Empty Component.Cells, visit.rendered.result.isOk = true →
      ∃ m, visit.rendered.result = .ok m := by
    intro visit hok
    cases hresult : visit.rendered.result with
    | error e =>
        rw [hresult] at hok
        cases hok
    | ok m => exact ⟨m, rfl⟩
  have horderly : copy.Orderly := .composing fun _ _ => .text _
  have hdivision : first.page.Orderly := by
    refine .division ?_
    simp only [List.forall_mem_cons, List.not_mem_nil, false_implies, implies_true, and_true]
    exact ⟨horderly, .text _, .group (List.forall_mem_singleton.mpr horderly)⟩
  refine ⟨hpages, first, failed, last, hsession, ?_, ?_, ?_⟩
  · obtain ⟨m, hm⟩ := hrendered first (by decide +kernel)
    obtain ⟨-, -, hpage⟩ := hrenders [] first [failed, last] hsession
    refine ⟨m, hm, ?_⟩
    rw [(hpage hdivision m hm).2, hfirst]
    decide
  · obtain ⟨-, hhidden, -⟩ := hrenders [first] failed [last] hsession
    rw [hhidden, List.flatMap_singleton, hfirst, hfailed]
    rfl
  · obtain ⟨m, hm⟩ := hrendered last (by decide +kernel)
    obtain ⟨-, -, hpage⟩ := hrenders [first, failed] last [] hsession
    refine ⟨m, hm, ?_⟩
    rw [(hpage horderly m hm).2, hlast, List.flatMap_cons, List.flatMap_singleton, tally_append,
      List.length_append, hfirst, hfailed]
    decide

/-- A leaf that goes on after a failure has a counter behind it expanded, and a leaf that fills
the second of its elements first has the second number written before the first one. A division
is a leaf as well, and fails if a child of it does: a counter in front of this child comes
behind the division and is expanded all the same. -/
theorem expansions_out_of_order :
    let copy : Component Empty Component.Cells := .counter 0
    let failing : Component Empty Component.Cells := .failing "Form" "broken"
    let undaunted : Component Empty Component.Cells := .leaf "Undaunted" fun env =>
      .render .here env failing fun _ => .render .here env copy fun _ => .done
    let backwards : Component Empty Component.Cells := .leaf "Backwards" fun env =>
      .element .here "p" fun _ => .element .here "p" fun _ =>
        .render (.own 1) env copy fun _ => .render (.own 0) env copy fun _ => .done
    let form : Component Empty Component.Cells := .division ⟨[copy, failing], none, []⟩
    (renderFresh undaunted .empty Component.Cells.zero).html {} = .ok "1" ∧
    (renderFresh backwards .empty Component.Cells.zero).html {} = .ok "<p>2</p><p>1</p>" ∧
    (session Component.Cells.zero [(form, .empty), (copy, .empty)]).map
      (fun visit => visit.rendered.html {}) =
        [.error (.component "Form" "broken"), .ok "2"] := by
  intro copy failing undaunted backwards form
  exact ⟨by decide +kernel, by decide +kernel, by decide +kernel⟩

end HtmlComponents
