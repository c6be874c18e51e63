import HtmlComponents.Proofs.Holding

/-!
# Wrapping components in batches

Wrapping a component in a batch of values is rendering it in the environment derived with
the batch, and everything else follows. Two wrappers are one, because two batches derived
one after the other are one. A group, a division or a label hands its own environment on to
its members, so that a wrapper around it may as well stand around each of the members.
The environments on the two sides are not the same, but nothing that is asked of them
tells them apart, and steady components do not more than ask.

Beside a wrapped member nothing changes, unless a leaf behind it looks around. That is not a
question of environments alone: the wrapped member draws other nodes than it would unwrapped,
and the members behind it are rendered in another tree. Those before it find the same tree and
draw the same nodes. Those behind it draw what they draw on pages of their own
(`shapesOfRows_contributions`), and whatever a member has drawn is left as it is by the members
that follow.
-/

namespace HtmlComponents

open HtmlComponents.Markup HtmlComponents.Element

variable {κ σ : Type} [KeyFamily κ]

/-! ## Pages that are written alike -/

/-- The page is written as the other page is, or fails with the same error. The hidden
states need not be the same. -/
def WrittenAs (env : Environment κ) (page : Component κ σ) (env' : Environment κ)
    (page' : Component κ σ) : Prop :=
  ∀ state state' options, (renderFresh page env state).html options =
    (renderFresh page' env' state').html options

theorem writtenAs_of_likewise {env env' : Environment κ} {page page' : Component κ σ}
    (h : Likewise (page.render env root) (page'.render env' root)) :
    WrittenAs env page env' page' := by
  intro state state' options
  obtain ⟨hanswer, hmarkup⟩ := h (Stage.begun page state) (Stage.begun page' state') rfl
  rw [Rendered.html, Rendered.html, result_renderFresh, result_renderFresh]
  simp only [hanswer.eq, hmarkup]

namespace Component

/-- A wrapped component does what the component does in the derived environment. -/
theorem Steady.likewise_withOverrides {c : Component κ σ} (hc : c.Steady)
    (batch : Overrides κ) (env : Environment κ) (p : NodeId) :
    Likewise ((c.withOverrides batch).render env p) (c.render (env.derive batch) p) := by
  intro stage stage' hmarkup
  rw [Component.withOverrides, render]
  exact hc.likewise (.refl _) p _ _ hmarkup

/-- Two wrappers are one wrapper, whose batch has the inner one's values last. -/
theorem Steady.likewise_withOverrides_withOverrides {c : Component κ σ} (hc : c.Steady)
    (inner outer : Overrides κ) (env : Environment κ) (p : NodeId) :
    Likewise (((c.withOverrides inner).withOverrides outer).render env p)
      ((c.withOverrides (.ofEntries (outer.entries ++ inner.entries))).render env p) := by
  have houter := (hc.withOverrides inner).likewise_withOverrides outer env p
  have hinner := hc.likewise_withOverrides inner (env.derive outer) p
  have hjoined := hc.likewise (env.indistinct_derive_derive outer inner) p
  exact ((houter.trans hinner).trans hjoined).trans
    (hc.likewise_withOverrides (.ofEntries (outer.entries ++ inner.entries)) env p).symm

/-- Members that are wrapped one by one do what they do in the derived environment. -/
theorem likewise_renderAll_withOverrides {cs : List (Component κ σ)} (hcs : ∀ c ∈ cs, c.Steady)
    (batch : Overrides κ) (env : Environment κ) (p : NodeId) :
    Likewise (renderAll (env.derive batch) p cs)
      (renderAll env p (cs.map (·.withOverrides batch))) := by
  induction cs with
  | nil => exact likewise_pure ()
  | cons c cs ih =>
      rw [List.map_cons, renderAll, renderAll]
      have hhead := (hcs c List.mem_cons_self).likewise_withOverrides batch env p
      exact hhead.symm.bind fun _ => ih fun d hd => hcs d (List.mem_cons_of_mem c hd)

end Component

/-- A wrapper around the holder is as good as a wrapper around each member. -/
theorem Holder.likewise_withOverrides (holder : Holder) {members : List (Component κ σ)}
    (h : ∀ c ∈ members, c.Steady) (batch : Overrides κ) (env : Environment κ) (p : NodeId) :
    Likewise (((holder.hold members).withOverrides batch).render env p)
      ((holder.hold (members.map (·.withOverrides batch))).render env p) := by
  refine ((holder.steady_hold h).likewise_withOverrides batch env p).trans ?_
  rw [Holder.render_hold, Holder.render_hold]
  exact (holder.likewise_enter p).bind fun node =>
    Component.likewise_renderAll_withOverrides h batch env node

/-! ## The laws -/

/-- Lists that differ in one place do not differ in another. -/
theorem getElem?_beside {α : Type} (front back : List α) (a b : α) {i : Nat}
    (hi : i ≠ front.length) : (front ++ a :: back)[i]? = (front ++ b :: back)[i]? := by
  rw [List.getElem?_append, List.getElem?_append]
  split
  · rfl
  · obtain ⟨place, hplace⟩ : ∃ place, i - front.length = place + 1 :=
      ⟨i - front.length - 1, by omega⟩
    rw [hplace, List.getElem?_cons_succ, List.getElem?_cons_succ]

namespace Component

/-- A wrapper around one member is not seen by the others. -/
theorem writeRows_contributions {c : Component κ σ} (batch : Overrides κ)
    (env : Environment κ) {front back : List (Component κ σ)}
    (hfront : ∀ d ∈ front, d.Steady) (hback : ∀ d ∈ back, d.Steady ∧ d.Local)
    (holder : Holder) {p : NodeId} {stage stage' after after' : Stage σ}
    (hm : stage.markup.WellFormed) (hsame : stage'.markup = stage.markup)
    (hp : stage.markup.appendRefusal? p = none)
    (h : (holder.hold (front ++ c :: back)).render env p stage = (.ok (), after))
    (h' : (holder.hold (front ++ c.withOverrides batch :: back)).render env p stage' =
      (.ok (), after')) :
    ∃ node begun begun',
      holder.enter p stage = (.ok node, begun) ∧ holder.enter p stage' = (.ok node, begun') ∧
      let rows := contributions env node (front ++ c :: back) begun
      let rows' := contributions env node (front ++ c.withOverrides batch :: back) begun'
      after.markup.children node = begun.markup.children node ++ rows.flatten ∧
      after'.markup.children node = begun'.markup.children node ++ rows'.flatten ∧
      ∀ options i, i ≠ front.length →
        (after.markup.writeRows rows options)[i]? =
          (after'.markup.writeRows rows' options)[i]? := by
  rw [Holder.render_hold] at h h'
  obtain ⟨node, begun, hbegun, h⟩ := bind_ok h
  obtain ⟨node', begun', hbegun', h'⟩ := bind_ok h'
  obtain ⟨hanswer, hmarkup⟩ := holder.likewise_enter p stage' stage hsame
  rw [hbegun, hbegun'] at hanswer hmarkup
  cases hanswer.eq
  have hleads := holder.runsCalls_enter p stage
  rw [hbegun] at hleads
  have hwell := hleads.wellFormed hm
  have hnode := Holder.appendRefusal?_enter hp hbegun
  obtain ⟨mid, row, hmid, hrows⟩ := shapesOfRows_around hback hwell hnode h stage.hidden
  obtain ⟨mid', row', hmid', hrows'⟩ := shapesOfRows_around hback (hmarkup.symm ▸ hwell)
    (hmarkup.symm ▸ hnode) h' stage.hidden
  -- the members in front of the wrapped one have made the same of the same tree
  have hsteady : (group front).Steady := .group (congruentAll_of_steady hfront)
  have hmids := (hsteady.likewise (.refl env) node begun' begun hmarkup).2
  rw [render, hmid, hmid'] at hmids
  have hmids : mid'.markup = mid.markup := hmids
  rw [hmids, contributions_congr hfront env node hmarkup] at hrows'
  refine ⟨node, begun, begun', hbegun, hbegun', children_renderAll h, children_renderAll h',
    fun options i hi => ?_⟩
  have hplace : i ≠ (mid.markup.shapesOfRows (contributions env node front begun)).length := by
    rwa [Markup.shapesOfRows, List.length_map, length_contributions]
  rw [Markup.writeRows_eq, Markup.writeRows_eq, hrows, hrows', List.getElem?_map,
    List.getElem?_map, getElem?_beside _ _ row row' hplace]

/-- How wrappers around steady components behave. An empty batch changes nothing; two
wrappers are one, in which the inner batch wins; a wrapper is a derived environment; and a
wrapper around a holder goes as well around each of the members. A wrapper around one member
does not change what another member writes, wherever the holder is rendered, as long as
both renders succeed and no leaf behind the wrapped member looks around. -/
theorem withOverrides_laws {c : Component κ σ} (hc : c.Steady) {cs : List (Component κ σ)}
    (hcs : ∀ d ∈ cs, d.Steady) (env : Environment κ) (a b : Overrides κ) :
    WrittenAs env (c.withOverrides .empty) env c ∧
    WrittenAs env ((c.withOverrides a).withOverrides b) env
      (c.withOverrides (.ofEntries (b.entries ++ a.entries))) ∧
    (∀ key value, a.lookup? key = some value →
      (env.derive (.ofEntries (b.entries ++ a.entries))).get key = value) ∧
    WrittenAs env (c.withOverrides a) (env.derive a) c ∧
    (∀ holder : Holder, WrittenAs env ((holder.hold cs).withOverrides a) env
      (holder.hold (cs.map (·.withOverrides a)))) ∧
    ∀ (holder : Holder) (front back : List (Component κ σ)),
      (∀ d ∈ front, d.Steady) → (∀ d ∈ back, d.Steady ∧ d.Local) →
      ∀ (p : NodeId) (stage stage' after after' : Stage σ), Reachable stage.markup →
        stage'.markup = stage.markup →
        (∃ data, stage.markup.get? p = some data ∧ data.isContainer = true) →
        (holder.hold (front ++ c :: back)).render env p stage = (.ok (), after) →
        (holder.hold (front ++ c.withOverrides a :: back)).render env p stage' =
          (.ok (), after') →
        ∃ node begun begun',
          holder.enter p stage = (.ok node, begun) ∧
          holder.enter p stage' = (.ok node, begun') ∧
          let rows := contributions env node (front ++ c :: back) begun
          let rows' := contributions env node (front ++ c.withOverrides a :: back) begun'
          after.markup.children node = begun.markup.children node ++ rows.flatten ∧
          after'.markup.children node = begun'.markup.children node ++ rows'.flatten ∧
          ∀ options i, i ≠ front.length →
            (after.markup.writeRows rows options)[i]? =
              (after'.markup.writeRows rows' options)[i]? := by
  refine ⟨?_, ?_, ?_, ?_, ?_, ?_⟩
  · have h := hc.likewise_withOverrides .empty env root
    rw [Environment.derive_empty] at h
    exact writtenAs_of_likewise h
  · exact writtenAs_of_likewise (hc.likewise_withOverrides_withOverrides a b env root)
  · intro key value hvalue
    have hderived := Environment.indistinct_iff.mp (env.indistinct_derive_derive b a) key
    rw [Environment.get, ← hderived, Environment.lookup?_derive, hvalue]
    rfl
  · exact writtenAs_of_likewise (hc.likewise_withOverrides a env root)
  · exact fun holder => writtenAs_of_likewise (holder.likewise_withOverrides hcs a env root)
  · intro holder front back hfront hback p stage stage' after after' hm hsame hp h h'
    exact writeRows_contributions a env hfront hback holder hm.wellFormed hsame
      (appendRefusal?_eq_none_iff.mpr hp) h h'

theorem exists_of_fst_eq {α β : Type} {x : α × β} {a : α} (h : x.1 = a) : ∃ b, x = (a, b) :=
  ⟨x.2, by rw [← h]⟩

theorem steady_choosing (batch : Overrides κ) {test : Environment κ → Bool}
    (htest : ∀ env env', env.Indistinct env' → test env = test env')
    {accepted rejected : Component κ σ} (haccepted : accepted.Steady)
    (hrejected : rejected.Steady) : (choosing batch test accepted rejected).Steady := by
  refine .composing _ (fun _ _ _ _ henv => henv.derive batch) fun env env' _ _ henv => ?_
  rw [htest env env' henv]
  split
  · exact haccepted
  · exact hrejected

/-- Three components in a division that say whether they are disabled, and the one in the
middle wrapped. Its neighbours write what they write beside an unwrapped one. -/
theorem withOverrides_laws_choosing :
    let probe : Component Empty Unit :=
      choosing .empty (fun env => env.formDisabled) (.text "off") (.text "on")
    let off : Overrides Empty := Overrides.empty.set .formDisabled true
    let holder := Holder.division none []
    let plain := [probe, probe, probe]
    let wrapped := [probe, probe.withOverrides off, probe]
    WrittenAs .empty ((holder.hold plain).withOverrides off) .empty
      (holder.hold (plain.map (·.withOverrides off))) ∧
    (renderFresh (holder.hold wrapped) .empty ()).html {} = .ok "<div>onoffon</div>" ∧
    ∃ node begun begun' after after',
      (holder.hold plain).render .empty root (Stage.fresh ()) = (.ok (), after) ∧
      (holder.hold wrapped).render .empty root (Stage.fresh ()) = (.ok (), after') ∧
      ∀ i, i ≠ 1 →
        (after.markup.writeRows (contributions .empty node plain begun) {})[i]? =
          (after'.markup.writeRows (contributions .empty node wrapped begun') {})[i]? := by
  intro probe off holder plain wrapped
  have hprobe : probe.Steady :=
    steady_choosing .empty (fun _ _ henv => henv.formDisabled) (.text "off") (.text "on")
  have hplain : ∀ d ∈ plain, d.Steady := fun d hd => by
    rw [List.eq_of_mem_replicate (n := 3) hd]
    exact hprobe
  have hlocal : probe.Local := .composing fun env _ => by
    dsimp only
    split
    · exact .text "off"
    · exact .text "on"
  have hok : ((holder.hold plain).render .empty root (Stage.fresh ())).1 = .ok () := by
    decide +kernel
  have hok' : ((holder.hold wrapped).render .empty root (Stage.fresh ())).1 = .ok () := by
    decide +kernel
  obtain ⟨after, hafter⟩ := exists_of_fst_eq hok
  obtain ⟨after', hafter'⟩ := exists_of_fst_eq hok'
  obtain ⟨-, -, -, -, hholder, hsiblings⟩ :=
    withOverrides_laws hprobe hplain .empty off .empty
  obtain ⟨node, begun, begun', -, -, -, -, hwritten⟩ :=
    hsiblings holder [probe] [probe] (List.forall_mem_singleton.mpr hprobe)
      (List.forall_mem_singleton.mpr ⟨hprobe, hlocal⟩) root (Stage.fresh ()) (Stage.fresh ())
      after after' .empty rfl ⟨.document, rfl, rfl⟩ hafter hafter'
  exact ⟨hholder holder, by decide +kernel, node, begun, begun', after, after', hafter, hafter',
    hwritten {}⟩

/-- A leaf that writes how many children its node has so far asks an environment for nothing,
and yet writes something else behind a member that is wrapped. A component that hides a counter
does so, too, behind a member that counts with the same counter when it is wrapped. -/
theorem withOverrides_laws_ruler :
    let ruler : Component Empty Unit := .leaf "Ruler" fun _ => .look fun m p _ =>
      .text .here (toString (m.children p).length) fun _ => .done
    let silent : Component Empty Unit :=
      choosing .empty (fun env => env.formDisabled) .empty (.text "on")
    let counting : Component Empty Cells :=
      choosing .empty (fun env => env.formDisabled) (counter 0) (.text "-")
    let off : Overrides Empty := Overrides.empty.set .formDisabled true
    (ruler.Steady ∧ silent.Steady ∧
      (renderFresh (.group [silent, ruler]) .empty ()).html {} = .ok "on1" ∧
      (renderFresh (.group [silent.withOverrides off, ruler]) .empty ()).html {} = .ok "0") ∧
    (renderFresh (.group [counting, counter 0]) .empty Cells.zero).html {} = .ok "-1" ∧
    (renderFresh (.group [counting.withOverrides off, counter 0]) .empty Cells.zero).html {} =
      .ok "12" := by
  intro ruler silent counting off
  have hruler : ruler.Steady := .leaf _ fun _ _ _ => .look fun _ _ _ => .text _ _ fun _ => .done
  have hsilent : silent.Steady :=
    steady_choosing .empty (fun _ _ henv => henv.formDisabled) (.group .nil) (.text "on")
  exact ⟨⟨hruler, hsilent, by decide +kernel, by decide +kernel⟩, by decide +kernel,
    by decide +kernel⟩

end Component

end HtmlComponents
