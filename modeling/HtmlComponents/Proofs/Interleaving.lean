import Mathlib
import HtmlComponents.Proofs.Writers

/-!
# No torn files

While writers are at work the output is whole. It changes when somebody renames, and what
is moved there is a complete file. For that to be true at a rename, nobody may have
written to the temporary file but the writer who created it, and nobody may have removed
it; and this is so because places are told apart by tickets.

`Intact` says at once what is at the output, what is in the temporary files of
writers at work, and that nothing else has changed. A step of one writer can harm it in
few ways, and `Tidy` lists what is asked of the step. Whatever is `Tidy` keeps `Intact`,
and it remains to look at the steps one by one.
-/

namespace HtmlComponents.Style

open HtmlComponents.FileSystem

namespace Writers

variable {ι : Type} [DecidableEq ι] {jobs : ι → Job} {process first : Nat}
  {files : FileSystem} {target : Location} {s s' : Writers ι}

/-! ## The output and what is beside it -/

/-- What stands at the place where a writer writes, as far as the writer has come. -/
def Sound (job : Job) (process : Nat) (files now : FileSystem) : Phase → Prop
  | .writing ticket location left =>
    location = job.place files process ticket ∧
      files.Reaches (job.temporary process ticket) location ∧
      ∃ done, now.node? location = some (.file done) ∧ done ++ left = job.content
  | .cleaning ticket =>
    now.node? (job.place files process ticket) = none ∨
      files.Reaches (job.temporary process ticket) (job.place files process ticket) ∧
      ∃ done, now.node? (job.place files process ticket) = some (.file done)
  | .waiting | .holding _ | .finished _ _ => True

/-- The output holds what the last writer that renamed has written, and everything else is as
it was, but for the temporary files of writers at work. -/
structure Intact (jobs : ι → Job) (process : Nat) (files : FileSystem) (target : Location)
    (s : Writers ι) : Prop where
  working : s.files.working = files.working
  directories : ∀ location, s.files.isDirectoryAt location = files.isDirectoryAt location
  output : s.files.node? target =
    match s.renamed with
    | [] => files.node? target
    | i :: _ => some (.file (jobs i).content)
  rest : ∀ location, location ≠ target →
    (∀ i ticket, (s.phase i).open? = some ticket →
      location ≠ (jobs i).place files process ticket) →
    s.files.node? location = files.node? location
  sound : ∀ i, Sound (jobs i) process files s.files (s.phase i)
  renamed : ∀ i, i ∈ s.renamed ↔ ∃ ticket, s.phase i = .finished ticket true

theorem sound_congr {job : Job} {now now' : FileSystem} {phase : Phase}
    (h : ∀ ticket, phase.open? = some ticket → now'.node? (job.place files process ticket) =
      now.node? (job.place files process ticket))
    (hsound : Sound job process files now phase) : Sound job process files now' phase := by
  cases phase with
  | waiting => trivial
  | holding => trivial
  | finished => trivial
  | writing ticket location left =>
      obtain ⟨hlocation, hreach, hdone⟩ := hsound
      refine ⟨hlocation, hreach, ?_⟩
      rw [hlocation, h ticket rfl, ← hlocation]
      exact hdone
  | cleaning ticket =>
      rw [Sound, h ticket rfl]
      exact hsound

omit [DecidableEq ι] in
/-- Writers with different tickets write in different places. -/
theorem ticket_eq_of_place (htarget : ∀ i, files.locate (jobs i).output = target) {i j : ι}
    {ticket ticket' : Nat} (h : (jobs i).place files process ticket =
      (jobs j).place files process ticket') : ticket = ticket' := by
  rw [Job.place_eq, Job.place_eq, htarget, htarget] at h
  exact (temporaryName_inj.mp (List.cons.inj (List.append_cancel_left h)).1).2.2

omit [DecidableEq ι] in
theorem place_ne_target (htarget : ∀ i, files.locate (jobs i).output = target) (i : ι)
    (ticket : Nat) : (jobs i).place files process ticket ≠ target :=
  htarget i ▸ (jobs i).place_ne files process ticket

/-- What a step has to keep to. It works at the writer's own place, and at the output when
it renames; it cleans up that place unless the writer goes on. -/
structure Tidy (jobs : ι → Job) (process : Nat) (files : FileSystem) (target : Location)
    (s : Writers ι) (i : ι) (phase : Phase) (now : FileSystem) : Prop where
  working : now.working = s.files.working
  directories : ∀ location, now.isDirectoryAt location = s.files.isDirectoryAt location
  rest : ∀ location, location ≠ target →
    (∀ ticket, (s.phase i).ticket? = some ticket →
      location ≠ (jobs i).place files process ticket) →
    now.node? location = s.files.node? location
  cleaned : ∀ ticket, (s.phase i).ticket? = some ticket → phase.open? = none →
    now.node? ((jobs i).place files process ticket) =
      files.node? ((jobs i).place files process ticket)
  taken : ∀ ticket, phase.open? = some ticket → (s.phase i).ticket? = some ticket
  sound : Sound (jobs i) process files now phase

theorem Intact.advance {i : ι} {phase : Phase} {now : FileSystem} {renamed : List ι}
    (htarget : ∀ i, files.locate (jobs i).output = target) (hticketed : Ticketed first s)
    (hs : Intact jobs process files target s)
    (htidy : Tidy jobs process files target s i phase now)
    (houtput : now.node? target =
      match renamed with
      | [] => files.node? target
      | i :: _ => some (.file (jobs i).content))
    (hunfinished : ∀ ticket, s.phase i ≠ .finished ticket true)
    (hrenamed : ∀ j, j ∈ renamed ↔
      j ∈ s.renamed ∨ j = i ∧ ∃ ticket, phase = .finished ticket true) :
    Intact jobs process files target (s.advance i phase now renamed) where
  working := htidy.working.trans hs.working
  directories location := (htidy.directories location).trans (hs.directories location)
  output := houtput
  rest location hother hfree := by
    by_cases hown : ∃ ticket, (s.phase i).ticket? = some ticket ∧
        location = (jobs i).place files process ticket
    · obtain ⟨ticket, hticket, hlocation⟩ := hown
      rw [hlocation] at hfree ⊢
      refine htidy.cleaned ticket hticket ?_
      cases hopen : phase.open? with
      | none => rfl
      | some ticket' =>
          cases hticket.symm.trans (htidy.taken ticket' hopen)
          exact absurd rfl (hfree i ticket (by rw [phase_advance_self, hopen]))
    · have hapart : ∀ ticket, (s.phase i).ticket? = some ticket →
          location ≠ (jobs i).place files process ticket := fun ticket hticket hlocation =>
        hown ⟨ticket, hticket, hlocation⟩
      refine (htidy.rest location hother hapart).trans (hs.rest location hother ?_)
      intro j ticket hj
      by_cases hji : j = i
      · exact hji ▸ hapart ticket (hji ▸ Phase.ticket?_of_open? hj)
      · exact hfree j ticket (by rw [phase_advance_of_ne hji, hj])
  sound j := by
    by_cases hji : j = i
    · rw [hji, phase_advance_self]
      exact htidy.sound
    · rw [phase_advance_of_ne hji]
      refine sound_congr (fun ticket hj => ?_) (hs.sound j)
      refine htidy.rest _ (place_ne_target htarget j ticket) ?_
      -- another writer has another ticket, and so another place
      intro ticket' hi hplace
      rw [← ticket_eq_of_place htarget hplace] at hi
      exact hji (hticketed.injective j i ticket (Phase.ticket?_of_open? hj) hi)
  renamed j := by
    by_cases hji : j = i
    · subst hji
      rw [phase_advance_self, renamed_advance, hrenamed, hs.renamed]
      refine ⟨fun h => ?_, fun h => .inr ⟨rfl, h⟩⟩
      rcases h with ⟨ticket, hticket⟩ | ⟨-, h⟩
      · exact absurd hticket (hunfinished ticket)
      · exact h
    · rw [phase_advance_of_ne hji, ← hs.renamed, renamed_advance, hrenamed]
      exact ⟨fun h => h.resolve_right fun h => hji h.1, .inl⟩

section

omit [DecidableEq ι]

theorem Intact.locate (hs : Intact jobs process files target s) (path : Path) :
    s.files.locate path = files.locate path :=
  locate_eq_of_working hs.working

theorem Intact.reaches (hs : Intact jobs process files target s) (path : Path)
    (location : Location) : s.files.Reaches path location ↔ files.Reaches path location :=
  ⟨.congr hs.working.symm fun place hplace => by rwa [hs.directories] at hplace,
    .congr hs.working fun place hplace => by rwa [hs.directories]⟩

end

/-! ## What each step keeps -/

section

variable (htarget : ∀ i, files.locate (jobs i).output = target)
  (hnew : ∀ i ticket, first ≤ ticket →
    files.node? ((jobs i).place files process ticket) = none)
  (hticketed : Ticketed first s) (hs : Intact jobs process files target s)

include htarget hticketed hs

/-- A writer that leaves the files alone. -/
theorem Intact.quiet {i : ι} {phase : Phase}
    (hopen : ∀ ticket, (s.phase i).ticket? = some ticket → phase.open? ≠ none)
    (htaken : ∀ ticket, phase.open? = some ticket → (s.phase i).ticket? = some ticket)
    (hsound : Sound (jobs i) process files s.files phase)
    (hunfinished : ∀ ticket, s.phase i ≠ .finished ticket true ∧ phase ≠ .finished ticket true) :
    Intact jobs process files target (s.advance i phase s.files s.renamed) := by
  refine hs.advance htarget hticketed ?_ hs.output (fun ticket => (hunfinished ticket).1)
    fun j => ?_
  · exact {
      working := rfl
      directories := fun _ => rfl
      rest := fun _ _ _ => rfl
      cleaned := fun ticket hticket hclosed => absurd hclosed (hopen ticket hticket)
      taken := htaken
      sound := hsound }
  · exact ⟨.inl, fun h => h.resolve_right fun ⟨_, ticket, hticket⟩ =>
      (hunfinished ticket).2 hticket⟩

/-- A writer that puts something into its own file. -/
theorem Intact.put {i : ι} {ticket : Nat} {location : Location} {content left : ByteArray}
    (hticket : (s.phase i).ticket? = some ticket)
    (hlocation : location = (jobs i).place files process ticket)
    (hreach : files.Reaches ((jobs i).temporary process ticket) location)
    (hfree : s.files.node? location ≠ some .directory)
    (hcontent : content ++ left = (jobs i).content)
    (hunfinished : ∀ ticket, s.phase i ≠ .finished ticket true) :
    Intact jobs process files target (s.advance i (.writing ticket location left)
      (s.files.put location (.file content)) s.renamed) := by
  have hother : location ≠ target := hlocation ▸ place_ne_target htarget i ticket
  refine hs.advance htarget hticketed ?_ ?_ hunfinished (by simp)
  · exact {
      working := rfl
      directories := isDirectoryAt_put_file hreach.ne_nil hfree content
      rest := fun place _ hplace => by
        rw [node?_put hreach.ne_nil, if_neg (hlocation ▸ hplace ticket hticket)]
      cleaned := fun _ _ => nofun
      taken := fun _ h => h ▸ hticket
      sound := ⟨hlocation, hreach, content, by rw [node?_put hreach.ne_nil, if_pos rfl],
        hcontent⟩ }
  · rw [node?_put hreach.ne_nil, if_neg hother.symm]
    exact hs.output

theorem Intact.create {i : ι} {ticket : Nat} {location : Location} {now : FileSystem}
    (hphase : s.phase i = .holding ticket)
    (hcreate : createFile ((jobs i).temporary process ticket) s.files = (.ok location, now)) :
    Intact jobs process files target
      (s.advance i (.writing ticket location (jobs i).content) now s.renamed) := by
  obtain ⟨hreach, -, hfree, rfl⟩ := createFile_eq_ok_iff.mp hcreate
  exact hs.put htarget hticketed (by rw [hphase]; rfl) (hreach.eq.trans (hs.locate _))
    ((hs.reaches _ _).mp hreach) hfree ByteArray.empty_append (by simp [hphase])

theorem Intact.write {i : ι} {ticket : Nat} {location : Location} {piece left : ByteArray}
    {now : FileSystem} (hphase : s.phase i = .writing ticket location (piece ++ left))
    (hwrite : appendBytes location piece s.files = (.ok (), now)) :
    Intact jobs process files target
      (s.advance i (.writing ticket location left) now s.renamed) := by
  obtain ⟨content, hfile, rfl⟩ := appendBytes_eq_ok_iff.mp hwrite
  have hsound := hs.sound i
  rw [hphase] at hsound
  obtain ⟨hlocation, hreach, done, hdone, hcontent⟩ := hsound
  cases hfile.symm.trans hdone
  refine hs.put htarget hticketed (by rw [hphase]; rfl) hlocation hreach (by simp [hfile]) ?_
    (by simp [hphase])
  rw [ByteArray.append_assoc, hcontent]

include hnew in
theorem Intact.rename {i : ι} {ticket : Nat} {location : Location} {now : FileSystem}
    (hphase : s.phase i = .writing ticket location ByteArray.empty)
    (hrename : renameFile ((jobs i).temporary process ticket) (jobs i).output s.files =
      (.ok (), now)) :
    Intact jobs process files target
      (s.advance i (.finished ticket true) now (i :: s.renamed)) := by
  obtain ⟨hreach, hreach', -, -, hfree, content, hfile, rfl⟩ := renameFile_eq_ok_iff.mp hrename
  have hsound := hs.sound i
  rw [hphase] at hsound
  obtain ⟨hlocation, -, done, hdone, hcontent⟩ := hsound
  have hplace : s.files.locate ((jobs i).temporary process ticket) =
      (jobs i).place files process ticket := hs.locate _
  have houtput : s.files.locate (jobs i).output = target := (hs.locate _).trans (htarget i)
  rw [hplace, ← hlocation] at hfile hreach ⊢
  rw [houtput] at hfree hreach' ⊢
  cases hfile.symm.trans hdone
  rw [ByteArray.append_empty] at hcontent
  have hticket : (s.phase i).ticket? = some ticket := by rw [hphase]; rfl
  have hother : location ≠ target := hlocation ▸ place_ne_target htarget i ticket
  refine hs.advance htarget hticketed ?_ ?_ (by simp [hphase]) ?_
  · exact {
      working := rfl
      directories := fun place => by
        have hfree' : (s.files.clear location).node? target ≠ some .directory := by
          rwa [node?_clear hreach.ne_nil, if_neg hother.symm]
        rw [isDirectoryAt_put_file hreach'.ne_nil hfree',
          isDirectoryAt_clear hreach.ne_nil (by simp [hdone])]
      rest := fun place hne hplace => by
        rw [node?_put hreach'.ne_nil, if_neg hne, node?_clear hreach.ne_nil,
          if_neg (hlocation ▸ hplace ticket hticket)]
      cleaned := fun ticket' hticket' _ => by
        cases hticket.symm.trans hticket'
        rw [← hlocation, node?_put hreach'.ne_nil, if_neg hother, node?_clear hreach.ne_nil,
          if_pos rfl, hlocation, hnew i ticket (hticketed.bounds i ticket hticket).1]
      taken := fun _ => nofun
      sound := trivial }
  · rw [node?_put hreach'.ne_nil, if_pos rfl, hcontent]
  · intro j
    rw [List.mem_cons, or_comm]
    exact or_congr_right ⟨fun h => ⟨h, ticket, rfl⟩, And.left⟩

include hnew in
theorem Intact.clean {i : ι} {ticket : Nat} {answer : Except Fault Unit} {now : FileSystem}
    (hphase : s.phase i = .cleaning ticket)
    (hremove : removeFile ((jobs i).temporary process ticket) s.files = (answer, now)) :
    Intact jobs process files target (s.advance i (.finished ticket false) now s.renamed) := by
  have hplace : s.files.locate ((jobs i).temporary process ticket) =
      (jobs i).place files process ticket := hs.locate _
  have hticket : (s.phase i).ticket? = some ticket := by rw [hphase]; rfl
  have hfresh := hnew i ticket (hticketed.bounds i ticket hticket).1
  have hsound := hs.sound i
  rw [hphase] at hsound
  have hclean : now = s.files ∧ s.files.node? ((jobs i).place files process ticket) = none ∨
      now = s.files.clear ((jobs i).place files process ticket) ∧
        (jobs i).place files process ticket ≠ [] ∧
        ∃ done, s.files.node? ((jobs i).place files process ticket) = some (.file done) := by
    cases answer with
    | ok =>
        obtain ⟨hreach, -, hdone, rfl⟩ := removeFile_eq_ok_iff.mp hremove
        rw [hplace] at hreach hdone ⊢
        exact .inr ⟨rfl, hreach.ne_nil, hdone⟩
    | error fault =>
        refine .inl ⟨removeFile_error hremove, hsound.resolve_right ?_⟩
        -- a file that is there is removed
        rintro ⟨hreach, hdone⟩
        have hok := removeFile_eq_ok_iff.mpr ⟨hplace ▸ (hs.reaches _ _).mpr hreach,
          (jobs i).asksForDirectory_temporary process ticket, hplace ▸ hdone, rfl⟩
        cases hremove.symm.trans hok
  rcases hclean with ⟨rfl, hnone⟩ | ⟨rfl, hsome, done, hdone⟩
  · refine hs.advance htarget hticketed ?_ hs.output (by simp [hphase]) (by simp)
    exact {
      working := rfl
      directories := fun _ => rfl
      rest := fun _ _ _ => rfl
      cleaned := fun ticket' hticket' _ => by
        cases hticket.symm.trans hticket'
        rw [hnone, hfresh]
      taken := fun _ => nofun
      sound := trivial }
  · refine hs.advance htarget hticketed ?_ ?_ (by simp [hphase]) (by simp)
    · exact {
        working := rfl
        directories := isDirectoryAt_clear hsome (by simp [hdone])
        rest := fun place _ hapart => by
          rw [node?_clear hsome, if_neg (hapart ticket hticket)]
        cleaned := fun ticket' hticket' _ => by
          cases hticket.symm.trans hticket'
          rw [node?_clear hsome, if_pos rfl, hfresh]
        taken := fun _ => nofun
        sound := trivial }
    · rw [node?_clear hsome, if_neg (place_ne_target htarget i ticket).symm]
      exact hs.output

theorem Intact.take {i : ι} (hphase : s.phase i = .waiting) :
    Intact jobs process files target
      { s.advance i (.holding s.ticket) s.files s.renamed with ticket := s.ticket + 1 } := by
  have hquiet : Intact jobs process files target
      (s.advance i (.holding s.ticket) s.files s.renamed) := by
    refine hs.quiet htarget hticketed (fun ticket hticket => ?_) (fun _ => nofun) trivial
      (by simp [hphase])
    rw [hphase] at hticket
    cases hticket
  exact ⟨hquiet.working, hquiet.directories, hquiet.output, hquiet.rest, hquiet.sound,
    hquiet.renamed⟩

include hnew in
theorem Intact.fail {i : ι} {ticket : Nat}
    (hphase : s.phase i = .holding ticket ∨
      ∃ location left, s.phase i = .writing ticket location left) :
    Intact jobs process files target (s.advance i (.cleaning ticket) s.files s.renamed) := by
  have hticket : (s.phase i).ticket? = some ticket := by
    rcases hphase with hphase | ⟨location, left, hphase⟩ <;> rw [hphase] <;> rfl
  refine hs.quiet htarget hticketed (fun _ _ => nofun) (fun _ h => h ▸ hticket) ?_
    (by rcases hphase with hphase | ⟨location, left, hphase⟩ <;> simp [hphase])
  rcases hphase with hphase | ⟨location, left, hphase⟩
  · -- nothing was created, and nobody else has written there
    refine .inl ((hs.rest _ (place_ne_target htarget i ticket) ?_).trans
      (hnew i ticket (hticketed.bounds i ticket hticket).1))
    intro j ticket' hj hplace
    have hj' := Phase.ticket?_of_open? hj
    rw [← ticket_eq_of_place htarget hplace] at hj'
    rw [hticketed.injective j i ticket hj' hticket, hphase] at hj
    cases hj
  · have hsound := hs.sound i
    rw [hphase] at hsound
    obtain ⟨hlocation, hreach, done, hdone, -⟩ := hsound
    exact .inr ⟨hlocation ▸ hreach, done, hlocation ▸ hdone⟩

include hnew in
theorem Intact.step (h : Step jobs process s s') : Intact jobs process files target s' := by
  cases h with
  | take hphase => exact hs.take htarget hticketed hphase
  | create hphase hcreate => exact hs.create htarget hticketed hphase hcreate
  | write hphase hwrite => exact hs.write htarget hticketed hphase hwrite
  | rename hphase hrename => exact hs.rename htarget hnew hticketed hphase hrename
  | fail hphase => exact hs.fail htarget hnew hticketed hphase
  | clean hphase hremove => exact hs.clean htarget hnew hticketed hphase hremove

end

/-! ## Whole runs -/

omit [DecidableEq ι] in
theorem intact_idle : Intact jobs process files target (idle files first) :=
  ⟨rfl, fun _ => rfl, rfl, fun _ _ _ => rfl, fun _ => trivial, fun _ => by simp [idle]⟩

theorem intact_of_run (htarget : ∀ i, files.locate (jobs i).output = target)
    (hnew : ∀ i ticket, first ≤ ticket →
      files.node? ((jobs i).place files process ticket) = none)
    (h : Relation.ReflTransGen (Step jobs process) (idle files first) s) :
    Intact jobs process files target s := by
  induction h with
  | refl => exact intact_idle
  | tail hrun hstep ih => exact ih.step htarget hnew (ticketed_of_run hrun) hstep

/-- Writers at work at the same time never expose a torn stylesheet, whatever the order of
their steps. No two of them use the same temporary name, not even for different outputs, and
a temporary file is beside the output. If all write the same output, it holds at every moment
what it held at the start or all of what one of them writes; and when they are done it holds
what the last one that renamed has written, and nothing else is left of them. -/
theorem run_never_tears
    (h : Relation.ReflTransGen (Step jobs process) (idle files first) s) :
    (∀ i j ticket ticket', i ≠ j → (s.phase i).ticket? = some ticket →
      (s.phase j).ticket? = some ticket' →
      temporaryName (jobs i).name process ticket ≠
        temporaryName (jobs j).name process ticket') ∧
    (∀ i ticket, files.locate ((jobs i).temporary process ticket) ≠
        files.locate (jobs i).output ∧
      (files.locate ((jobs i).temporary process ticket)).dropLast =
        (files.locate (jobs i).output).dropLast) ∧
    ∀ target, (∀ i, files.locate (jobs i).output = target) →
      (∀ i ticket, first ≤ ticket →
        files.node? (files.locate ((jobs i).temporary process ticket)) = none) →
      (s.files.node? target = files.node? target ∨
        ∃ i, s.files.node? target = some (.file (jobs i).content)) ∧
      ((∀ i, ∃ ticket succeeded, s.phase i = .finished ticket succeeded) →
        (∀ i ticket, s.phase i = .finished ticket true →
          ∃ last ticket' earlier, s.renamed = last :: earlier ∧
            s.phase last = .finished ticket' true ∧
            s.files.node? target = some (.file (jobs last).content)) ∧
        ∀ location, location ≠ target → s.files.node? location = files.node? location) := by
  have hticketed := ticketed_of_run h
  refine ⟨fun i j ticket ticket' hne hi hj hname => ?_, fun i ticket => ⟨?_, ?_⟩,
    fun target htarget hnew => ?_⟩
  · obtain ⟨-, -, rfl⟩ := temporaryName_inj.mp hname
    exact hne (hticketed.injective i j ticket hi hj)
  · exact (jobs i).place_ne files process ticket
  · change ((jobs i).place files process ticket).dropLast = _
    rw [Job.place_eq, List.dropLast_concat]
  have hs := intact_of_run htarget hnew h
  refine ⟨?_, fun hdone => ⟨fun i ticket hi => ?_, fun location hother => ?_⟩⟩
  · have houtput := hs.output
    split at houtput
    · exact .inl houtput
    · next i _ _ => exact .inr ⟨i, houtput⟩
  · have hmem := (hs.renamed i).mpr ⟨ticket, hi⟩
    have houtput := hs.output
    cases hrenamed : s.renamed with
    | nil =>
        rw [hrenamed] at hmem
        cases hmem
    | cons last earlier =>
        rw [hrenamed] at houtput
        obtain ⟨ticket', hlast⟩ := (hs.renamed last).mp (hrenamed ▸ List.mem_cons_self)
        exact ⟨last, ticket', earlier, rfl, hlast, houtput⟩
  · refine hs.rest location hother fun i ticket hi => ?_
    obtain ⟨ticket', succeeded, hphase⟩ := hdone i
    rw [hphase] at hi
    cases hi

/-- Two writers of one file. -/
def sampleJobs (i : Bool) : Job where
  output := ⟨"o"⟩
  name := "o"
  named := by decide +kernel
  content := (if i then "one" else "two").toUTF8

/-- Both take a ticket, and then the one with the later ticket writes first. -/
theorem run_never_tears_two : ∃ s : Writers Bool,
    Relation.ReflTransGen (Step sampleJobs 0) (idle (ofWorking "w") 0) s ∧
      (∀ i, ∃ ticket, s.phase i = .finished ticket true) ∧
      s.files.node? ["w", "o"] = some (.file "two".toUTF8) ∧
      ∀ location, location ≠ ["w", "o"] →
        s.files.node? location = (ofWorking "w").node? location := by
  have htarget : ∀ i, (ofWorking "w").locate (sampleJobs i).output = ["w", "o"] := by
    intro i
    change (ofWorking "w").locate ⟨"o"⟩ = _
    rw [locate, start_eq_working _ (by decide +kernel)]
    decide +kernel
  have hnew : ∀ i ticket, 0 ≤ ticket → (ofWorking "w").node?
      ((ofWorking "w").locate ((sampleJobs i).temporary 0 ticket)) = none := by
    intro i ticket _
    change (ofWorking "w").node? ((sampleJobs i).place (ofWorking "w") 0 ticket) = none
    rw [Job.place_eq, htarget]
    simp [ofWorking, node?]
  have htemporary : (sampleJobs true).temporary 0 1 = ⟨".o.0.1.tmp"⟩ := by decide +kernel
  have htemporary' : (sampleJobs false).temporary 0 0 = ⟨".o.0.0.tmp"⟩ := by decide +kernel
  have hfirst : replaceFile (sampleJobs true).output ((sampleJobs true).temporary 0 1)
      (sampleJobs true).content (ofWorking "w") =
        (.ok (), (ofWorking "w").put ["w", "o"] (.file "one".toUTF8)) := by
    rw [htemporary]
    cbv
  have hsecond : replaceFile (sampleJobs false).output ((sampleJobs false).temporary 0 0)
      (sampleJobs false).content ((ofWorking "w").put ["w", "o"] (.file "one".toUTF8)) =
        (.ok (), (ofWorking "w").put ["w", "o"] (.file "two".toUTF8)) := by
    rw [htemporary']
    cbv
  have htaken : Step sampleJobs 0 (idle (ofWorking "w") 0) _ := .take (i := false) rfl
  have hrun := (Relation.ReflTransGen.single htaken).tail (.take (i := true) rfl)
  have hrun' := (hrun.trans (run_alone (i := true) rfl hfirst)).trans
    (run_alone (i := false) rfl hsecond)
  have hsafe := (run_never_tears hrun').2.2 ["w", "o"] htarget hnew
  have hdone := hsafe.2 fun i => by
    cases i with
    | false => exact ⟨0, true, rfl⟩
    | true => exact ⟨1, true, rfl⟩
  refine ⟨_, hrun', fun i => ?_, ?_, hdone.2⟩
  · cases i with
    | false => exact ⟨0, rfl⟩
    | true => exact ⟨1, rfl⟩
  · obtain ⟨last, ticket, earlier, hrenamed, -, hlast⟩ := hdone.1 false 0 rfl
    cases hrenamed
    exact hlast

end Writers

end HtmlComponents.Style
