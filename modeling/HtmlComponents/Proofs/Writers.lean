import Mathlib.Logic.Function.Basic
import Mathlib.Logic.Relation
import HtmlComponents.Proofs.Replacement

/-!
# Writers of one file

Several writers of a process can be at work at the same time, and each of them
replaces a file. What a writer does is cut into steps here: it takes a ticket, creates
its temporary file, writes the content piece by piece and renames the file, or fails
and cleans up. The file operations are those of one file system, and the ticket is
counted in one place. Everything else is left open: the order of the steps, the sizes
of the pieces, and where a writer fails.

A writer that is left alone does what replacing a file does. That is `run_alone`, and
there all the content is one piece.

No two writers ever have the same ticket, since a ticket is below the next one from the
moment it is taken.
-/

namespace HtmlComponents.Style

open HtmlComponents.FileSystem

/-! ## Writers and their steps -/

/-- A file to be replaced, with its name and its new content. -/
structure Job where
  output : Path
  name : String
  named : output.fileName? = some name
  content : ByteArray

/-- Where a writer with the given ticket writes. -/
def Job.temporary (job : Job) (process ticket : Nat) : Path :=
  job.output.sibling (temporaryName job.name process ticket)

/-- The place where a writer with the given ticket writes. -/
def Job.place (job : Job) (files : FileSystem) (process ticket : Nat) : Location :=
  files.locate (job.temporary process ticket)

theorem Job.place_eq (job : Job) (files : FileSystem) (process ticket : Nat) :
    job.place files process ticket =
      (files.locate job.output).dropLast ++ [temporaryName job.name process ticket] := by
  obtain ⟨above, habove⟩ := Path.exists_parent job.named
  rw [place, temporary, locate_temporary job.named habove, locate_eq job.named habove,
    List.dropLast_concat]

theorem Job.place_ne (job : Job) (files : FileSystem) (process ticket : Nat) :
    job.place files process ticket ≠ files.locate job.output := by
  obtain ⟨above, habove⟩ := Path.exists_parent job.named
  exact (locate_temporary_ne job.named habove process ticket).symm

theorem Job.asksForDirectory_temporary (job : Job) (process ticket : Nat) :
    asksForDirectory (job.temporary process ticket) = false := by
  obtain ⟨hslash, hidle, -⟩ := temporaryName_isName
    (Path.not_mem_slash_of_mem_course (Path.mem_course_of_fileName? job.named)) process ticket
  have hlast : (job.temporary process ticket).last =
      (temporaryName job.name process ticket).toList := Path.last_child _ hslash
  exact asksForDirectory_of_last (hlast ▸ hidle)

/-- How far a writer has come. -/
inductive Phase where
  | waiting
  | holding (ticket : Nat)
  | writing (ticket : Nat) (location : Location) (left : ByteArray)
  | cleaning (ticket : Nat)
  | finished (ticket : Nat) (succeeded : Bool)

namespace Phase

/-- The ticket that a writer has taken. -/
def ticket? : Phase → Option Nat
  | waiting => none
  | holding ticket | writing ticket _ _ | cleaning ticket | finished ticket _ => some ticket

/-- The ticket of a writer whose temporary file may be there. -/
def open? : Phase → Option Nat
  | writing ticket _ _ | cleaning ticket => some ticket
  | waiting | holding _ | finished _ _ => none

theorem ticket?_of_open? {phase : Phase} {ticket : Nat} (h : phase.open? = some ticket) :
    phase.ticket? = some ticket := by
  cases phase with
  | waiting => cases h
  | holding => cases h
  | writing => exact h
  | cleaning => exact h
  | finished => cases h

end Phase

/-- Writers of one process at work on one file system. -/
structure Writers (ι : Type) where
  files : FileSystem
  /-- The next ticket. -/
  ticket : Nat
  phase : ι → Phase
  /-- The writers that have renamed, the last one first. -/
  renamed : List ι

namespace Writers

variable {ι : Type} [DecidableEq ι]

/-- Nobody has begun. -/
def idle (files : FileSystem) (ticket : Nat) : Writers ι := ⟨files, ticket, fun _ => .waiting, []⟩

/-- One writer has come to another phase, leaving files and renames as given. -/
def advance (s : Writers ι) (i : ι) (phase : Phase) (files : FileSystem) (renamed : List ι) :
    Writers ι :=
  { s with files, phase := Function.update s.phase i phase, renamed }

@[simp] theorem phase_advance_self (s : Writers ι) (i : ι) (phase : Phase) (files : FileSystem)
    (renamed : List ι) : (s.advance i phase files renamed).phase i = phase :=
  Function.update_self ..

@[simp] theorem renamed_advance (s : Writers ι) (i : ι) (phase : Phase) (files : FileSystem)
    (renamed : List ι) : (s.advance i phase files renamed).renamed = renamed :=
  rfl

theorem phase_advance_of_ne {i j : ι} (h : j ≠ i) (s : Writers ι) (phase : Phase)
    (files : FileSystem) (renamed : List ι) :
    (s.advance i phase files renamed).phase j = s.phase j :=
  Function.update_of_ne h ..

/-- A step of one of the writers. The content is written in pieces of any size, and a writer
can fail at any time until it has renamed. -/
inductive Step (jobs : ι → Job) (process : Nat) : Writers ι → Writers ι → Prop
  | take {s : Writers ι} {i : ι} (hphase : s.phase i = .waiting) :
    Step jobs process s
      { s.advance i (.holding s.ticket) s.files s.renamed with ticket := s.ticket + 1 }
  | create {s : Writers ι} {i : ι} {ticket : Nat} {location : Location} {files : FileSystem}
    (hphase : s.phase i = .holding ticket)
    (hcreate : createFile ((jobs i).temporary process ticket) s.files = (.ok location, files)) :
    Step jobs process s (s.advance i (.writing ticket location (jobs i).content) files s.renamed)
  | write {s : Writers ι} {i : ι} {ticket : Nat} {location : Location} {piece left : ByteArray}
    {files : FileSystem} (hphase : s.phase i = .writing ticket location (piece ++ left))
    (hwrite : appendBytes location piece s.files = (.ok (), files)) :
    Step jobs process s (s.advance i (.writing ticket location left) files s.renamed)
  | rename {s : Writers ι} {i : ι} {ticket : Nat} {location : Location} {files : FileSystem}
    (hphase : s.phase i = .writing ticket location ByteArray.empty)
    (hrename : renameFile ((jobs i).temporary process ticket) (jobs i).output s.files =
      (.ok (), files)) :
    Step jobs process s (s.advance i (.finished ticket true) files (i :: s.renamed))
  | fail {s : Writers ι} {i : ι} {ticket : Nat}
    (hphase : s.phase i = .holding ticket ∨
      ∃ location left, s.phase i = .writing ticket location left) :
    Step jobs process s (s.advance i (.cleaning ticket) s.files s.renamed)
  | clean {s : Writers ι} {i : ι} {ticket : Nat} {answer : Except Fault Unit}
    {files : FileSystem} (hphase : s.phase i = .cleaning ticket)
    (hremove : removeFile ((jobs i).temporary process ticket) s.files = (answer, files)) :
    Step jobs process s (s.advance i (.finished ticket false) files s.renamed)

variable {jobs : ι → Job} {process first : Nat} {files : FileSystem}
  {s s' : Writers ι}

/-! ## A writer that works alone -/

theorem advance_advance (s : Writers ι) (i : ι) (phase phase' : Phase)
    (files files' : FileSystem) (renamed renamed' : List ι) :
    (s.advance i phase files renamed).advance i phase' files' renamed' =
      s.advance i phase' files' renamed' := by
  rw [advance, advance, advance, Function.update_idem]

theorem run_failing {i : ι} {ticket : Nat}
    (hphase : s.phase i = .holding ticket ∨
      ∃ location left, s.phase i = .writing ticket location left) :
    Relation.ReflTransGen (Step jobs process) s (s.advance i (.finished ticket false)
      (removeFile ((jobs i).temporary process ticket) s.files).2 s.renamed) := by
  have hclean : Step jobs process (s.advance i (.cleaning ticket) s.files s.renamed)
      ((s.advance i (.cleaning ticket) s.files s.renamed).advance i (.finished ticket false)
        (removeFile ((jobs i).temporary process ticket) s.files).2 s.renamed) :=
    .clean (phase_advance_self ..) rfl
  rw [advance_advance] at hclean
  exact .tail (.single (.fail hphase)) hclean

theorem run_failing_writing {i : ι} {ticket : Nat} {location : Location} {left : ByteArray}
    {now : FileSystem} :
    Relation.ReflTransGen (Step jobs process)
      (s.advance i (.writing ticket location left) now s.renamed)
      (s.advance i (.finished ticket false)
        (removeFile ((jobs i).temporary process ticket) now).2 s.renamed) := by
  have hrun : Relation.ReflTransGen (Step jobs process)
      (s.advance i (.writing ticket location left) now s.renamed)
      ((s.advance i (.writing ticket location left) now s.renamed).advance i
        (.finished ticket false) (removeFile ((jobs i).temporary process ticket) now).2
          s.renamed) :=
    run_failing (.inr ⟨_, _, phase_advance_self ..⟩)
  rwa [advance_advance] at hrun

/-- Left to itself, a writer replaces the file as a whole, or fails and cleans up. -/
theorem run_alone {i : ι} {ticket : Nat} {answer : Except Fault Unit}
    (hphase : s.phase i = .holding ticket)
    (hreplace : replaceFile (jobs i).output ((jobs i).temporary process ticket)
      (jobs i).content s.files = (answer, files)) :
    Relation.ReflTransGen (Step jobs process) s
      (s.advance i (.finished ticket answer.isOk) files
        (if answer.isOk then i :: s.renamed else s.renamed)) := by
  unfold replaceFile at hreplace
  rw [tryReplace_apply] at hreplace
  rcases hcreate : createFile ((jobs i).temporary process ticket) s.files with
    ⟨fault | location, made⟩
  · obtain rfl := createFile_error hcreate
    rw [hcreate] at hreplace
    cases hreplace
    exact run_failing (.inl hphase)
  rw [hcreate] at hreplace
  simp only at hreplace
  have hcreated : Step jobs process s
      (s.advance i (.writing ticket location (jobs i).content) made s.renamed) :=
    .create hphase hcreate
  rcases hwrite : appendBytes location (jobs i).content made with ⟨fault | _, written⟩
  · obtain rfl := appendBytes_error hwrite
    rw [hwrite] at hreplace
    cases hreplace
    exact .head hcreated run_failing_writing
  rw [hwrite] at hreplace
  simp only at hreplace
  -- the content can be written in one piece
  have hwritten : Step jobs process
      (s.advance i (.writing ticket location (jobs i).content) made s.renamed)
      ((s.advance i (.writing ticket location (jobs i).content) made s.renamed).advance i
        (.writing ticket location ByteArray.empty) written s.renamed) :=
    .write (by rw [phase_advance_self, ByteArray.append_empty]) hwrite
  rw [advance_advance] at hwritten
  refine .head hcreated (.head hwritten ?_)
  rcases hrename : renameFile ((jobs i).temporary process ticket) (jobs i).output written with
    ⟨fault | _, moved⟩
  · obtain rfl := renameFile_error hrename
    rw [hrename] at hreplace
    cases hreplace
    exact run_failing_writing
  · rw [hrename] at hreplace
    cases hreplace
    have hrenamed : Step jobs process
        (s.advance i (.writing ticket location ByteArray.empty) written s.renamed)
        ((s.advance i (.writing ticket location ByteArray.empty) written s.renamed).advance i
          (.finished ticket true) files (i :: s.renamed)) :=
      .rename (phase_advance_self ..) hrename
    rw [advance_advance] at hrenamed
    exact .single hrenamed

/-! ## Tickets -/

/-- No two writers have the same ticket. -/
structure Ticketed (first : Nat) (s : Writers ι) : Prop where
  first_le : first ≤ s.ticket
  bounds : ∀ i ticket, (s.phase i).ticket? = some ticket → first ≤ ticket ∧ ticket < s.ticket
  injective : ∀ i j ticket, (s.phase i).ticket? = some ticket →
    (s.phase j).ticket? = some ticket → i = j

theorem ticket?_advance {i : ι} {phase : Phase} (h : phase.ticket? = (s.phase i).ticket?)
    (files : FileSystem) (renamed : List ι) (j : ι) :
    ((s.advance i phase files renamed).phase j).ticket? = (s.phase j).ticket? := by
  by_cases hj : j = i
  · rw [hj, phase_advance_self, h]
  · rw [phase_advance_of_ne hj]

theorem Ticketed.advance {i : ι} {phase : Phase} (hs : Ticketed first s)
    (h : phase.ticket? = (s.phase i).ticket?) (files : FileSystem) (renamed : List ι) :
    Ticketed first (s.advance i phase files renamed) := by
  refine ⟨hs.first_le, fun j ticket hj => ?_, fun j k ticket hj hk => ?_⟩
  · rw [ticket?_advance h] at hj
    exact hs.bounds j ticket hj
  · rw [ticket?_advance h] at hj hk
    exact hs.injective j k ticket hj hk

theorem Ticketed.take {i : ι} (hs : Ticketed first s) : Ticketed first
    { s.advance i (.holding s.ticket) s.files s.renamed with ticket := s.ticket + 1 } := by
  have hcases : ∀ j ticket,
      ((s.advance i (.holding s.ticket) s.files s.renamed).phase j).ticket? = some ticket →
        j = i ∧ ticket = s.ticket ∨ (s.phase j).ticket? = some ticket := by
    intro j ticket h
    by_cases hj : j = i
    · rw [hj, phase_advance_self] at h
      exact .inl ⟨hj, (Option.some.inj h).symm⟩
    · rw [phase_advance_of_ne hj] at h
      exact .inr h
  refine ⟨Nat.le_succ_of_le hs.first_le, fun j ticket hj => ?_, fun j k ticket hj hk => ?_⟩
  · rcases hcases j ticket hj with ⟨-, rfl⟩ | hj
    · exact ⟨hs.first_le, Nat.lt_succ_self _⟩
    · obtain ⟨hle, hlt⟩ := hs.bounds j ticket hj
      exact ⟨hle, Nat.lt_succ_of_lt hlt⟩
  · -- a ticket that was taken before is not the new one
    rcases hcases j ticket hj with ⟨rfl, hnew⟩ | hold <;>
      rcases hcases k ticket hk with ⟨rfl, hnew'⟩ | hold'
    · rfl
    · exact absurd hnew (Nat.ne_of_lt (hs.bounds k ticket hold').2)
    · exact absurd hnew' (Nat.ne_of_lt (hs.bounds j ticket hold).2)
    · exact hs.injective j k ticket hold hold'

theorem Ticketed.step (hs : Ticketed first s) (h : Step jobs process s s') :
    Ticketed first s' := by
  cases h with
  | take => exact hs.take
  | create hphase => exact hs.advance (by rw [hphase]; rfl) _ _
  | write hphase => exact hs.advance (by rw [hphase]; rfl) _ _
  | rename hphase => exact hs.advance (by rw [hphase]; rfl) _ _
  | fail hphase =>
      rcases hphase with hphase | ⟨location, left, hphase⟩ <;>
        exact hs.advance (by rw [hphase]; rfl) _ _
  | clean hphase => exact hs.advance (by rw [hphase]; rfl) _ _

omit [DecidableEq ι] in
theorem ticketed_idle : Ticketed first (idle files first : Writers ι) :=
  ⟨Nat.le_refl _, nofun, nofun⟩

theorem ticketed_of_run (h : Relation.ReflTransGen (Step jobs process) (idle files first) s) :
    Ticketed first s := by
  induction h with
  | refl => exact ticketed_idle
  | tail _ hstep ih => exact ih.step hstep

end Writers

end HtmlComponents.Style
