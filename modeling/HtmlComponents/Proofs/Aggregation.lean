import Mathlib
import HtmlComponents.Proofs.Replacement

/-!
# Aggregating styles

An aggregation reads the base, makes the output's directory and replaces the output.
Each of these parts ends in an answer or in an error of its own kind, so the answer tells
how far the aggregation has come, and what each part leaves behind is known from before.

The paths are not independent. The output can be the base, and directories on the way to
the output can be named as the temporary file would be: if a path goes into such a
directory and out of it again, the directory is made, and the temporary file cannot be.
That is why the places of a file system are compared here, and not its paths.
-/

namespace HtmlComponents.Style

open HtmlComponents.FileSystem

variable {fragments : List Fragment} {base output above : Path} {banner text name : String}
  {place after : Workplace}

/-! ## The parts of an aggregation -/

theorem request_apply {α : Type} (blame : Fault → Error) (operation : Operation α)
    (place : Workplace) :
    Aggregation.request blame operation place =
      ((operation place.files).1.mapError blame,
        { place with files := (operation place.files).2 }) :=
  rfl

/-- The part of an aggregation that follows when the output's directory is there. -/
def publish (fragments : List Fragment) (output : Path) (name text banner : String) :
    Aggregation Report := do
  let ticket ← Aggregation.takeTicket
  let temporary := output.sibling (temporaryName name (← get).process ticket)
  Aggregation.request (.write output)
    (replaceFile output temporary (combine text banner fragments).toUTF8)
  let report : Report := ⟨fragments.length, output⟩
  Aggregation.report (.aggregated report.line)
  return report

theorem publish_apply : publish fragments output name text banner place =
    match replaceFile output (output.sibling (temporaryName name place.process place.ticket))
      (combine text banner fragments).toUTF8 place.files with
    | (.error fault, files) =>
      (.error (.write output fault), { place with files, ticket := place.ticket + 1 })
    | (.ok (), files) =>
      (.ok ⟨fragments.length, output⟩, { place with
        files
        ticket := place.ticket + 1
        events := place.events.push (.aggregated (Report.line ⟨fragments.length, output⟩)) }) := by
  rw [publish, bind_apply]
  simp only [Aggregation.takeTicket]
  rw [bind_apply]
  change (Aggregation.request _ _ >>= _) { place with ticket := place.ticket + 1 } = _
  rw [bind_apply, request_apply]
  rcases replaceFile output (output.sibling (temporaryName name place.process place.ticket))
    (combine text banner fragments).toUTF8 place.files with ⟨_ | _, files⟩ <;> rfl

/-- The workplace once an aggregation has said that it begins. -/
def begun (fragments : List Fragment) (base : Path) (place : Workplace) : Workplace :=
  { place with events := place.events.push (.aggregating base.text fragments.length) }

theorem aggregate_of_fileName?_eq_none (h : output.fileName? = none) :
    aggregate fragments base output banner place = (.error (.invalidOutput output), place) := by
  unfold aggregate
  rw [h]
  rfl

/-- The part of an aggregation that follows when the base is read. -/
def establish (fragments : List Fragment) (output : Path) (name text banner : String) :
    Aggregation Report :=
  match outputDirectory? output with
  | none => publish fragments output name text banner
  | some directory => do
    Aggregation.request (.createDirectory directory) (createDirectories directory)
    publish fragments output name text banner

/-- Since the empty path needs no directory, the output's directory is made in any case. -/
theorem establish_apply (habove : output.parent? = some above) :
    establish fragments output name text banner place =
      match createDirectories above place.files with
      | (.error fault, files) => (.error (.createDirectory above fault), { place with files })
      | (.ok (), files) => publish fragments output name text banner { place with files } := by
  by_cases hempty : above.text = ""
  · have hdirectory : outputDirectory? output = none := by
      simp [outputDirectory?, habove, hempty]
    have hmake : createDirectories above place.files = (.ok (), place.files) := by
      rw [createDirectories, if_pos (by simp [hempty])]
    rw [establish, hdirectory, hmake]
  · have hdirectory : outputDirectory? output = some above := by
      simp [outputDirectory?, habove, hempty]
    rw [establish, hdirectory]
    simp only
    rw [bind_apply, request_apply]
    rcases createDirectories above place.files with ⟨_ | _, files⟩ <;> rfl

theorem aggregate_apply (hname : output.fileName? = some name)
    (habove : output.parent? = some above) :
    aggregate fragments base output banner place =
      match place.files.text base with
      | .error fault => (.error (.readBase base fault), begun fragments base place)
      | .ok text =>
        match createDirectories above place.files with
        | (.error fault, files) =>
          (.error (.createDirectory above fault), { begun fragments base place with files })
        | (.ok (), files) =>
          publish fragments output name text banner { begun fragments base place with files } := by
  unfold aggregate
  rw [hname]
  simp only
  rw [bind_apply]
  simp only [Aggregation.report]
  rw [bind_apply, request_apply]
  simp only [look]
  cases place.files.text base with
  | error fault => rfl
  | ok text => exact establish_apply habove

/-- After the directory is made, an aggregation answers as the replacement of the output
does. -/
theorem aggregate_fst {made : FileSystem} (hname : output.fileName? = some name)
    (habove : output.parent? = some above) (htext : place.files.text base = .ok text)
    (hmake : createDirectories above place.files = (.ok (), made)) :
    (aggregate fragments base output banner place).1 =
      match (replaceFile output (output.sibling (temporaryName name place.process place.ticket))
        (combine text banner fragments).toUTF8 made).1 with
      | .error fault => .error (.write output fault)
      | .ok () => .ok ⟨fragments.length, output⟩ := by
  rw [aggregate_apply hname habove, htext]
  simp only [hmake]
  rw [publish_apply]
  simp only [begun]
  split
  · next hreplace => rw [hreplace]
  · next hreplace => rw [hreplace]

/-! ## A file system with the output in its place -/

theorem publish_ok {report : Report}
    (h : publish fragments output name text banner place = (.ok report, after)) :
    ∃ files, replaceFile output (output.sibling (temporaryName name place.process place.ticket))
        (combine text banner fragments).toUTF8 place.files = (.ok (), files) ∧
      report = ⟨fragments.length, output⟩ ∧ after.files = files ∧
        after.events = place.events.push (.aggregated report.line) := by
  rw [publish_apply] at h
  split at h
  · cases h
  · next files hreplace =>
      cases h
      exact ⟨files, hreplace, rfl, rfl, rfl⟩

theorem publish_error {e : Error}
    (h : publish fragments output name text banner place = (.error e, after)) :
    ∃ fault files,
      replaceFile output (output.sibling (temporaryName name place.process place.ticket))
        (combine text banner fragments).toUTF8 place.files = (.error fault, files) ∧
      e = .write output fault ∧ after.files = files ∧ after.events = place.events := by
  rw [publish_apply] at h
  split at h
  · next fault files hreplace =>
      cases h
      exact ⟨fault, files, hreplace, rfl, rfl, rfl⟩
  · cases h

theorem aggregate_eq_ok {report : Report}
    (h : aggregate fragments base output banner place = (.ok report, after)) :
    ∃ name above text files files',
      output.fileName? = some name ∧ output.parent? = some above ∧
      place.files.text base = .ok text ∧
      createDirectories above place.files = (.ok (), files) ∧
      replaceFile output (output.sibling (temporaryName name place.process place.ticket))
        (combine text banner fragments).toUTF8 files = (.ok (), files') ∧
      report = ⟨fragments.length, output⟩ ∧ after.files = files' ∧
        after.events = (place.events.push (.aggregating base.text fragments.length)).push
          (.aggregated report.line) := by
  cases hname : output.fileName? with
  | none =>
      rw [aggregate_of_fileName?_eq_none hname] at h
      cases h
  | some name =>
      obtain ⟨above, habove⟩ := Path.exists_parent hname
      rw [aggregate_apply hname habove] at h
      split at h
      · cases h
      next text htext =>
      split at h
      · cases h
      next files hmake =>
      obtain ⟨files', hreplace, hrest⟩ := publish_ok h
      exact ⟨name, above, text, files, files', rfl, habove, htext, hmake, hreplace, hrest⟩

/-- What a file system holds after directories are made and a file is put at the output. -/
theorem node?_replaced {fs made fs' : FileSystem} {content : ByteArray} {process ticket : Nat}
    (hname : output.fileName? = some name) (habove : output.parent? = some above)
    (hnew : fs.node? (fs.locate (output.sibling (temporaryName name process ticket))) = none)
    (hmake : createDirectories above fs = (.ok (), made))
    (hreplace : replaceFile output (output.sibling (temporaryName name process ticket))
      content made = (.ok (), fs')) (location : Location) :
    fs'.node? location =
      if location = fs.locate output then some (.file content)
      else if location ∈ fs.waypoints above ∧ fs.node? location = none then some .directory
      else fs.node? location := by
  have hgrown := createDirectories_grown above fs
  rw [hmake] at hgrown
  obtain ⟨hready, -, hnode⟩ :=
    replaceFile_ok (locate_temporary_ne hname habove process ticket) hreplace
  have hway := hready.reachesOutput.leads
  rw [← Path.course_parent habove, ← start_parent _ habove] at hway
  rw [hnode, locate_eq_of_working hgrown.working, locate_eq_of_working hgrown.working,
    hgrown.node?_eq hway]
  split
  · rfl
  split
  · next htemporary =>
      -- no directory was made under the temporary name, or it could not have been a file's
      have hfree := hready.temporaryFree
      rw [locate_eq_of_working hgrown.working, hgrown.node?_eq hway, hnew] at hfree
      rw [htemporary, hnew, if_neg (fun hmade => hfree (if_pos hmade))]
  · rfl

theorem line_eq (hname : output.fileName? = some name) (components : Nat) :
    Report.line ⟨components, output⟩ =
      "Rendered styles: " ++ toString components ++ " components → " ++ name := by
  unfold Report.line
  simp only [hname, Option.getD_some]

/-- A successful aggregation writes exactly the combined stylesheet and touches nothing
else. The base was a text; the output now holds it with the banner and the fragments behind
it; the directories on the way to the output that were missing are there; everything else is
as it was, and no temporary file is left. -/
theorem aggregate_ok {report : Report}
    (hnew : ∀ name, output.fileName? = some name → place.files.node? (place.files.locate
      (output.sibling (temporaryName name place.process place.ticket))) = none)
    (h : aggregate fragments base output banner place = (.ok report, after)) :
    ∃ text name above sheet,
      place.files.text base = .ok text ∧ output.fileName? = some name ∧
      output.parent? = some above ∧
      sheet = text ++ "\n\n" ++ banner ++ "\n" ++ String.join (fragments.map fun fragment =>
        "/* " ++ fragment.name ++ " */\n" ++ fragment.css ++ "\n\n") ∧
      after.files.bytes output = .ok sheet.toUTF8 ∧
      (∀ location, after.files.node? location =
        if location = place.files.locate output then some (.file sheet.toUTF8)
        else if location ∈ place.files.waypoints above ∧ place.files.node? location = none then
          some .directory
        else place.files.node? location) ∧
      after.files.node? (place.files.locate
        (output.sibling (temporaryName name place.process place.ticket))) = none ∧
      after.files.working = place.files.working ∧
      report = ⟨fragments.length, output⟩ ∧
      after.events.toList.map StyleEvent.record = place.events.toList.map StyleEvent.record ++
        [⟨.debug, "aggregating styles",
          [("base", .text base.text), ("components", .number fragments.length)]⟩,
        ⟨.info, "Rendered styles: " ++ toString fragments.length ++ " components → " ++ name,
          []⟩] := by
  obtain ⟨name, above, text, made, files, hname, habove, htext, hmake, hreplace, rfl, rfl,
    hevents⟩ := aggregate_eq_ok h
  have hne : ∀ fs : FileSystem, fs.locate output ≠ fs.locate
      (output.sibling (temporaryName name place.process place.ticket)) := fun _ =>
    locate_temporary_ne hname habove place.process place.ticket
  have hgrown := createDirectories_grown above place.files
  rw [hmake] at hgrown
  obtain ⟨-, hworking, hnode⟩ := replaceFile_ok (hne made) hreplace
  refine ⟨text, name, above, combine text banner fragments, htext, hname, habove, ?_,
    bytes_of_replaceFile (hne made) hreplace,
    node?_replaced hname habove (hnew name hname) hmake hreplace, ?_,
    hworking.trans hgrown.working, rfl, ?_⟩
  · have hannounced : Fragment.announced = fun fragment =>
        "/* " ++ fragment.name ++ " */\n" ++ fragment.css ++ "\n\n" := rfl
    rw [combine, hannounced]
  · rw [hnode, locate_eq_of_working hgrown.working, locate_eq_of_working hgrown.working,
      if_neg (hne place.files).symm, if_pos rfl]
  · rw [hevents, line_eq hname]
    simp [StyleEvent.record]

/-- A working directory with a file and a directory in it. -/
def sampleFiles : FileSystem :=
  ((ofWorking "w").put ["w", "b"] (.file "b".toUTF8)).put ["w", "o"] .directory

theorem text_sampleFiles : sampleFiles.text ⟨"b"⟩ = .ok "b" := by cbv

theorem aggregate_ok_missing_directory :
    ∃ after, aggregate [⟨"C", "c"⟩] ⟨"b"⟩ ⟨"d/o"⟩ "x" ⟨sampleFiles, 0, 0, #[]⟩ =
        (.ok ⟨1, ⟨"d/o"⟩⟩, after) ∧
      after.files.bytes ⟨"d/o"⟩ = .ok "b\n\nx\n/* C */\nc\n\n".toUTF8 := by
  have hname : (⟨"d/o"⟩ : Path).fileName? = some "o" := by decide +kernel
  have habove : (⟨"d/o"⟩ : Path).parent? = some ⟨"d"⟩ := by decide +kernel
  have hsibling : (⟨"d/o"⟩ : Path).sibling (temporaryName "o" 0 0) = ⟨"d/.o.0.0.tmp"⟩ := by
    decide +kernel
  have hnew : ∀ name, (⟨"d/o"⟩ : Path).fileName? = some name → sampleFiles.node?
      (sampleFiles.locate ((⟨"d/o"⟩ : Path).sibling (temporaryName name 0 0))) = none := by
    intro name hname'
    cases hname.symm.trans hname'
    rw [hsibling, locate, start_eq_working _ (by decide +kernel)]
    decide +kernel
  have hmake : createDirectories ⟨"d"⟩ sampleFiles =
      (.ok (), sampleFiles.put ["w", "d"] .directory) := by cbv
  have hreplace : (replaceFile ⟨"d/o"⟩ ⟨"d/.o.0.0.tmp"⟩ (combine "b" "x" [⟨"C", "c"⟩]).toUTF8
      (sampleFiles.put ["w", "d"] .directory)).1 = .ok () := by cbv
  have hfst : (aggregate [⟨"C", "c"⟩] ⟨"b"⟩ ⟨"d/o"⟩ "x" ⟨sampleFiles, 0, 0, #[]⟩).1 =
      .ok ⟨1, ⟨"d/o"⟩⟩ := by
    refine Eq.trans (aggregate_fst hname habove text_sampleFiles hmake) ?_
    simp only [hsibling, hreplace]
    rfl
  obtain ⟨text, name, above, sheet, htext, -, -, rfl, hbytes, -⟩ :=
    aggregate_ok (by exact hnew) (Prod.ext hfst rfl)
  cases text_sampleFiles.symm.trans htext
  refine ⟨_, Prod.ext hfst rfl, ?_⟩
  rw [hbytes]
  decide +kernel

/-! ## A file system without a trace of the attempt -/

theorem aggregate_eq_error {e : Error}
    (h : aggregate fragments base output banner place = (.error e, after)) :
    output.fileName? = none ∧ e = .invalidOutput output ∧ after = place ∨
    ∃ name above, output.fileName? = some name ∧ output.parent? = some above ∧
      after.events = place.events.push (.aggregating base.text fragments.length) ∧
      ((∃ fault, place.files.text base = .error fault ∧ e = .readBase base fault ∧
          after.files = place.files) ∨
        ∃ text, place.files.text base = .ok text ∧
          ((∃ fault, createDirectories above place.files = (.error fault, after.files) ∧
              e = .createDirectory above fault) ∨
            ∃ made fault, createDirectories above place.files = (.ok (), made) ∧
              replaceFile output
                (output.sibling (temporaryName name place.process place.ticket))
                (combine text banner fragments).toUTF8 made = (.error fault, after.files) ∧
              e = .write output fault)) := by
  cases hname : output.fileName? with
  | none =>
      rw [aggregate_of_fileName?_eq_none hname] at h
      cases h
      exact .inl ⟨rfl, rfl, rfl⟩
  | some name =>
      obtain ⟨above, habove⟩ := Path.exists_parent hname
      refine .inr ⟨name, above, rfl, habove, ?_⟩
      rw [aggregate_apply hname habove] at h
      split at h
      · next fault htext =>
          cases h
          exact ⟨rfl, .inl ⟨fault, htext, rfl, rfl⟩⟩
      next text htext =>
      split at h
      · next fault files hmake =>
          cases h
          exact ⟨rfl, .inr ⟨text, htext, .inl ⟨fault, hmake, rfl⟩⟩⟩
      next made hmake =>
      obtain ⟨fault, files, hreplace, rfl, rfl, hevents⟩ := publish_error h
      exact ⟨hevents, .inr ⟨text, htext, .inr ⟨made, fault, hmake, hreplace, rfl⟩⟩⟩

/-- When the output cannot be replaced although its directory is there, only the directory
is new, and the paths, the temporary name or a directory in the way are to blame. -/
theorem replaceFile_blame {fs made fs' : FileSystem} {content : ByteArray} {fault : Fault}
    {process ticket : Nat} (htree : fs.IsTree) (hname : output.fileName? = some name)
    (habove : output.parent? = some above)
    (hnew : fs.node? (fs.locate (output.sibling (temporaryName name process ticket))) = none)
    (hmake : createDirectories above fs = (.ok (), made))
    (hreplace : replaceFile output (output.sibling (temporaryName name process ticket))
      content made = (.error fault, fs')) :
    Grown fs fs' (fs.waypoints above) ∧
      (textFault? output ≠ none ∨
        textFault? (output.sibling (temporaryName name process ticket)) ≠ none ∨
        nameLimit < (temporaryName name process ticket).utf8ByteSize ∨
        output.last ≠ name.toList ∨ fs'.isDirectoryAt (fs.locate output) ∨
        fs'.isDirectoryAt
          (fs.locate (output.sibling (temporaryName name process ticket)))) := by
  have hgrown := createDirectories_grown above fs
  have hway := leads_of_createDirectories htree (congrArg Prod.fst hmake)
  rw [hmake] at hgrown hway
  have hnofile : ∀ content, made.node?
      (made.locate (output.sibling (temporaryName name process ticket))) ≠
        some (.file content) := by
    intro content hfile
    rw [hgrown.node?_file, locate_eq_of_working hgrown.working, hnew] at hfile
    cases hfile
  obtain ⟨hblocked, hworking, hnode⟩ :=
    replaceFile_error hnofile (locate_temporary_ne hname habove process ticket) hreplace
  refine ⟨hgrown.congr hworking hnode, ?_⟩
  by_contra hcauses
  simp only [not_or, not_not, Nat.not_lt, isDirectoryAt, decide_eq_true_iff, hnode] at hcauses
  obtain ⟨houtput, htemporary, hshort, hlast, hfree, hfree'⟩ := hcauses
  rw [← locate_eq_of_working hgrown.working] at hfree hfree'
  exact hblocked (replaceable_of_leads hname habove hway houtput htemporary hshort hlast
    hfree hfree')

/-- A failed aggregation writes nothing, whatever stood at the output and at whichever step
it failed. It can leave new directories on the way to the output, and does so only when the
base could be read. The error is the first that applies. -/
theorem aggregate_error {e : Error} (htree : place.files.IsTree)
    (hnew : ∀ name, output.fileName? = some name → place.files.node? (place.files.locate
      (output.sibling (temporaryName name place.process place.ticket))) = none)
    (h : aggregate fragments base output banner place = (.error e, after)) :
    (∀ location content, after.files.node? location = some (.file content) ↔
      place.files.node? location = some (.file content)) ∧
    (∀ name, output.fileName? = some name → ∀ content, after.files.node? (place.files.locate
      (output.sibling (temporaryName name place.process place.ticket))) ≠
        some (.file content)) ∧
    (∃ said, after.events.toList = place.events.toList ++ said ∧
      ∀ event ∈ said, event.record.level ≠ .info) ∧
    match e with
    | .invalidOutput path =>
      path = output ∧ output.fileName? = none ∧ after.files = place.files
    | .readBase path fault =>
      path = base ∧ output.fileName? ≠ none ∧ place.files.text base = .error fault ∧
        after.files = place.files
    | .createDirectory above _ =>
      output.fileName? ≠ none ∧ output.parent? = some above ∧
        (∃ text, place.files.text base = .ok text) ∧
        above.text ≠ "" ∧ ¬ place.files.Makeable above ∧
        Grown place.files after.files (place.files.waypoints above)
    | .write path _ =>
      path = output ∧ ∃ name above temporary,
        output.fileName? = some name ∧ output.parent? = some above ∧
        temporary = temporaryName name place.process place.ticket ∧
        (∃ text, place.files.text base = .ok text) ∧
        (above.text = "" ∨ place.files.Makeable above) ∧
        (textFault? output ≠ none ∨ textFault? (output.sibling temporary) ≠ none ∨
          nameLimit < temporary.utf8ByteSize ∨ output.last ≠ name.toList ∨
          after.files.isDirectoryAt (place.files.locate output) ∨
          after.files.isDirectoryAt (place.files.locate (output.sibling temporary))) ∧
        Grown place.files after.files (place.files.waypoints above) := by
  have htemporary : ∀ files : FileSystem,
      (∀ location content, files.node? location = some (.file content) ↔
        place.files.node? location = some (.file content)) →
      ∀ name, output.fileName? = some name → ∀ content, files.node? (place.files.locate
        (output.sibling (temporaryName name place.process place.ticket))) ≠
          some (.file content) := by
    intro files hfiles name hname content hfile
    rw [hfiles, hnew name hname] at hfile
    cases hfile
  rcases aggregate_eq_error h with ⟨hnone, rfl, rfl⟩ | ⟨name, above, hname, habove, hevents, hcause⟩
  · exact ⟨fun _ _ => Iff.rfl, htemporary _ fun _ _ => Iff.rfl, ⟨[], by simp, by simp⟩, rfl,
      hnone, rfl⟩
  have hnamed : output.fileName? ≠ none := by simp [hname]
  have hsaid : ∃ said, after.events.toList = place.events.toList ++ said ∧
      ∀ event ∈ said, event.record.level ≠ .info :=
    ⟨[.aggregating base.text fragments.length], by rw [hevents, Array.toList_push],
      by simp [StyleEvent.record]⟩
  have hgrown := createDirectories_grown above place.files
  have hmakeable := createDirectories_parent_iff htree habove
  rcases hcause with ⟨fault, htext, rfl, hfiles⟩ | ⟨text, htext, hcause⟩
  · rw [hfiles]
    exact ⟨fun _ _ => Iff.rfl, htemporary _ fun _ _ => Iff.rfl, hsaid, rfl, hnamed, htext, rfl⟩
  rcases hcause with ⟨fault, hmake, rfl⟩ | ⟨made, fault, hmake, hreplace, rfl⟩
  · rw [hmake] at hgrown hmakeable
    have hblocked := hmakeable.not.mp (by simp)
    rw [not_or] at hblocked
    exact ⟨fun _ _ => hgrown.node?_file, htemporary _ fun _ _ => hgrown.node?_file, hsaid,
      hnamed, habove, ⟨text, htext⟩, hblocked.1, hblocked.2, hgrown⟩
  · rw [hmake] at hmakeable
    obtain ⟨hgrown, hcauses⟩ :=
      replaceFile_blame htree hname habove (hnew name hname) hmake hreplace
    exact ⟨fun _ _ => hgrown.node?_file, htemporary _ fun _ _ => hgrown.node?_file, hsaid, rfl,
      name, above, _, hname, habove, rfl, ⟨text, htext⟩, hmakeable.mp rfl, hcauses, hgrown⟩

theorem aggregate_error_directory :
    ∃ after, aggregate [] ⟨"b"⟩ ⟨"o"⟩ "x" ⟨sampleFiles, 0, 0, #[]⟩ =
        (.error (.write ⟨"o"⟩ .isDirectory), after) ∧
      after.files.node? ["w", "b"] = some (.file "b".toUTF8) ∧
        ∀ content, after.files.node? ["w", ".o.0.0.tmp"] ≠ some (.file content) := by
  have hname : (⟨"o"⟩ : Path).fileName? = some "o" := by decide +kernel
  have habove : (⟨"o"⟩ : Path).parent? = some ⟨""⟩ := by decide +kernel
  have hsibling : (⟨"o"⟩ : Path).sibling (temporaryName "o" 0 0) = ⟨".o.0.0.tmp"⟩ := by
    decide +kernel
  have htree : sampleFiles.IsTree :=
    ((isTree_ofWorking "w").put (by simp) (by decide +kernel) (by decide +kernel) _).put
      (by simp) (by decide +kernel) (by decide +kernel) _
  have hplace : sampleFiles.locate ⟨".o.0.0.tmp"⟩ = ["w", ".o.0.0.tmp"] := by
    rw [locate, start_eq_working _ (by decide +kernel)]
    decide +kernel
  have hnew : ∀ name, (⟨"o"⟩ : Path).fileName? = some name → sampleFiles.node?
      (sampleFiles.locate ((⟨"o"⟩ : Path).sibling (temporaryName name 0 0))) = none := by
    intro name hname'
    cases hname.symm.trans hname'
    rw [hsibling, hplace]
    decide +kernel
  have hmake : createDirectories ⟨""⟩ sampleFiles = (.ok (), sampleFiles) := by
    rw [createDirectories]
    rfl
  have hreplace : (replaceFile ⟨"o"⟩ ⟨".o.0.0.tmp"⟩ (combine "b" "x" []).toUTF8
      sampleFiles).1 = .error .isDirectory := by cbv
  have hfst : (aggregate [] ⟨"b"⟩ ⟨"o"⟩ "x" ⟨sampleFiles, 0, 0, #[]⟩).1 =
      .error (.write ⟨"o"⟩ .isDirectory) := by
    refine Eq.trans (aggregate_fst hname habove text_sampleFiles hmake) ?_
    simp only [hsibling, hreplace]
  obtain ⟨hfiles, htemporary, -, -⟩ :=
    aggregate_error htree (by exact hnew) (Prod.ext hfst rfl)
  refine ⟨_, Prod.ext hfst rfl, ?_, ?_⟩
  · rw [hfiles]
    decide +kernel
  · rw [← hplace, ← hsibling]
    exact htemporary "o" hname

end HtmlComponents.Style
