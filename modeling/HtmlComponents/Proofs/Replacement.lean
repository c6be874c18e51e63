import HtmlComponents.Proofs.Effect
import HtmlComponents.Proofs.Step
import HtmlComponents.Style.Aggregation

/-!
# Replacing a file

A file is replaced by way of a temporary one beside it. The temporary name is made of the
name of the file and two numbers, with dots between them. Numbers have no dots, so the
name can be taken apart from behind, and different parts make different names. It is
longer than the name of the file, so it is never that name.

`written` is the file system at the one moment that counts: the whole content is there
in the temporary file, and the output has not been touched. From there a rename puts the
content at the output, or nothing happens and the temporary file is removed. Whether it
succeeds does not depend on the content. `Replaceable` says what it depends on.
-/

namespace HtmlComponents.Style

open HtmlComponents.FileSystem

/-! ## Temporary names -/

theorem isDigit_of_mem_toString {n : Nat} {c : Char} (h : c ∈ (toString n).toList) :
    c.isDigit := by
  have hdigits : c ∈ Nat.toDigits 10 n := by simpa using h
  exact Nat.isDigit_of_mem_toDigits (by decide) (by decide) hdigits

theorem toString_inj {m n : Nat} (h : (toString m).toList = (toString n).toList) : m = n := by
  have hdigits : Nat.toDigits 10 m = Nat.toDigits 10 n := by simpa using h
  have hread := congrArg (Nat.ofDigitChars 10 · 0) hdigits
  simpa [Nat.ofDigitChars_toDigits] using hread

/-- A text is made of what is in front of its last dot and what is behind it in one way. -/
theorem append_dot_inj {front front' back back' : List Char} (h : '.' ∉ back) (h' : '.' ∉ back')
    (heq : front ++ '.' :: back = front' ++ '.' :: back') : front = front' ∧ back = back' := by
  rcases List.append_eq_append_iff.mp heq with ⟨more, rfl, hback⟩ | ⟨more, rfl, hback⟩
  · cases more with
    | nil => exact ⟨(List.append_nil _).symm, (List.cons.inj hback).2⟩
    | cons c more =>
        rw [(List.cons.inj hback).2] at h
        exact absurd (List.mem_append_right more List.mem_cons_self) h
  · cases more with
    | nil => exact ⟨List.append_nil _, (List.cons.inj hback).2.symm⟩
    | cons c more =>
        rw [(List.cons.inj hback).2] at h'
        exact absurd (List.mem_append_right more List.mem_cons_self) h'

theorem toList_temporaryName (name : String) (process ticket : Nat) :
    (temporaryName name process ticket).toList =
      (('.' :: name.toList ++ '.' :: (toString process).toList) ++ '.' :: (toString ticket).toList)
        ++ ".tmp".toList := by
  simp [temporaryName]

theorem temporaryName_inj {name name' : String} {process process' ticket ticket' : Nat} :
    temporaryName name process ticket = temporaryName name' process' ticket' ↔
      name = name' ∧ process = process' ∧ ticket = ticket' := by
  refine ⟨fun h => ?_, fun ⟨hname, hprocess, hticket⟩ => hname ▸ hprocess ▸ hticket ▸ rfl⟩
  rw [← String.toList_inj, toList_temporaryName, toList_temporaryName, List.append_left_inj] at h
  have hdot : ∀ n : Nat, '.' ∉ (toString n).toList := fun n hdot =>
    absurd (isDigit_of_mem_toString hdot) (by decide)
  obtain ⟨hfront, hticket⟩ := append_dot_inj (hdot ticket) (hdot ticket') h
  obtain ⟨hname, hprocess⟩ := append_dot_inj (hdot process) (hdot process') hfront
  exact ⟨String.toList_inj.mp (List.cons.inj hname).2, toString_inj hprocess,
    toString_inj hticket⟩

theorem utf8ByteSize_le_temporaryName (name : String) (process ticket : Nat) :
    name.utf8ByteSize ≤ (temporaryName name process ticket).utf8ByteSize := by
  simp only [temporaryName, String.utf8ByteSize_append]
  omega

/-- A temporary name is a name that a directory can hold beside the name it is made of. -/
theorem temporaryName_isName {name : String} (h : '/' ∉ name.toList) (process ticket : Nat) :
    '/' ∉ (temporaryName name process ticket).toList ∧
      Path.isIdle (temporaryName name process ticket).toList = false ∧
        temporaryName name process ticket ≠ ".." := by
  have hslash : ∀ n : Nat, '/' ∉ Nat.toDigits 10 n := fun n hslash =>
    absurd (Nat.isDigit_of_mem_toDigits (by decide) (by decide) hslash) (by decide)
  refine ⟨?_, ?_, fun hup => ?_⟩
  · rw [toList_temporaryName]
    simp [h, hslash process, hslash ticket]
  · simp [toList_temporaryName, Path.isIdle]
  · have hlength := congrArg (fun text : String => text.toList.length) hup
    simp [toList_temporaryName] at hlength
    omega

theorem temporaryName_ne (name : String) (process ticket : Nat) :
    temporaryName name process ticket ≠ name := by
  intro h
  have hlength := congrArg (fun text : String => text.toList.length) h
  simp [toList_temporaryName] at hlength
  omega

/-! ## Temporary paths -/

section

variable {fs : FileSystem} {output above : Path} {name : String}

theorem locate_temporary (hname : output.fileName? = some name)
    (habove : output.parent? = some above) (process ticket : Nat) :
    fs.locate (output.sibling (temporaryName name process ticket)) =
      fs.locate above ++ [temporaryName name process ticket] := by
  obtain ⟨hslash, hidle, hup⟩ := temporaryName_isName
    (Path.not_mem_slash_of_mem_course (Path.mem_course_of_fileName? hname)) process ticket
  exact locate_sibling habove hslash hidle hup

/-- A temporary file stands beside the output and is not the output. -/
theorem locate_temporary_ne (hname : output.fileName? = some name)
    (habove : output.parent? = some above) (process ticket : Nat) :
    fs.locate output ≠ fs.locate (output.sibling (temporaryName name process ticket)) := by
  rw [locate_temporary hname habove, locate_eq hname habove]
  intro h
  exact temporaryName_ne name process ticket
    (List.cons.inj (List.append_cancel_left h)).1.symm

theorem asksForDirectory_of_last {path : Path} (h : Path.isIdle path.last = false) :
    asksForDirectory path = false := by
  rw [Bool.eq_false_iff, ne_eq, asksForDirectory_iff]
  exact fun hslash => Path.ne_nil_of_isIdle_eq_false h hslash.2

theorem reaches_of_last {path : Path} (htext : textFault? path = none)
    (hlast : path.last = name.toList) (hidle : Path.isIdle name.toList = false)
    (hup : name ≠ "..") (hshort : name.utf8ByteSize ≤ nameLimit)
    (hway : fs.Leads (fs.start path) path.course.dropLast) :
    fs.Reaches path (fs.locate path) := by
  rw [← hlast] at hidle
  have hend : (steps path).getLast? = some name := by
    rw [steps_eq_concat (Path.ne_nil_of_isIdle_eq_false hidle), List.getLast?_concat, hlast,
      String.ofList_toList]
  refine reaches_of_leads htext hend ?_ hup hshort hway
  rw [← String.ofList_toList (s := name), ← hlast]
  exact Path.ofList_ne_dot hidle

end

/-! ## Replacing a file -/

variable {fs fs' : FileSystem} {output temporary : Path} {content : ByteArray}

theorem tryReplace_apply (output temporary : Path) (content : ByteArray) (fs : FileSystem) :
    tryReplace output temporary content fs =
      match createFile temporary fs with
      | (.error fault, fs) => (.error fault, fs)
      | (.ok location, fs) =>
        match appendBytes location content fs with
        | (.error fault, fs) => (.error fault, fs)
        | (.ok (), fs) => renameFile temporary output fs := by
  rw [tryReplace, bind_apply]
  rcases createFile temporary fs with ⟨_ | location, fs⟩
  · rfl
  · simp only
    rw [bind_apply]
    rcases appendBytes location content fs with ⟨_ | _, fs⟩ <;> rfl

/-- The file system once the text is written and before the file is moved. -/
def written (fs : FileSystem) (location : Location) (content : ByteArray) : FileSystem :=
  (fs.put location (.file ByteArray.empty)).put location (.file content)

theorem node?_written {location : Location} (h : location ≠ []) (place : Location) :
    (written fs location content).node? place =
      if place = location then some (.file content) else fs.node? place := by
  rw [written, node?_put h, node?_put h]
  split <;> rfl

theorem locate_written (location : Location) (content : ByteArray) (path : Path) :
    (written fs location content).locate path = fs.locate path :=
  rfl

theorem isDirectoryAt_written {location : Location} (h : location ≠ [])
    (hfree : fs.node? location ≠ some .directory) (place : Location) :
    (written fs location content).isDirectoryAt place = fs.isDirectoryAt place := by
  rw [written, isDirectoryAt_put_file h (by simp [node?_put h]), isDirectoryAt_put_file h hfree]

theorem reaches_written {location place : Location} {path : Path} (h : location ≠ [])
    (hfree : fs.node? location ≠ some .directory) :
    (written fs location content).Reaches path place ↔ fs.Reaches path place := by
  constructor
  · refine Reaches.congr rfl fun place hplace => ?_
    rwa [isDirectoryAt_written h hfree] at hplace
  · refine Reaches.congr rfl fun place hplace => ?_
    rwa [isDirectoryAt_written h hfree]

/-- What keeps a file from being put at the output by way of a temporary file does not
depend on its content. -/
structure Replaceable (fs : FileSystem) (output temporary : Path) : Prop where
  reachesTemporary : fs.Reaches temporary (fs.locate temporary)
  reachesOutput : fs.Reaches output (fs.locate output)
  temporaryFile : asksForDirectory temporary = false
  outputFile : asksForDirectory output = false
  temporaryFree : fs.node? (fs.locate temporary) ≠ some .directory
  outputFree : fs.node? (fs.locate output) ≠ some .directory

/-- Where directories lead to the output's name, a file can be put there if the paths
are good ones, the temporary name is short enough, the output's path ends in its name, and
no directory stands in place of either file. -/
theorem replaceable_of_leads {above : Path} {name : String} {process ticket : Nat}
    (hname : output.fileName? = some name) (habove : output.parent? = some above)
    (hway : fs.Leads (fs.start above) above.course) (houtput : textFault? output = none)
    (htemporary : textFault? (output.sibling (temporaryName name process ticket)) = none)
    (hshort : (temporaryName name process ticket).utf8ByteSize ≤ nameLimit)
    (hlast : output.last = name.toList)
    (hfree : fs.node? (fs.locate output) ≠ some .directory)
    (hfree' : fs.node? (fs.locate (output.sibling (temporaryName name process ticket))) ≠
      some .directory) :
    Replaceable fs output (output.sibling (temporaryName name process ticket)) := by
  have hmem := Path.mem_course_of_fileName? hname
  have hidle := Path.isIdle_of_mem_course hmem
  obtain ⟨hslash, hidle', hup⟩ :=
    temporaryName_isName (Path.not_mem_slash_of_mem_course hmem) process ticket
  have hlast' : (output.sibling (temporaryName name process ticket)).last =
      (temporaryName name process ticket).toList := Path.last_child _ hslash
  have hway' : fs.Leads (fs.start (output.sibling (temporaryName name process ticket)))
      (output.sibling (temporaryName name process ticket)).course.dropLast := by
    rw [Path.course_sibling habove hslash hidle', List.dropLast_concat,
      ← Path.course_parent habove, Path.sibling, habove, Option.getD_some,
      start_child _ _ hslash]
    exact hway
  rw [start_parent _ habove, Path.course_parent habove] at hway
  exact {
    reachesTemporary := reaches_of_last htemporary hlast' hidle' hup hshort hway'
    reachesOutput := reaches_of_last houtput hlast hidle (Path.course_of_fileName? hname).2
      ((utf8ByteSize_le_temporaryName ..).trans hshort) hway
    temporaryFile := asksForDirectory_of_last (hlast' ▸ hidle')
    outputFile := asksForDirectory_of_last (hlast ▸ hidle)
    temporaryFree := hfree'
    outputFree := hfree }

/-- The temporary file cannot be created, or it is created and written and then moved. -/
theorem tryReplace_cases (output temporary : Path) (content : ByteArray) (fs : FileSystem) :
    (∃ fault, createFile temporary fs = (.error fault, fs) ∧
      tryReplace output temporary content fs = (.error fault, fs)) ∨
    ∃ fs', createFile temporary fs = (.ok (fs.locate temporary), fs') ∧
      tryReplace output temporary content fs =
        renameFile temporary output (written fs (fs.locate temporary) content) := by
  rw [tryReplace_apply]
  rcases hcreate : createFile temporary fs with ⟨fault | location, fs'⟩
  · obtain rfl := createFile_error hcreate
    exact .inl ⟨fault, rfl, rfl⟩
  · obtain ⟨hreach, -, -, rfl⟩ := createFile_eq_ok_iff.mp hcreate
    obtain rfl := hreach.eq
    refine .inr ⟨_, rfl, ?_⟩
    have happend : appendBytes (fs.locate temporary) content
        (fs.put (fs.locate temporary) (.file ByteArray.empty)) =
          (.ok (), written fs (fs.locate temporary) content) := by
      refine appendBytes_eq_ok_iff.mpr ⟨ByteArray.empty, ?_, by rw [ByteArray.empty_append]; rfl⟩
      rw [node?_put hreach.ne_nil, if_pos rfl]
    simp only [happend]

theorem replaceFile_ok (hne : fs.locate output ≠ fs.locate temporary)
    (h : replaceFile output temporary content fs = (.ok (), fs')) :
    Replaceable fs output temporary ∧ fs'.working = fs.working ∧
      ∀ place, fs'.node? place =
        if place = fs.locate output then some (.file content)
        else if place = fs.locate temporary then none
        else fs.node? place := by
  unfold replaceFile at h
  rcases tryReplace_cases output temporary content fs with ⟨fault, -, htry⟩ | ⟨made, hcreate, htry⟩
  · rw [htry] at h
    cases h
  rw [htry] at h
  obtain ⟨hreach, hasks, hfree, -⟩ := createFile_eq_ok_iff.mp hcreate
  split at h
  · next fs'' hrename =>
      cases h
      obtain ⟨-, hreach', -, hasks', hfree', content', hcontent, rfl⟩ :=
        renameFile_eq_ok_iff.mp hrename
      rw [reaches_written hreach.ne_nil hfree, locate_written] at hreach'
      rw [locate_written, node?_written hreach.ne_nil, if_pos rfl] at hcontent
      rw [locate_written, node?_written hreach.ne_nil, if_neg hne] at hfree'
      cases hcontent
      refine ⟨⟨hreach, hreach', hasks, hasks', hfree, hfree'⟩, rfl, fun place => ?_⟩
      rw [locate_written, locate_written, node?_put hreach'.ne_nil, node?_clear hreach.ne_nil,
        node?_written hreach.ne_nil]
      split
      · rfl
      · split <;> rfl
  · cases h

theorem bytes_of_replaceFile (hne : fs.locate output ≠ fs.locate temporary)
    (h : replaceFile output temporary content fs = (.ok (), fs')) :
    fs'.bytes output = .ok content := by
  obtain ⟨hready, hworking, hnode⟩ := replaceFile_ok hne h
  refine bytes_of_reaches (hready.reachesOutput.congr hworking fun place hplace => ?_)
    hready.outputFile (by rw [hnode, if_pos rfl])
  rw [isDirectoryAt, decide_eq_true_iff] at hplace ⊢
  have houtput : place ≠ fs.locate output := fun h => hready.outputFree (h ▸ hplace)
  have htemporary : place ≠ fs.locate temporary := fun h => hready.temporaryFree (h ▸ hplace)
  rw [hnode, if_neg houtput, if_neg htemporary, hplace]

theorem replaceFile_error {fault : Fault}
    (hnew : ∀ content, fs.node? (fs.locate temporary) ≠ some (.file content))
    (hne : fs.locate output ≠ fs.locate temporary)
    (h : replaceFile output temporary content fs = (.error fault, fs')) :
    ¬ Replaceable fs output temporary ∧ fs'.working = fs.working ∧
      ∀ place, fs'.node? place = fs.node? place := by
  unfold replaceFile at h
  rcases tryReplace_cases output temporary content fs with
    ⟨fault, hcreate, htry⟩ | ⟨made, hcreate, htry⟩
  · rw [htry] at h
    have hsame : (removeFile temporary fs).2 = fs := by
      rcases hremove : removeFile temporary fs with ⟨_ | _, after⟩
      · exact removeFile_error hremove
      · obtain ⟨-, -, ⟨content, hcontent⟩, -⟩ := removeFile_eq_ok_iff.mp hremove
        exact absurd hcontent (hnew content)
    cases h
    rw [hsame]
    refine ⟨fun hreplace => ?_, rfl, fun _ => rfl⟩
    rw [createFile_eq_ok_iff.mpr ⟨hreplace.reachesTemporary, hreplace.temporaryFile,
      hreplace.temporaryFree, rfl⟩] at hcreate
    cases hcreate
  rw [htry] at h
  obtain ⟨hreach, hasks, hfree, -⟩ := createFile_eq_ok_iff.mp hcreate
  have hcontent : (written fs (fs.locate temporary) content).node? (fs.locate temporary) =
      some (.file content) := by
    rw [node?_written hreach.ne_nil, if_pos rfl]
  split at h
  · cases h
  · next fault' fs'' hrename =>
      have hremove : removeFile temporary (written fs (fs.locate temporary) content) =
          (.ok (), (written fs (fs.locate temporary) content).clear (fs.locate temporary)) :=
        removeFile_eq_ok_iff.mpr ⟨(reaches_written hreach.ne_nil hfree).mpr hreach, hasks,
          ⟨content, hcontent⟩, rfl⟩
      obtain rfl := renameFile_error hrename
      cases h
      rw [hremove]
      refine ⟨fun hreplace => ?_, rfl, fun place => ?_⟩
      · rw [renameFile_eq_ok_iff.mpr ⟨(reaches_written hreach.ne_nil hfree).mpr hreach,
          (reaches_written hreach.ne_nil hfree).mpr hreplace.reachesOutput, hasks,
          hreplace.outputFile, ?_, content, hcontent, rfl⟩] at hrename
        · cases hrename
        · rw [locate_written, node?_written hreach.ne_nil, if_neg hne]
          exact hreplace.outputFree
      · rw [node?_clear hreach.ne_nil, node?_written hreach.ne_nil]
        split
        · next hplace =>
            rcases hnode : fs.node? (fs.locate temporary) with _ | _ | old
            · rw [hplace, hnode]
            · exact absurd hnode hfree
            · exact absurd hnode (hnew old)
        · rfl

end HtmlComponents.Style
