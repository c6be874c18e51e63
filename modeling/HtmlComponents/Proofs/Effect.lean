import HtmlComponents.FileSystem.Operation
import HtmlComponents.Proofs.Walk

/-!
# What file operations do

An operation that fails leaves the file system as it was. When it succeeds, it has
reached the place that the path means, and has put one thing there or taken it away.
There is a lemma for each operation that says when it succeeds and what it leaves
behind, and none of the operations is opened again.

Making all the directories of a path is a recursion on its parents. What it leaves
behind is the same file system with some more directories on the way, be it that it
succeeds or that it fails: that is `Grown`. When it succeeds, directories lead along
the whole path. In a tree it succeeds if nothing is wrong with the path and no file is in
the way, and for the path of a parent there is no other case. Any other path can end
in a piece that leads nowhere, and then the last directory is asked for under a
name that nothing can be made under.
-/

namespace HtmlComponents.FileSystem

variable {fs fs' fs'' : FileSystem} {location place : Location} {path : Path}

/-! ## One operation -/

theorem occupant_eq_ok_iff {directory : Location} {name : String} {node : Option Node} :
    fs.occupant directory name = .ok (location, node) ↔
      name.utf8ByteSize ≤ nameLimit ∧ location = directory ++ [name] ∧
        node = fs.node? (directory ++ [name]) := by
  rw [occupant]
  split
  · next hlong => simp [Nat.not_le.mpr hlong]
  · next hshort => simp [Nat.le_of_not_lt hshort, eq_comm]

theorem createDirectory_eq_ok_iff : createDirectory path fs = (.ok (), fs') ↔
    fs.Reaches path (fs.locate path) ∧ fs.node? (fs.locate path) = none ∧
      fs' = fs.put (fs.locate path) .directory := by
  unfold createDirectory
  constructor
  · intro h
    split at h
    · cases h
    · cases h
    · next directory name hend =>
        split at h
        · cases h
        · cases h
        · next location hthere =>
            obtain ⟨hshort, hlocation, hnone⟩ := occupant_eq_ok_iff.mp hthere
            cases h
            rw [locate_of_destination hend, hlocation]
            exact ⟨⟨directory, name, hend, hshort, rfl⟩, hnone.symm, rfl⟩
  · rintro ⟨⟨directory, name, hend, hshort, hlocation⟩, hnone, rfl⟩
    rw [hlocation] at hnone ⊢
    rw [hend]
    simp only
    rw [occupant_eq_ok_iff.mpr ⟨hshort, rfl, hnone.symm⟩]

theorem createDirectory_error {fault : Fault}
    (h : createDirectory path fs = (.error fault, fs')) : fs' = fs := by
  unfold createDirectory at h
  repeat' split at h
  all_goals cases h
  all_goals rfl

theorem createFile_eq_ok_iff : createFile path fs = (.ok location, fs') ↔
    fs.Reaches path location ∧ asksForDirectory path = false ∧
      fs.node? location ≠ some .directory ∧ fs' = fs.put location (.file ByteArray.empty) := by
  unfold createFile
  constructor
  · intro h
    split at h
    · cases h
    · cases h
    · next directory name hend =>
        split at h
        · cases h
        next hasks =>
        split at h
        · cases h
        · cases h
        · next node hfree hthere =>
            obtain ⟨hshort, hlocation, hnode⟩ := occupant_eq_ok_iff.mp hthere
            cases h
            refine ⟨⟨directory, name, hend, hshort, hlocation⟩, by simpa using hasks, ?_, rfl⟩
            rw [hlocation, ← hnode]
            exact hfree
  · rintro ⟨⟨directory, name, hend, hshort, rfl⟩, hasks, hfree, rfl⟩
    rw [hend]
    simp only [hasks, Bool.false_eq_true, if_false]
    rw [occupant_eq_ok_iff.mpr ⟨hshort, rfl, rfl⟩]
    rcases hnode : fs.node? (directory ++ [name]) with _ | _ | content
    · rfl
    · exact absurd hnode hfree
    · rfl

theorem createFile_error {fault : Fault} (h : createFile path fs = (.error fault, fs')) :
    fs' = fs := by
  unfold createFile at h
  repeat' split at h
  all_goals cases h
  all_goals rfl

theorem appendBytes_eq_ok_iff {more : ByteArray} :
    appendBytes location more fs = (.ok (), fs') ↔
      ∃ content, fs.node? location = some (.file content) ∧
        fs' = fs.put location (.file (content ++ more)) := by
  unfold appendBytes
  constructor
  · intro h
    split at h
    · next content hcontent =>
        cases h
        exact ⟨content, hcontent, rfl⟩
    · cases h
    · cases h
  · rintro ⟨content, hcontent, rfl⟩
    rw [hcontent]

theorem appendBytes_error {more : ByteArray} {fault : Fault}
    (h : appendBytes location more fs = (.error fault, fs')) : fs' = fs := by
  unfold appendBytes at h
  repeat' split at h
  all_goals cases h
  all_goals rfl

theorem renameFile_eq_ok_iff {source target : Path} :
    renameFile source target fs = (.ok (), fs') ↔
      fs.Reaches source (fs.locate source) ∧ fs.Reaches target (fs.locate target) ∧
        asksForDirectory source = false ∧ asksForDirectory target = false ∧
          fs.node? (fs.locate target) ≠ some .directory ∧
            ∃ content, fs.node? (fs.locate source) = some (.file content) ∧
              fs' = (fs.clear (fs.locate source)).put (fs.locate target) (.file content) := by
  unfold renameFile
  constructor
  · intro h
    split at h
    · cases h
    next from? hfrom =>
    split at h
    · cases h
    next to? hto =>
    split at h
    · cases h
    · cases h
    next fromDirectory fromName toDirectory toName =>
    rw [locate_of_destination hfrom, locate_of_destination hto]
    split at h
    · cases h
    · cases h
    · cases h
    next old content hold =>
    obtain ⟨hshort, rfl, hcontent⟩ := occupant_eq_ok_iff.mp hold
    split at h
    · cases h
    next new there hnew =>
    obtain ⟨hshort', rfl, rfl⟩ := occupant_eq_ok_iff.mp hnew
    split at h
    · cases h
    next hasks =>
    split at h
    · cases h
    next hfree =>
    cases h
    rw [Bool.or_eq_true, not_or, Bool.not_eq_true, Bool.not_eq_true] at hasks
    exact ⟨⟨_, _, hfrom, hshort, rfl⟩, ⟨_, _, hto, hshort', rfl⟩, hasks.1, hasks.2, hfree,
      content, hcontent.symm, rfl⟩
  · rintro ⟨⟨_, _, hfrom, hshort, hsource⟩, ⟨_, _, hto, hshort', htarget⟩, hasks, hasks', hfree,
      content, hcontent, rfl⟩
    rw [hsource] at hcontent
    rw [htarget] at hfree
    rw [hfrom, hto, hsource, htarget]
    simp only
    rw [occupant_eq_ok_iff.mpr ⟨hshort, rfl, hcontent.symm⟩,
      occupant_eq_ok_iff.mpr ⟨hshort', rfl, rfl⟩]
    simp [hasks, hasks', hfree]

theorem renameFile_error {source target : Path} {fault : Fault}
    (h : renameFile source target fs = (.error fault, fs')) : fs' = fs := by
  unfold renameFile at h
  repeat' split at h
  all_goals cases h
  all_goals rfl

theorem removeFile_eq_ok_iff : removeFile path fs = (.ok (), fs') ↔
    fs.Reaches path (fs.locate path) ∧ asksForDirectory path = false ∧
      (∃ content, fs.node? (fs.locate path) = some (.file content)) ∧
        fs' = fs.clear (fs.locate path) := by
  unfold removeFile
  constructor
  · intro h
    split at h
    · cases h
    · cases h
    next directory name hend =>
    rw [locate_of_destination hend]
    split at h
    · cases h
    · cases h
    · cases h
    next location content hthere =>
    obtain ⟨hshort, rfl, hcontent⟩ := occupant_eq_ok_iff.mp hthere
    split at h
    · cases h
    next hasks =>
    cases h
    exact ⟨⟨_, _, hend, hshort, rfl⟩, by simpa using hasks, ⟨content, hcontent.symm⟩, rfl⟩
  · rintro ⟨⟨_, _, hend, hshort, hlocation⟩, hasks, ⟨content, hcontent⟩, rfl⟩
    rw [hlocation] at hcontent ⊢
    rw [hend]
    simp only
    rw [occupant_eq_ok_iff.mpr ⟨hshort, rfl, hcontent.symm⟩]
    simp [hasks]

theorem removeFile_error {fault : Fault} (h : removeFile path fs = (.error fault, fs')) :
    fs' = fs := by
  unfold removeFile at h
  repeat' split at h
  all_goals cases h
  all_goals rfl

theorem bytes_of_reaches {content : ByteArray} (h : fs.Reaches path location)
    (hasks : asksForDirectory path = false) (hfile : fs.node? location = some (.file content)) :
    fs.bytes path = .ok content := by
  rw [bytes, h.resolve hasks (by simp [hfile])]
  simp only [hfile]

/-! ## Making directories -/

/-- All that has changed is that directories stand at some of the given places, where
nothing was. -/
structure Grown (fs fs' : FileSystem) (places : List Location) : Prop where
  working : fs'.working = fs.working
  node? : ∀ place, fs'.node? place = fs.node? place ∨
    place ∈ places ∧ fs.node? place = none ∧ fs'.node? place = some .directory

namespace Grown

variable {places places' : List Location}

theorem refl (fs : FileSystem) (places : List Location) : Grown fs fs places :=
  ⟨rfl, fun _ => .inl rfl⟩

theorem subset (h : Grown fs fs' places) (hplaces : places ⊆ places') : Grown fs fs' places' :=
  ⟨h.working, fun place => (h.node? place).imp_right fun ⟨hplace, hgrown⟩ =>
    ⟨hplaces hplace, hgrown⟩⟩

theorem trans (h : Grown fs fs' places) (h' : Grown fs' fs'' places) : Grown fs fs'' places := by
  refine ⟨h'.working.trans h.working, fun place => ?_⟩
  rcases h.node? place with hsame | ⟨hplace, hnone, hmade⟩
  · rw [← hsame]
    exact h'.node? place
  · rcases h'.node? place with hsame' | ⟨-, hnone', -⟩
    · exact .inr ⟨hplace, hnone, hsame'.trans hmade⟩
    · cases hmade.symm.trans hnone'

theorem congr (h : Grown fs fs' places) (hworking : fs''.working = fs'.working)
    (hnode : ∀ place, fs''.node? place = fs'.node? place) : Grown fs fs'' places :=
  h.trans ⟨hworking, fun place => .inl (hnode place)⟩

theorem isDirectoryAt (h : Grown fs fs' places) (hplace : fs.isDirectoryAt place) :
    fs'.isDirectoryAt place := by
  rw [FileSystem.isDirectoryAt, decide_eq_true_iff] at hplace ⊢
  rcases h.node? place with hsame | ⟨-, -, hmade⟩
  · rw [hsame, hplace]
  · exact hmade

theorem node?_file (h : Grown fs fs' places) {content : ByteArray} :
    fs'.node? place = some (.file content) ↔ fs.node? place = some (.file content) := by
  rcases h.node? place with hsame | ⟨-, hnone, hmade⟩
  · rw [hsame]
  · simp [hnone, hmade]

end Grown

theorem start_eq_of_working (h : fs'.working = fs.working) : fs'.start path = fs.start path := by
  rw [start, start, h]

theorem locate_eq_of_working (h : fs'.working = fs.working) : fs'.locate path = fs.locate path := by
  rw [locate, locate, start_eq_of_working h]

theorem waypoints_eq_of_working (h : fs'.working = fs.working) :
    fs'.waypoints path = fs.waypoints path := by
  rw [waypoints, waypoints, start_eq_of_working h]

/-- Once directories lead along a path, those that were missing have been made. -/
theorem Grown.node?_eq (h : Grown fs fs' (fs.waypoints path))
    (hway : fs'.Leads (fs'.start path) path.course) (place : Location) :
    fs'.node? place =
      if place ∈ fs.waypoints path ∧ fs.node? place = none then some .directory
      else fs.node? place := by
  split
  · next hmade =>
      obtain ⟨front, hfront, rfl⟩ := mem_waypoints.mp hmade.1
      have hdirectory := hway.1 front hfront
      rwa [start_eq_of_working h.working, FileSystem.isDirectoryAt, decide_eq_true_iff]
        at hdirectory
  · next hkept =>
      exact (h.node? place).resolve_right fun hmade => hkept ⟨hmade.1, hmade.2.1⟩

theorem createDirectory_grown (path : Path) (fs : FileSystem) :
    Grown fs (createDirectory path fs).2 (fs.waypoints path) := by
  rcases h : createDirectory path fs with ⟨answer, fs'⟩
  cases answer with
  | error fault => exact createDirectory_error h ▸ .refl ..
  | ok =>
      obtain ⟨hreach, hnone, rfl⟩ := createDirectory_eq_ok_iff.mp h
      refine ⟨rfl, fun place => ?_⟩
      rw [node?_put hreach.ne_nil]
      split
      · next hplace =>
          subst hplace
          exact .inr ⟨fs.locate_mem_waypoints path, hnone, rfl⟩
      · exact .inl rfl

theorem settle_snd (path : Path) (tried : Except Fault Unit × FileSystem) :
    (settle path tried).2 = tried.2 := by
  obtain ⟨_ | _, fs⟩ := tried <;> rfl

/-- Making the directory of a path makes none but those that the path goes through, be it
that it succeeds or that it fails. -/
theorem createDirectories_grown (path : Path) (fs : FileSystem) :
    Grown fs (createDirectories path fs).2 (fs.waypoints path) := by
  fun_induction createDirectories path fs with
  | case1 => exact .refl ..
  | case2 path fs _ fs' hmissing => exact createDirectory_error hmissing ▸ .refl ..
  | case3 path fs _ fs' hmissing above habove fs'' hmade ih =>
      obtain rfl := createDirectory_error hmissing
      rw [hmade] at ih
      rw [settle_snd]
      refine (ih.subset (waypoints_parent_subset habove)).trans ?_
      rw [← waypoints_eq_of_working ih.working]
      exact createDirectory_grown path fs''
  | case4 path fs _ fs' hmissing above habove _ ih =>
      obtain rfl := createDirectory_error hmissing
      exact ih.subset (waypoints_parent_subset habove)
  | case5 path fs =>
      rw [settle_snd]
      exact createDirectory_grown path fs

theorem isDirectory_of_createDirectory (h : createDirectory path fs = (.ok (), fs')) :
    fs'.isDirectory path := by
  obtain ⟨⟨directory, name, hend, hshort, hlocation⟩, hnone, rfl⟩ :=
    createDirectory_eq_ok_iff.mp h
  obtain ⟨htext, hlast, hdot, -, hway, -⟩ := destination_eq_member_iff.mp hend
  have hgrown := createDirectory_grown path fs
  rw [h] at hgrown
  have hcourse := course_of_getLast?_steps hlast hdot
  refine isDirectory_iff.mpr ⟨htext, ?_⟩
  rw [hcourse, List.dropLast_concat] at hway
  rw [hcourse, leads_concat, ← hcourse]
  refine ⟨hway.mono fun _ => hgrown.isDirectoryAt, hshort, ?_⟩
  change isDirectoryAt _ (fs.locate path) = true
  rw [isDirectoryAt, node?_put (by simp [hlocation]), if_pos rfl]
  rfl

theorem settle_eq_ok_iff : (settle path (createDirectory path fs)).1 = .ok () ↔
    (createDirectory path fs).2.isDirectory path := by
  rcases h : createDirectory path fs with ⟨_ | _, fs'⟩
  · rw [settle]
    split <;> simp_all
  · exact iff_of_true rfl (isDirectory_of_createDirectory h)

theorem isDirectory_of_createDirectories (hsome : path.text ≠ "")
    (h : (createDirectories path fs).1 = .ok ()) :
    (createDirectories path fs).2.isDirectory path := by
  fun_induction createDirectories path fs with
  | case1 path fs hempty => exact absurd (String.isEmpty_iff.mp hempty) hsome
  | case2 => cases h
  | case3 path fs _ fs' _ above _ fs'' _ _ =>
      rw [settle_snd]
      exact settle_eq_ok_iff.mp h
  | case4 path fs _ fs' _ above _ hfailed _ => exact (hfailed _ (Prod.ext h rfl)).elim
  | case5 path fs =>
      rw [settle_snd]
      exact settle_eq_ok_iff.mp h

/-! ## When directories can be made -/

theorem createDirectory_isTree (h : fs.IsTree) : (createDirectory path fs).2.IsTree := by
  rcases hcreate : createDirectory path fs with ⟨_ | _, fs'⟩
  · rw [createDirectory_error hcreate]
    exact h
  · obtain ⟨hreach, hnone, rfl⟩ := createDirectory_eq_ok_iff.mp hcreate
    exact h.put hreach.ne_nil hnone hreach.isDirectoryAt_dropLast _

theorem createDirectories_isTree (h : fs.IsTree) : (createDirectories path fs).2.IsTree := by
  fun_induction createDirectories path fs with
  | case1 => exact h
  | case2 path fs _ fs' hmissing => exact createDirectory_error hmissing ▸ h
  | case3 path fs _ fs' hmissing above _ fs'' hmade ih =>
      obtain rfl := createDirectory_error hmissing
      have htree := ih h
      rw [hmade] at htree
      rw [settle_snd]
      exact createDirectory_isTree htree
  | case4 path fs _ fs' hmissing above _ _ ih =>
      obtain rfl := createDirectory_error hmissing
      exact ih h
  | case5 path fs =>
      rw [settle_snd]
      exact createDirectory_isTree h

theorem createDirectory_of_isDirectory (h : fs.isDirectory path) :
    createDirectory path fs = (.error .occupied, fs) := by
  rcases destination_of_isDirectory h with hend | hreach
  · rw [createDirectory, hend]
  · obtain ⟨directory, name, hend, hshort, hlocate⟩ := hreach
    have hthere := (isDirectory_iff.mp h).2.isDirectoryAt
    rw [← locate, hlocate, isDirectoryAt, decide_eq_true_iff] at hthere
    rw [createDirectory, hend]
    simp only
    rw [occupant_eq_ok_iff.mpr ⟨hshort, rfl, hthere.symm⟩]

/-- Nothing keeps the directory of a path from being made: the path is a good one, its
names are short enough, and no file is in the way. -/
structure Makeable (fs : FileSystem) (path : Path) : Prop where
  text : textFault? path = none
  short : ∀ name ∈ path.course, name.utf8ByteSize ≤ nameLimit
  unbarred : fs.Unbarred (fs.start path) path.course

theorem createDirectory_of_not_leads (htree : fs.IsTree) (hmake : fs.Makeable path)
    (htrimmed : Path.isIdle path.last = true → path.course = [])
    (hway : ¬ fs.Leads (fs.start path) path.course.dropLast) :
    createDirectory path fs = (.error .missing, fs) := by
  have hlast : Path.isIdle path.last = false := by
    rw [Bool.eq_false_iff]
    intro hidle
    rw [htrimmed hidle] at hway
    exact hway (leads_nil.mpr (htree.start path))
  have hsteps := steps_eq_concat (Path.ne_nil_of_isIdle_eq_false hlast)
  have hend : (steps path).getLast? = some (String.ofList path.last) := by
    rw [hsteps, List.getLast?_concat]
  have hcourse := course_of_getLast?_steps hend (Path.ofList_ne_dot hlast)
  have hfront : (steps path).dropLast.filter (· ≠ ".") <+: path.course :=
    hcourse ▸ List.prefix_append ..
  rw [hcourse, List.dropLast_concat] at hway
  have hwalk := walk_eq_missing htree (htree.start path)
    (fun name hname => hmake.short name (hfront.subset hname))
    (hmake.unbarred.of_prefix hfront) hway
  rw [createDirectory, destination, hmake.text, hend]
  simp only [hwalk]

theorem createDirectory_of_leads (htree : fs.IsTree) (hmake : fs.Makeable path)
    (htrimmed : Path.isIdle path.last = true → path.course = [])
    (hway : fs.Leads (fs.start path) path.course.dropLast) :
    (createDirectory path fs).2.isDirectory path ∧
      (createDirectory path fs).1 ≠ .error .missing := by
  by_cases hthere : fs.isDirectory path = true
  · rw [createDirectory_of_isDirectory hthere]
    exact ⟨hthere, by simp⟩
  have hnot : ¬ fs.Leads (fs.start path) path.course := fun h =>
    hthere (isDirectory_iff.mpr ⟨hmake.text, h⟩)
  have hlast : Path.isIdle path.last = false := by
    rw [Bool.eq_false_iff]
    intro hidle
    rw [htrimmed hidle] at hnot
    exact hnot (leads_nil.mpr (htree.start path))
  have hcourse := Path.course_eq_concat hlast
  have hshort := hmake.short (String.ofList path.last) (by rw [hcourse]; simp)
  have hnone : fs.node? (fs.locate path) = none := by
    by_contra hsome
    refine hnot ?_
    rw [hcourse, leads_concat, ← hcourse]
    refine ⟨hway, hshort, ?_⟩
    obtain ⟨_ | content, hnode⟩ := Option.ne_none_iff_exists'.mp hsome
    · rw [← locate, isDirectoryAt, hnode]
      rfl
    · exact absurd hnode (hmake.unbarred _ (List.prefix_refl _) content)
  have hup : String.ofList path.last ≠ ".." := by
    intro hup
    have hdirectory := htree.dropLast hway.isDirectoryAt
    rw [locate, hcourse, descend_append, hup] at hnone
    change fs.node? (descend (fs.start path) path.course.dropLast).dropLast = none at hnone
    simp [isDirectoryAt, hnone] at hdirectory
  have hcreate : createDirectory path fs = (.ok (), fs.put (fs.locate path) .directory) :=
    createDirectory_eq_ok_iff.mpr ⟨reaches_of_leads hmake.text
      (by rw [steps_eq_concat (Path.ne_nil_of_isIdle_eq_false hlast), List.getLast?_concat])
      (Path.ofList_ne_dot hlast) hup hshort hway, hnone, rfl⟩
  rw [hcreate]
  exact ⟨isDirectory_of_createDirectory hcreate, by simp⟩

theorem Makeable.parent {above : Path} (hmake : fs.Makeable path)
    (habove : path.parent? = some above) (hsome : above.text ≠ "") : fs.Makeable above := by
  have hfront : above.course <+: path.course := Path.course_parent habove ▸ List.dropLast_prefix _
  refine ⟨textFault?_parent habove hsome hmake.text, fun name hname => ?_, ?_⟩
  · exact hmake.short name (hfront.subset hname)
  · rw [start_parent _ habove]
    exact hmake.unbarred.of_prefix hfront

theorem Makeable.grown {places : List Location} (hmake : fs.Makeable path)
    (hgrown : Grown fs fs' places) : fs'.Makeable path := by
  refine ⟨hmake.text, hmake.short, fun front hfront content => ?_⟩
  rw [start_eq_of_working hgrown.working, ne_eq, hgrown.node?_file]
  exact hmake.unbarred front hfront content

theorem Makeable.of_grown {places : List Location} (hgrown : Grown fs fs' places)
    (hthere : fs'.isDirectory path) : fs.Makeable path := by
  obtain ⟨htext, hway⟩ := isDirectory_iff.mp hthere
  refine ⟨htext, hway.2, fun front hfront content => ?_⟩
  have hdirectory := hway.1 front hfront
  rw [start_eq_of_working hgrown.working] at hdirectory
  rw [ne_eq, ← hgrown.node?_file]
  intro hfile
  simp [isDirectoryAt, hfile] at hdirectory

/-- In a tree, making the directory of a path succeeds if nothing keeps it from being
made and nothing that leads nowhere stands at the end of the path. -/
theorem createDirectories_of_makeable (htree : fs.IsTree) (hmake : fs.Makeable path)
    (htrimmed : Path.isIdle path.last = true → path.course = []) :
    (createDirectories path fs).1 = .ok () := by
  fun_induction createDirectories path fs with
  | case1 => rfl
  | case2 path fs _ fs' hmissing htop =>
      exfalso
      by_cases hway : fs.Leads (fs.start path) path.course.dropLast
      · exact (createDirectory_of_leads htree hmake htrimmed hway).2 (by rw [hmissing])
      · rw [Path.course_of_parent?_eq_none htop] at hway
        exact hway (leads_nil.mpr (htree.start path))
  | case3 path fs _ fs' hmissing above habove fs'' hmade ih =>
      obtain rfl := createDirectory_error hmissing
      have hgrown := createDirectories_grown above fs'
      have htree' : (createDirectories above fs').2.IsTree := createDirectories_isTree htree
      have hthere := isDirectory_of_createDirectories (h := congrArg Prod.fst hmade)
      rw [hmade] at hgrown htree' hthere
      have hway : fs''.Leads (fs''.start path) path.course.dropLast := by
        rw [← Path.course_parent habove]
        by_cases hempty : above.text = ""
        · have hcourse : above.course = [] := by rw [Path.course, hempty]; rfl
          rw [hcourse]
          exact leads_nil.mpr (htree'.start path)
        · rw [← start_parent _ habove]
          exact (isDirectory_iff.mp (hthere hempty)).2
      exact settle_eq_ok_iff.mpr
        (createDirectory_of_leads htree' (hmake.grown hgrown) htrimmed hway).1
  | case4 path fs _ fs' hmissing above habove hfailed ih =>
      obtain rfl := createDirectory_error hmissing
      by_cases hempty : above.text = ""
      · refine (hfailed fs' ?_).elim
        rw [createDirectories, if_pos (by simp [hempty])]
      · exact ih htree (hmake.parent habove hempty) (Path.course_parent_eq_nil habove)
  | case5 path fs hfull hfound =>
      by_cases hway : fs.Leads (fs.start path) path.course.dropLast
      · exact settle_eq_ok_iff.mpr (createDirectory_of_leads htree hmake htrimmed hway).1
      · exact (hfound fs (createDirectory_of_not_leads htree hmake htrimmed hway)).elim

/-- Once the directory of a path is made, directories lead to it. -/
theorem leads_of_createDirectories (htree : fs.IsTree)
    (h : (createDirectories path fs).1 = .ok ()) :
    (createDirectories path fs).2.Leads ((createDirectories path fs).2.start path)
      path.course := by
  by_cases hempty : path.text = ""
  · have hcourse : path.course = [] := by rw [Path.course, hempty]; rfl
    rw [hcourse]
    exact leads_nil.mpr ((createDirectories_isTree htree).start path)
  · exact (isDirectory_iff.mp (isDirectory_of_createDirectories hempty h)).2

/-- In a tree, making the directory of a parent fails just when something keeps it from being
made. -/
theorem createDirectories_parent_iff {above : Path} (htree : fs.IsTree)
    (habove : path.parent? = some above) :
    (createDirectories above fs).1 = .ok () ↔ above.text = "" ∨ fs.Makeable above := by
  by_cases hempty : above.text = ""
  · rw [createDirectories, if_pos (by simp [hempty])]
    exact iff_of_true rfl (.inl hempty)
  · refine ⟨fun h => .inr ?_, fun h => ?_⟩
    · exact .of_grown (createDirectories_grown above fs)
        (isDirectory_of_createDirectories hempty h)
    · exact createDirectories_of_makeable htree (h.resolve_left hempty)
        (Path.course_parent_eq_nil habove)

end HtmlComponents.FileSystem
