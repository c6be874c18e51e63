import HtmlComponents.Proofs.Course

/-!
# Walking along a path

A path leads somewhere when every place it goes through is a directory. The walk of
the file system looks at one step after the other and stops at the first that fails,
while `Leads` speaks of the course as a whole. The two agree for walks that end at a
directory, which is all that is needed of the way to a file: `Reaches` adds the last
name, under which a directory can hold something.

In a tree, a walk that does not lead through directories stops because a name is too
long, because a file is in the way, or because a name is not there. Where the first
two are excluded the third remains, and that is the fault at which missing directories
are made.
-/

namespace HtmlComponents.FileSystem

variable {fs fs' : FileSystem} {location location' : Location} {names : List String}
  {path : Path}

/-! ## Ways through directories -/

/-- The names lead from a place through directories only, to a directory. -/
def Leads (fs : FileSystem) (location : Location) (names : List String) : Prop :=
  (∀ front, front <+: names → fs.isDirectoryAt (descend location front)) ∧
    ∀ name ∈ names, name.utf8ByteSize ≤ nameLimit

theorem leads_nil : fs.Leads location [] ↔ fs.isDirectoryAt location := by
  simp [Leads, descend]

theorem leads_cons {name : String} : fs.Leads location (name :: names) ↔
    fs.isDirectoryAt location ∧ name.utf8ByteSize ≤ nameLimit ∧
      fs.Leads (follow location name) names := by
  constructor
  · intro ⟨hway, hshort⟩
    rw [List.forall_mem_cons] at hshort
    refine ⟨hway [] List.nil_prefix, hshort.1, fun front hfront => ?_, hshort.2⟩
    exact hway (name :: front) (List.cons_prefix_cons.mpr ⟨rfl, hfront⟩)
  · rintro ⟨hhere, hshort, hway, hlater⟩
    refine ⟨fun front hfront => ?_, List.forall_mem_cons.mpr ⟨hshort, hlater⟩⟩
    cases front with
    | nil => exact hhere
    | cons first front =>
        obtain ⟨rfl, hlater⟩ := List.cons_prefix_cons.mp hfront
        exact hway front hlater

theorem leads_concat {name : String} : fs.Leads location (names ++ [name]) ↔
    fs.Leads location names ∧ name.utf8ByteSize ≤ nameLimit ∧
      fs.isDirectoryAt (descend location (names ++ [name])) := by
  induction names generalizing location with
  | nil => rw [List.nil_append, leads_cons, leads_nil, leads_nil]; rfl
  | cons first names ih =>
      rw [List.cons_append, leads_cons, ih, leads_cons]
      simp only [and_assoc]
      rfl

theorem Leads.isDirectoryAt (h : fs.Leads location names) :
    fs.isDirectoryAt (descend location names) :=
  h.1 names (List.prefix_refl _)

theorem Leads.here (h : fs.Leads location names) : fs.isDirectoryAt location :=
  h.1 [] List.nil_prefix

theorem Leads.of_prefix {front : List String} (h : fs.Leads location names)
    (hfront : front <+: names) : fs.Leads location front :=
  ⟨fun first hfirst => h.1 first (hfirst.trans hfront), fun name hname =>
    h.2 name (hfront.subset hname)⟩

/-- More directories leave a way as it is. -/
theorem Leads.mono (hdirectories : ∀ place, fs.isDirectoryAt place → fs'.isDirectoryAt place)
    (h : fs.Leads location names) : fs'.Leads location names :=
  ⟨fun front hfront => hdirectories _ (h.1 front hfront), h.2⟩

theorem step_dot (h : fs.isDirectoryAt location) : fs.step location "." = .ok location := by
  rw [step, if_neg (by simp [h]), if_pos rfl]

theorem isDirectoryAt_of_step {name : String} (h : fs.step location name = .ok location') :
    fs.isDirectoryAt location := by
  unfold step at h
  split at h
  · cases h
  · next hhere => simpa using hhere

/-- A step to a directory, other than staying. -/
theorem step_eq_ok_iff {name : String} (hdot : name ≠ ".") (h : fs.isDirectoryAt location') :
    fs.step location name = .ok location' ↔
      fs.isDirectoryAt location ∧ name.utf8ByteSize ≤ nameLimit ∧
        follow location name = location' := by
  by_cases hhere : fs.isDirectoryAt location = true
  swap
  · exact iff_of_false (fun hstep => hhere (isDirectoryAt_of_step hstep)) fun h => hhere h.1
  rw [step, if_neg (by simp [hhere]), if_neg hdot, follow]
  by_cases hup : name = ".."
  · have hshort : name.utf8ByteSize ≤ nameLimit := by rw [hup]; decide
    simp [hup, hhere, hup ▸ hshort]
  · rw [if_neg hup, if_neg hup]
    split
    · next hlong => simp [Nat.not_le.mpr hlong]
    split
    · next hshort hnone =>
        refine iff_of_false (by simp) fun ⟨_, _, hthere⟩ => ?_
        rw [Option.isNone_iff_eq_none, hthere] at hnone
        simp [isDirectoryAt, hnone] at h
    · next hshort _ => simp [hhere, Nat.le_of_not_lt hshort]

/-- A walk that ends at a directory goes where the names lead, dots left out. -/
theorem walk_eq_ok_iff (h : fs.isDirectoryAt location') :
    fs.walk location names = .ok location' ↔
      fs.Leads location (names.filter (· ≠ ".")) ∧
        descend location (names.filter (· ≠ ".")) = location' := by
  induction names generalizing location with
  | nil =>
      rw [walk, List.filter_nil, leads_nil, Except.ok.injEq]
      exact ⟨fun heq => ⟨heq ▸ h, heq⟩, And.right⟩
  | cons name names ih =>
      rw [walk]
      by_cases hdot : name = "."
      · rw [hdot, List.filter_cons_of_neg (by simp)]
        by_cases hhere : fs.isDirectoryAt location = true
        · rw [step_dot hhere]
          exact ih
        · refine iff_of_false (fun hwalk => hhere ?_) fun hway => hhere hway.1.here
          split at hwalk
          · cases hwalk
          · next hstep => exact isDirectoryAt_of_step hstep
      · rw [List.filter_cons_of_pos (by simp [hdot]), leads_cons]
        constructor
        · intro hwalk
          split at hwalk
          · cases hwalk
          · next next hstep =>
              obtain ⟨hway, hend⟩ := ih.mp hwalk
              obtain ⟨hhere, hshort, rfl⟩ := (step_eq_ok_iff hdot hway.here).mp hstep
              exact ⟨⟨hhere, hshort, hway⟩, hend⟩
        · intro ⟨⟨hhere, hshort, hway⟩, hend⟩
          rw [(step_eq_ok_iff hdot hway.here).mpr ⟨hhere, hshort, rfl⟩]
          exact ih.mpr ⟨hway, hend⟩

/-! ## Where a path ends -/

theorem filter_steps (path : Path) : (steps path).filter (· ≠ ".") = path.course := by
  rw [steps, List.filter_map, List.filter_filter, Path.course, Path.lively]
  congr 1
  refine List.filter_congr fun piece _ => ?_
  have hdot : String.ofList piece = "." ↔ piece = ['.'] :=
    ⟨fun h => String.ofList_injective h, fun h => h ▸ rfl⟩
  simp [Path.isIdle, hdot, Bool.and_comm]

theorem steps_eq_concat (h : path.last ≠ []) :
    steps path = (steps path).dropLast ++ [String.ofList path.last] := by
  rw [steps, Path.cut_eq_concat, List.filter_append, List.filter_cons_of_pos (by simpa using h),
    List.filter_nil, List.map_append, List.map_singleton, List.dropLast_concat]

theorem course_of_getLast?_steps {name : String} (h : (steps path).getLast? = some name)
    (hdot : name ≠ ".") :
    path.course = ((steps path).dropLast).filter (· ≠ ".") ++ [name] := by
  obtain ⟨front, hfront⟩ := List.getLast?_eq_some_iff.mp h
  rw [← filter_steps, hfront, List.dropLast_concat, List.filter_append,
    List.filter_cons_of_pos (by simpa using hdot), List.filter_nil]

theorem asksForDirectory_iff : asksForDirectory path ↔ path.text ≠ "" ∧ path.last = [] := by
  rw [asksForDirectory, Path.endsWith_slash_iff]
  constructor
  · rintro ⟨front, hfront⟩
    refine ⟨fun hempty => ?_, ?_⟩
    · simp [hempty] at hfront
    · have hcut : Path.cut path.text.toList = Path.cut front ++ [[]] := by
        rw [hfront, Path.cut_append_slash]
        rfl
      simp [Path.last, hcut]
  · rintro ⟨hsome, hlast⟩
    have hcut := Path.cut_eq_concat path
    rw [hlast] at hcut
    have hfront : (Path.cut path.text.toList).dropLast ≠ [] := by
      intro hnil
      rw [hnil] at hcut
      apply hsome
      rw [← String.toList_eq_nil_iff, ← Path.join_cut path.text.toList, hcut]
      rfl
    exact ⟨_, by rw [← Path.join_cut path.text.toList, hcut, Path.join_concat hfront]⟩

/-- A path leads to a directory if directories lead there. -/
theorem resolve_eq_ok_iff (h : fs.isDirectoryAt location) :
    fs.resolve path = .ok location ↔
      textFault? path = none ∧ fs.Leads (fs.start path) path.course ∧
        fs.locate path = location := by
  rw [resolve]
  split
  · next fault htext => exact iff_of_false (by simp) (by simp [htext])
  · next htext =>
      rw [walk_eq_ok_iff h, List.filter_append, filter_steps]
      have hslash : (if asksForDirectory path then ["."] else []).filter (· ≠ ".") = [] := by
        split <;> rfl
      rw [hslash, List.append_nil, locate]
      simp [htext]

theorem isDirectory_iff :
    fs.isDirectory path ↔ textFault? path = none ∧ fs.Leads (fs.start path) path.course := by
  rw [isDirectory]
  constructor
  · intro h
    split at h
    · next location hresolve =>
        obtain ⟨htext, hway, -⟩ := (resolve_eq_ok_iff h).mp hresolve
        exact ⟨htext, hway⟩
    · cases h
  · rintro ⟨htext, hway⟩
    rw [(resolve_eq_ok_iff hway.isDirectoryAt).mpr ⟨htext, hway, rfl⟩]
    exact hway.isDirectoryAt

/-- A path ends in a member of a directory if directories lead to its last name. -/
theorem destination_eq_member_iff {directory : Location} {name : String} :
    fs.destination path = .ok (.member directory name) ↔
      textFault? path = none ∧ (steps path).getLast? = some name ∧ name ≠ "." ∧ name ≠ ".." ∧
        fs.Leads (fs.start path) path.course.dropLast ∧
        descend (fs.start path) path.course.dropLast = directory := by
  rw [destination]
  constructor
  · intro h
    split at h
    · cases h
    next htext =>
    split at h
    · cases h
    next name' hlast =>
    split at h
    · cases h
    next directory' hwalk =>
    split at h
    · cases h
    next hthere =>
    split at h
    · cases h
    next hname =>
    cases h
    rw [Bool.or_eq_true, decide_eq_true_iff, decide_eq_true_iff, not_or] at hname
    rw [course_of_getLast?_steps hlast hname.1, List.dropLast_concat]
    exact ⟨htext, hlast, hname.1, hname.2, (walk_eq_ok_iff (by simpa using hthere)).mp hwalk⟩
  · rintro ⟨htext, hlast, hdot, hup, hway, hend⟩
    rw [htext, hlast]
    rw [course_of_getLast?_steps hlast hdot, List.dropLast_concat] at hway hend
    have hthere := hend ▸ hway.isDirectoryAt
    simp [(walk_eq_ok_iff hthere).mpr ⟨hway, hend⟩, hthere, hdot, hup]

/-! ## Ways that are not there yet -/

/-- What stands at a place stands in a directory, and the process works in one. -/
structure IsTree (fs : FileSystem) : Prop where
  working : fs.isDirectoryAt fs.working
  parent : ∀ place, fs.node? place ≠ none → fs.isDirectoryAt place.dropLast

theorem IsTree.start (h : fs.IsTree) (path : Path) : fs.isDirectoryAt (fs.start path) := by
  rw [FileSystem.start]
  split
  · rfl
  · exact h.working

theorem IsTree.dropLast (h : fs.IsTree) (hlocation : fs.isDirectoryAt location) :
    fs.isDirectoryAt location.dropLast := by
  refine h.parent location fun hnone => ?_
  simp [isDirectoryAt, hnone] at hlocation

theorem isTree_ofWorking (name : String) : (ofWorking name).IsTree := by
  refine ⟨by simp [ofWorking, isDirectoryAt, node?], fun place hplace => ?_⟩
  suffices hempty : place.dropLast = [] by
    rw [hempty]
    rfl
  by_cases htop : place = []
  · rw [htop]
    rfl
  · have hname : [name] = place := by
      by_contra hother
      simp [ofWorking, node?, htop, hother] at hplace
    rw [← hname]
    rfl

theorem isDirectoryAt_put (hsome : location ≠ []) (hfree : fs.node? location = none)
    (node : Node) {place : Location} (hplace : fs.isDirectoryAt place) :
    (fs.put location node).isDirectoryAt place := by
  rw [FileSystem.isDirectoryAt, decide_eq_true_iff] at hplace ⊢
  rw [node?_put hsome, if_neg, hplace]
  rintro rfl
  cases hfree.symm.trans hplace

/-- Directories stay where they are when a file comes or goes in another place. -/
theorem isDirectoryAt_put_file (hsome : location ≠ []) (hfree : fs.node? location ≠ some .directory)
    (content : ByteArray) (place : Location) :
    (fs.put location (.file content)).isDirectoryAt place = fs.isDirectoryAt place := by
  rw [isDirectoryAt, isDirectoryAt, node?_put hsome]
  split
  · next hplace => simp [hplace, hfree]
  · rfl

theorem isDirectoryAt_clear (hsome : location ≠ []) (hfree : fs.node? location ≠ some .directory)
    (place : Location) : (fs.clear location).isDirectoryAt place = fs.isDirectoryAt place := by
  rw [isDirectoryAt, isDirectoryAt, node?_clear hsome]
  split
  · next hplace => simp [hplace, hfree]
  · rfl

/-- A tree stays one when something is put in a directory, where nothing was. -/
theorem IsTree.put (h : fs.IsTree) (hsome : location ≠ []) (hfree : fs.node? location = none)
    (hparent : fs.isDirectoryAt location.dropLast) (node : Node) :
    (fs.put location node).IsTree := by
  refine ⟨isDirectoryAt_put hsome hfree node h.working, fun place hplace => ?_⟩
  refine isDirectoryAt_put hsome hfree node ?_
  rw [node?_put hsome] at hplace
  split at hplace
  · next hhere => exact hhere ▸ hparent
  · exact h.parent place hplace

/-- No file is in the way of the names. -/
def Unbarred (fs : FileSystem) (location : Location) (names : List String) : Prop :=
  ∀ front, front <+: names → ∀ content, fs.node? (descend location front) ≠ some (.file content)

theorem Unbarred.tail {name : String} (h : fs.Unbarred location (name :: names)) :
    fs.Unbarred (follow location name) names :=
  fun front hfront => h (name :: front) (List.cons_prefix_cons.mpr ⟨rfl, hfront⟩)

theorem Unbarred.of_prefix {front : List String} (h : fs.Unbarred location names)
    (hfront : front <+: names) : fs.Unbarred location front :=
  fun first hfirst => h first (hfirst.trans hfront)

theorem Unbarred.isDirectoryAt (h : fs.Unbarred location names)
    (hthere : (fs.node? location).isSome) : fs.isDirectoryAt location := by
  obtain ⟨_ | content, hnode⟩ := Option.isSome_iff_exists.mp hthere
  · simpa [FileSystem.isDirectoryAt] using hnode
  · exact absurd hnode (h [] List.nil_prefix content)

/-- Where no file is in the way, a walk that does not lead through directories meets a
name that is not there. -/
theorem walk_eq_missing (htree : fs.IsTree) (hhere : fs.isDirectoryAt location)
    (hshort : ∀ name ∈ names.filter (· ≠ "."), name.utf8ByteSize ≤ nameLimit)
    (hfree : fs.Unbarred location (names.filter (· ≠ ".")))
    (hway : ¬ fs.Leads location (names.filter (· ≠ "."))) :
    fs.walk location names = .error .missing := by
  induction names generalizing location with
  | nil => exact absurd (leads_nil.mpr hhere) hway
  | cons name names ih =>
      rw [walk]
      by_cases hdot : name = "."
      · rw [hdot] at hshort hfree hway ⊢
        rw [List.filter_cons_of_neg (by simp)] at hshort hfree hway
        rw [step_dot hhere]
        exact ih hhere hshort hfree hway
      · rw [List.filter_cons_of_pos (by simp [hdot])] at hshort hfree hway
        rw [List.forall_mem_cons] at hshort
        -- from a directory on, only the next name can be missing
        by_cases hnext : fs.isDirectoryAt (follow location name) = true
        · rw [(step_eq_ok_iff hdot hnext).mpr ⟨hhere, hshort.1, rfl⟩]
          refine ih hnext hshort.2 hfree.tail fun hlater => hway ?_
          exact leads_cons.mpr ⟨hhere, hshort.1, hlater⟩
        · have hup : name ≠ ".." := by
            rintro rfl
            exact hnext (htree.dropLast hhere)
          have hnone : fs.node? (follow location name) = none := by
            by_contra hthere
            exact hnext (hfree.tail.isDirectoryAt (Option.isSome_iff_ne_none.mpr hthere))
          rw [follow, if_neg hup] at hnone
          rw [step, if_neg (by simp [hhere]), if_neg hdot, if_neg hup,
            if_neg (Nat.not_lt.mpr hshort.1), hnone]
          rfl

/-! ## Names that a directory can hold -/

/-- The path ends in a name that a directory on the way can hold, at the given place. -/
def Reaches (fs : FileSystem) (path : Path) (location : Location) : Prop :=
  ∃ directory name, fs.destination path = .ok (.member directory name) ∧
    name.utf8ByteSize ≤ nameLimit ∧ location = directory ++ [name]

theorem locate_of_destination {directory : Location} {name : String}
    (h : fs.destination path = .ok (.member directory name)) :
    fs.locate path = directory ++ [name] := by
  obtain ⟨-, hlast, hdot, hup, -, hend⟩ := destination_eq_member_iff.mp h
  have hcourse := course_of_getLast?_steps hlast hdot
  rw [hcourse, List.dropLast_concat] at hend
  rw [locate, hcourse, descend_concat _ _ hup, hend]

theorem Reaches.eq (h : fs.Reaches path location) : location = fs.locate path := by
  obtain ⟨directory, name, hend, -, rfl⟩ := h
  exact (locate_of_destination hend).symm

theorem Reaches.ne_nil (h : fs.Reaches path location) : location ≠ [] := by
  obtain ⟨directory, name, -, -, rfl⟩ := h
  exact List.append_ne_nil_of_right_ne_nil _ (List.cons_ne_nil _ _)

theorem Reaches.isDirectoryAt_dropLast (h : fs.Reaches path location) :
    fs.isDirectoryAt location.dropLast := by
  obtain ⟨directory, name, hend, -, rfl⟩ := h
  obtain ⟨-, -, -, -, hway, rfl⟩ := destination_eq_member_iff.mp hend
  rw [List.dropLast_concat]
  exact hway.isDirectoryAt

theorem Reaches.leads (h : fs.Reaches path location) :
    fs.Leads (fs.start path) path.course.dropLast := by
  obtain ⟨directory, name, hend, -, -⟩ := h
  exact (destination_eq_member_iff.mp hend).2.2.2.2.1

theorem walk_concat {name : String} : fs.walk location (names ++ [name]) =
    match fs.walk location names with
    | .error fault => .error fault
    | .ok next => fs.step next name := by
  induction names generalizing location with
  | nil =>
      rw [List.nil_append, walk, walk]
      simp only
      rcases fs.step location name with _ | next <;> rfl
  | cons first names ih =>
      rw [List.cons_append, walk, walk]
      rcases fs.step location first with _ | next
      · rfl
      · exact ih

/-- A path that does not ask for a directory leads to what stands at its place. -/
theorem Reaches.resolve (h : fs.Reaches path location) (hasks : asksForDirectory path = false)
    (hthere : fs.node? location ≠ none) : fs.resolve path = .ok location := by
  obtain ⟨directory, name, hend, hshort, rfl⟩ := h
  obtain ⟨htext, hlast, hdot, hup, hway, hdirectory⟩ := destination_eq_member_iff.mp hend
  obtain ⟨front, hfront⟩ := List.getLast?_eq_some_iff.mp hlast
  rw [course_of_getLast?_steps hlast hdot, hfront, List.dropLast_concat, List.dropLast_concat]
    at hway hdirectory
  have hthere' := hdirectory ▸ hway.isDirectoryAt
  rw [FileSystem.resolve, htext, hasks]
  simp only [Bool.false_eq_true, if_false, List.append_nil]
  rw [hfront, walk_concat, (walk_eq_ok_iff hthere').mpr ⟨hway, hdirectory⟩]
  simp only
  rw [step, if_neg (by simp [hthere']), if_neg hdot, if_neg hup,
    if_neg (Nat.not_lt.mpr hshort), if_neg (by simpa using hthere)]

/-- A path that ends in a name reaches its place if directories lead there. -/
theorem reaches_of_leads {name : String} (htext : textFault? path = none)
    (hlast : (steps path).getLast? = some name) (hdot : name ≠ ".") (hup : name ≠ "..")
    (hshort : name.utf8ByteSize ≤ nameLimit)
    (hway : fs.Leads (fs.start path) path.course.dropLast) :
    fs.Reaches path (fs.locate path) := by
  have hend := destination_eq_member_iff.mpr ⟨htext, hlast, hdot, hup, hway, rfl⟩
  exact ⟨_, name, hend, hshort, locate_of_destination hend⟩

/-- Where a path ends depends on the directories alone. -/
theorem Reaches.congr (hworking : fs'.working = fs.working)
    (hdirectories : ∀ place, fs.isDirectoryAt place → fs'.isDirectoryAt place)
    (h : fs.Reaches path location) : fs'.Reaches path location := by
  obtain ⟨directory, name, hend, hshort, rfl⟩ := h
  obtain ⟨htext, hlast, hdot, hup, hway, rfl⟩ := destination_eq_member_iff.mp hend
  have hstart : fs'.start path = fs.start path := by rw [start, start, hworking]
  refine ⟨_, name, destination_eq_member_iff.mpr ⟨htext, hlast, hdot, hup, ?_, rfl⟩, hshort, ?_⟩
  · rw [hstart]
    exact hway.mono hdirectories
  · rw [hstart]

theorem destination_of_isDirectory (h : fs.isDirectory path) :
    fs.destination path = .ok .fixed ∨ fs.Reaches path (fs.locate path) := by
  obtain ⟨htext, hway⟩ := isDirectory_iff.mp h
  rcases hlast : (steps path).getLast? with _ | name
  · exact .inl (by rw [destination, htext, hlast])
  have hfilter := filter_steps path
  obtain ⟨front, hfront⟩ := List.getLast?_eq_some_iff.mp hlast
  rw [hfront, List.filter_append] at hfilter
  -- the way without its last step leads through directories, too
  have hfirst : fs.Leads (fs.start path) (front.filter (· ≠ ".")) :=
    hway.of_prefix (hfilter ▸ List.prefix_append ..)
  have hwalk := (walk_eq_ok_iff hfirst.isDirectoryAt).mpr ⟨hfirst, rfl⟩
  by_cases hend : name = "." ∨ name = ".."
  · refine .inl ?_
    rw [destination, htext, hlast, hfront, List.dropLast_concat, hwalk]
    simp only [hfirst.isDirectoryAt]
    simp [hend]
  · rw [not_or] at hend
    rw [List.filter_cons_of_pos (by simpa using hend.1), List.filter_nil] at hfilter
    refine .inr (reaches_of_leads htext hlast hend.1 hend.2 ?_ ?_)
    · exact hway.2 name (hfilter ▸ List.mem_append_right _ List.mem_cons_self)
    · rwa [← hfilter, List.dropLast_concat]

end HtmlComponents.FileSystem
