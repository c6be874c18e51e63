import Mathlib.Data.List.Infix
import HtmlComponents.FileSystem.Store

/-!
# The course of a path

Paths are texts, and different texts can lead to the same place: a slash can be
doubled, a dot can stand between two slashes, and `..` leads back. What matters is
the course of a path, the names that it goes through when the pieces that lead
nowhere are left out. The course of a parent is the course without its last name, and
the course of a child is the course with one name more, whatever the texts look like.
`course_parent` and `course_child` say so, and nothing else is used later on of how
a path is cut and joined.

The place that a path means is read off its course without looking at what is
there. The places it goes through are the waypoints, and they are where directories can
be made on the way to it.
-/

namespace HtmlComponents.FileSystem

namespace Path

/-! ## Pieces -/

/-- The pieces that lead somewhere. -/
def lively (pieces : List (List Char)) : List (List Char) :=
  pieces.filter fun piece => !isIdle piece

@[simp] theorem lively_nil : lively [] = [] := rfl

theorem lively_append (front back : List (List Char)) :
    lively (front ++ back) = lively front ++ lively back :=
  List.filter_append ..

theorem lively_cons_of_isIdle {piece : List Char} (h : isIdle piece = true)
    (pieces : List (List Char)) : lively (piece :: pieces) = lively pieces := by
  rw [lively, List.filter_cons_of_neg (by simp [h]), lively]

theorem lively_cons_of_not_isIdle {piece : List Char} (h : isIdle piece = false)
    (pieces : List (List Char)) : lively (piece :: pieces) = piece :: lively pieces := by
  rw [lively, List.filter_cons_of_pos (by simp [h]), lively]

theorem lively_dropWhile (pieces : List (List Char)) :
    lively (pieces.dropWhile isIdle) = lively pieces := by
  induction pieces with
  | nil => rfl
  | cons piece pieces ih =>
      by_cases h : isIdle piece = true
      · rw [List.dropWhile_cons_of_pos h, ih, lively_cons_of_isIdle h]
      · rw [List.dropWhile_cons_of_neg h]

theorem lively_trim (pieces : List (List Char)) : lively (trim pieces) = lively pieces := by
  have h := lively_dropWhile pieces.reverse
  rw [lively, lively, List.filter_reverse] at h
  rw [lively, trim, List.filter_reverse, h, List.reverse_reverse, lively]

/-- What remains of pieces after trimming ends with the last one that leads somewhere. -/
theorem lively_eq_of_trim_ne_nil {pieces : List (List Char)} (h : trim pieces ≠ []) :
    lively pieces = lively (trim pieces).dropLast ++ [(trim pieces).getLast h] := by
  conv_lhs => rw [← lively_trim, ← List.dropLast_concat_getLast h]
  rw [lively_append, lively_cons_of_not_isIdle (not_isIdle_getLast_trim pieces h), lively_nil]

theorem lively_eq_nil_of_trim {pieces : List (List Char)} (h : trim pieces = []) :
    lively pieces = [] := by
  rw [← lively_trim, h, lively_nil]

/-! ## Cutting -/

theorem cut_append_slash (front back : List Char) :
    cut (front ++ '/' :: back) = cut front ++ cut back := by
  induction front with
  | nil => rfl
  | cons c front ih =>
      rw [List.cons_append, cut, ih, cut]
      split
      · rfl
      · obtain ⟨piece, pieces, hpieces⟩ := List.exists_cons_of_ne_nil (cut_ne_nil front)
        rw [hpieces]
        rfl

theorem cut_of_no_slash {text : List Char} (h : '/' ∉ text) : cut text = [text] := by
  induction text with
  | nil => rfl
  | cons c text ih =>
      rw [List.mem_cons, not_or] at h
      rw [cut, if_neg (Ne.symm h.1), ih h.2]

theorem not_mem_slash_of_mem_cut {text piece : List Char} (h : piece ∈ cut text) :
    '/' ∉ piece := by
  induction text generalizing piece with
  | nil => simp_all [cut]
  | cons c text ih =>
      obtain ⟨first, later, hcut⟩ := List.exists_cons_of_ne_nil (cut_ne_nil text)
      rw [cut, hcut] at h
      rw [hcut] at ih
      split at h
      · rcases List.mem_cons.mp h with rfl | h
        · exact List.not_mem_nil
        · exact ih h
      · next hc =>
          rcases List.mem_cons.mp h with rfl | h
          · rw [List.mem_cons, not_or]
            exact ⟨Ne.symm hc, ih List.mem_cons_self⟩
          · exact ih (List.mem_cons_of_mem _ h)

/-- Pieces without slashes are found again. -/
theorem cut_join {pieces : List (List Char)} (hsome : pieces ≠ [])
    (h : ∀ piece ∈ pieces, '/' ∉ piece) : cut (join pieces) = pieces := by
  fun_induction join pieces with
  | case1 => exact absurd rfl hsome
  | case2 piece => exact cut_of_no_slash (h piece List.mem_cons_self)
  | case3 piece next pieces ih =>
      rw [List.forall_mem_cons] at h
      rw [cut_append_slash, cut_of_no_slash h.1, ih (List.cons_ne_nil _ _) h.2]
      rfl

theorem join_concat {front : List (List Char)} (h : front ≠ []) (piece : List Char) :
    join (front ++ [piece]) = join front ++ '/' :: piece := by
  fun_induction join front with
  | case1 => exact absurd rfl h
  | case2 first => rfl
  | case3 first next pieces ih =>
      rw [List.cons_append, List.cons_append, join, ← List.cons_append,
        ih (List.cons_ne_nil _ _), List.append_assoc, List.cons_append]

/-! ## How a path begins -/

theorem lead_cases (path : Path) :
    path.lead = [] ∧ path.text.toList.head? ≠ some '/' ∨
    path.lead = ['/'] ∧ (∃ more, path.text.toList = '/' :: more) ∨
    path.lead = ['.'] ∧
      (path.text.toList = ['.'] ∨ ∃ more, path.text.toList = '.' :: '/' :: more) := by
  unfold lead
  split
  · next more h => exact .inr (.inl ⟨rfl, more, h⟩)
  · next h => exact .inr (.inr ⟨rfl, .inl h⟩)
  · next more h => exact .inr (.inr ⟨rfl, .inr ⟨more, h⟩⟩)
  · next h _ _ =>
      refine .inl ⟨rfl, fun hhead => ?_⟩
      obtain ⟨more, hmore⟩ := List.head?_eq_some_iff.mp hhead
      exact h more hmore

theorem lively_cut_drop_lead (path : Path) :
    lively (cut (path.text.toList.drop path.lead.length)) = lively (cut path.text.toList) := by
  rcases lead_cases path with ⟨hlead, -⟩ | ⟨hlead, more, htext⟩ | ⟨hlead, htext | ⟨more, htext⟩⟩
  · rw [hlead]
    rfl
  · rw [hlead, htext]
    rfl
  · rw [hlead, htext]
    rfl
  · rw [hlead, htext]
    rfl

theorem trim_isPrefix (pieces : List (List Char)) : trim pieces <+: pieces := by
  obtain ⟨back, h⟩ := trim_append pieces
  exact ⟨back, h.symm⟩

theorem join_isPrefix (front back : List (List Char)) :
    join front <+: join (front ++ back) := by
  fun_induction join front with
  | case1 => exact List.nil_prefix
  | case2 piece =>
      cases back with
      | nil => exact List.prefix_refl _
      | cons => exact List.prefix_append ..
  | case3 piece next pieces ih =>
      rw [List.cons_append, List.cons_append, join]
      exact (List.prefix_append_right_inj _).mpr (List.cons_prefix_cons.mpr ⟨rfl, ih⟩)

/-- The pieces of a parent, and what of the path comes behind them. -/
theorem exists_back (path : Path) : ∃ back,
    cut (path.text.toList.drop path.lead.length) = trim path.body.dropLast ++ back := by
  obtain ⟨back, hback⟩ := ((trim_isPrefix path.body.dropLast).trans
    (List.dropLast_prefix path.body)).trans (trim_isPrefix _)
  exact ⟨back, hback.symm⟩

/-! ## Parents -/

/-- The text of a parent, cut, has the pieces of the path but for the last one that
leads somewhere. The two can differ in idle pieces at the beginning. -/
theorem cut_parent (path : Path) : ∃ front middle rest : List (List Char),
    (∀ piece ∈ front, isIdle piece = true) ∧ (∀ piece ∈ middle, isIdle piece = true) ∧
      cut (path.lead ++ join (trim path.body.dropLast)) = front ++ rest ∧
      trim path.body.dropLast = middle ++ rest := by
  obtain ⟨back, hback⟩ := exists_back path
  have hslash : ∀ piece ∈ trim path.body.dropLast, '/' ∉ piece := fun piece hpiece =>
    not_mem_slash_of_mem_cut (hback ▸ List.mem_append_left back hpiece)
  rcases hpieces : trim path.body.dropLast with _ | ⟨first, pieces⟩
  · refine ⟨cut path.lead, [], [], ?_, nofun, by simp [join], rfl⟩
    rcases lead_cases path with ⟨hlead, -⟩ | ⟨hlead, -⟩ | ⟨hlead, -⟩ <;> rw [hlead] <;> decide
  rw [hpieces] at hslash hback
  have hcut := cut_join (List.cons_ne_nil first pieces) hslash
  rcases lead_cases path with ⟨hlead, -⟩ | ⟨hlead, -⟩ | ⟨hlead, htext⟩
  · exact ⟨[], [], first :: pieces, nofun, nofun, by rw [hlead, List.nil_append, hcut]; rfl, rfl⟩
  · refine ⟨[[]], [], first :: pieces, by decide, nofun, ?_, rfl⟩
    rw [hlead, List.singleton_append, cut, if_pos rfl, hcut]
    rfl
  · -- what follows the dot begins with a slash, so the first piece is empty
    have hfirst : first = [] := by
      rw [hlead] at hback
      rcases htext with htext | ⟨more, htext⟩ <;> rw [htext] at hback
      · exact (List.cons.inj hback).1.symm
      · exact (List.cons.inj hback).1.symm
    cases pieces with
    | nil =>
        have hlast := not_isIdle_getLast_trim path.body.dropLast (by simp [hpieces])
        simp [hpieces, hfirst, isIdle] at hlast
    | cons next pieces =>
        refine ⟨[['.']], [[]], next :: pieces, by decide, by decide, ?_, by rw [hfirst]; rfl⟩
        rw [hlead, hfirst, join, List.nil_append, cut_append_slash,
          cut_join (List.cons_ne_nil _ _) (List.forall_mem_cons.mp hslash).2]
        rfl

theorem lively_append_of_isIdle {front : List (List Char)}
    (h : ∀ piece ∈ front, isIdle piece = true) (rest : List (List Char)) :
    lively (front ++ rest) = lively rest := by
  rw [lively_append, lively, List.filter_eq_nil_iff.mpr (by simpa using h), List.nil_append]

theorem lively_cut_parent (path : Path) :
    lively (cut (path.lead ++ join (trim path.body.dropLast))) =
      lively (trim path.body.dropLast) := by
  obtain ⟨front, middle, rest, hfront, hmiddle, hcut, htrim⟩ := cut_parent path
  rw [hcut, htrim, lively_append_of_isIdle hfront, lively_append_of_isIdle hmiddle]

theorem lively_cut_text {path : Path} (h : path.body ≠ []) :
    lively (cut path.text.toList) = lively path.body.dropLast ++ [path.body.getLast h] := by
  rw [← lively_cut_drop_lead]
  exact lively_eq_of_trim_ne_nil h

/-- The names that a path goes through, without the pieces that lead nowhere. -/
def course (path : Path) : List String := (lively (cut path.text.toList)).map String.ofList

theorem course_of_parent?_eq_none {path : Path} (h : path.parent? = none) :
    path.course = [] := by
  unfold parent? at h
  split at h
  · next hempty =>
      rw [course, ← lively_cut_drop_lead, lively_eq_nil_of_trim (List.isEmpty_iff.mp hempty)]
      rfl
  · cases h

/-- A parent is a path to the place before the last name. -/
theorem course_parent {path above : Path} (h : path.parent? = some above) :
    above.course = path.course.dropLast := by
  unfold parent? at h
  split at h
  · next hempty =>
      have hnone := lively_eq_nil_of_trim (List.isEmpty_iff.mp hempty)
      split at h
      · cases h
        rw [course, course, ← lively_cut_drop_lead path, hnone]
        rfl
      · cases h
  · next hfull =>
      have hfull : path.body ≠ [] := by simpa using hfull
      cases h
      rw [course, course, String.toList_ofList, lively_cut_parent, lively_trim,
        lively_cut_text hfull, List.map_append, List.map_singleton, List.dropLast_concat]

theorem text_parent_isPrefix {path above : Path} (h : path.parent? = some above) :
    above.text.toList <+: path.text.toList := by
  unfold parent? at h
  split at h
  · split at h
    · cases h
      exact List.nil_prefix
    · cases h
  · cases h
    obtain ⟨back, hback⟩ := exists_back path
    obtain ⟨more, hmore⟩ := lead_isPrefix path
    have hjoin := join_isPrefix (trim path.body.dropLast) back
    rw [← hback, join_cut, ← hmore, List.drop_left] at hjoin
    rw [String.toList_ofList, ← hmore]
    exact (List.prefix_append_right_inj _).mpr hjoin

/-- A parent begins at the root just when the path does. -/
theorem head?_parent {path above : Path} (h : path.parent? = some above) :
    above.text.toList.head? = some '/' ↔ path.text.toList.head? = some '/' := by
  have hlead : path.lead = ['/'] → above.text.toList.head? = some '/' := by
    intro hlead
    unfold parent? at h
    split at h
    · split at h
      · next hdot => cases hdot.symm.trans hlead
      · cases h
    · cases h
      rw [hlead, String.toList_ofList]
      rfl
  rcases lead_cases path with ⟨-, hhead⟩ | ⟨hslash, more, htext⟩ | ⟨-, htext⟩
  · refine ⟨fun habove => absurd ?_ hhead, fun hpath => absurd hpath hhead⟩
    obtain ⟨more, hmore⟩ := List.head?_eq_some_iff.mp habove
    obtain ⟨back, hback⟩ := text_parent_isPrefix h
    rw [← hback, hmore]
    rfl
  · rw [htext]
    exact ⟨fun _ => rfl, fun _ => hlead hslash⟩
  · have hdot : path.text.toList.head? = some '.' := by
      rcases htext with htext | ⟨more, htext⟩ <;> rw [htext] <;> rfl
    refine ⟨fun habove => ?_, fun hpath => ?_⟩
    · obtain ⟨more, hmore⟩ := List.head?_eq_some_iff.mp habove
      obtain ⟨back, hback⟩ := text_parent_isPrefix h
      rw [← hback, hmore] at hdot
      cases hdot
    · rw [hdot] at hpath
      cases hpath

/-! ## How a path ends -/

/-- The last piece of a path, empty if a slash is at its end. -/
def last (path : Path) : List Char := (cut path.text.toList).getLast (cut_ne_nil _)

theorem cut_eq_concat (path : Path) :
    cut path.text.toList = (cut path.text.toList).dropLast ++ [path.last] :=
  (List.dropLast_concat_getLast _).symm

theorem ne_nil_of_isIdle_eq_false {piece : List Char} (h : isIdle piece = false) :
    piece ≠ [] := by
  rintro rfl
  cases h

theorem ofList_ne_dot {piece : List Char} (h : isIdle piece = false) :
    String.ofList piece ≠ "." := by
  intro hdot
  have hpiece : piece = ['.'] := String.ofList_injective hdot
  rw [hpiece] at h
  cases h

theorem course_eq_concat {path : Path} (h : isIdle path.last = false) :
    path.course = path.course.dropLast ++ [String.ofList path.last] := by
  rw [course, cut_eq_concat, lively_append, lively_cons_of_not_isIdle h, lively_nil,
    List.map_append, List.map_singleton, List.dropLast_concat]

/-- Nothing that leads nowhere stands at the end of a parent, if it leads anywhere. -/
theorem course_parent_eq_nil {path above : Path} (h : path.parent? = some above)
    (hidle : isIdle above.last = true) : above.course = [] := by
  unfold parent? at h
  split at h
  · split at h
    · cases h
      rfl
    · cases h
  · cases h
    obtain ⟨front, middle, rest, hfront, hmiddle, hcut, htrim⟩ := cut_parent path
    rcases rest.eq_nil_or_concat with rfl | ⟨rest, piece, rfl⟩
    · rw [course, String.toList_ofList, hcut, lively_append_of_isIdle hfront]
      rfl
    · -- the last piece of the parent is the last one of the trimmed pieces
      have htrimmed := not_isIdle_getLast_trim path.body.dropLast (by simp [htrim])
      simp [last, hcut] at hidle
      simp [htrim, hidle] at htrimmed

/-! ## File names -/

/-- What a path names is the last name that it goes through. -/
theorem course_of_fileName? {path : Path} {name : String} (h : path.fileName? = some name) :
    path.course = path.course.dropLast ++ [name] ∧ name ≠ ".." := by
  unfold fileName? at h
  split at h
  · cases h
  · next piece hlast =>
      split at h
      · cases h
      · next hup =>
          cases h
          have hfull : path.body ≠ [] := by
            intro hempty
            rw [hempty] at hlast
            cases hlast
          rw [List.getLast?_eq_some_getLast hfull] at hlast
          cases hlast
          refine ⟨?_, fun hname => hup (String.ofList_injective hname)⟩
          rw [course, lively_cut_text hfull, List.map_append, List.map_singleton,
            List.dropLast_concat]

theorem not_mem_slash_of_mem_course {path : Path} {name : String} (h : name ∈ path.course) :
    '/' ∉ name.toList := by
  obtain ⟨piece, hpiece, rfl⟩ := List.mem_map.mp h
  rw [String.toList_ofList]
  exact not_mem_slash_of_mem_cut (List.mem_of_mem_filter hpiece)

theorem isIdle_of_mem_course {path : Path} {name : String} (h : name ∈ path.course) :
    isIdle name.toList = false := by
  obtain ⟨piece, hpiece, rfl⟩ := List.mem_map.mp h
  rw [String.toList_ofList]
  simpa using (List.mem_filter.mp hpiece).2

theorem mem_course_of_fileName? {path : Path} {name : String} (h : path.fileName? = some name) :
    name ∈ path.course := by
  rw [(course_of_fileName? h).1]
  exact List.mem_append_right _ List.mem_cons_self

theorem exists_parent {path : Path} {name : String} (h : path.fileName? = some name) :
    ∃ above, path.parent? = some above := by
  unfold fileName? at h
  split at h
  · cases h
  · next piece hlast =>
      have hfull : path.body.isEmpty = false := by
        rw [List.isEmpty_eq_false_iff]
        rintro hempty
        rw [hempty] at hlast
        cases hlast
      rw [parent?, if_neg (by simp [hfull])]
      exact ⟨_, rfl⟩

theorem endsWith_slash_iff (text : String) :
    text.endsWith "/" = true ↔ ∃ front, text.toList = front ++ ['/'] := by
  have h : text.endsWith "/" = true ↔ "/".toList <:+ text.toList := by
    have := @String.Slice.endsWith_string_iff "/" text.toSlice
    simpa using this
  rw [h]
  constructor
  · rintro ⟨front, hfront⟩
    exact ⟨front, hfront.symm⟩
  · rintro ⟨front, hfront⟩
    exact ⟨front, hfront.symm⟩

theorem cut_child (path : Path) {name : String} (hslash : '/' ∉ name.toList) :
    ∃ front, cut (path.child name).text.toList = front ++ [name.toList] ∧
      lively front = lively (cut path.text.toList) := by
  have hname : cut name.toList = [name.toList] := cut_of_no_slash hslash
  unfold child
  split
  · next h =>
      rcases Bool.or_eq_true_iff.mp h with hempty | hends
      · rw [String.isEmpty_iff] at hempty
        exact ⟨[], by rw [hempty, String.empty_append, hname]; rfl, by rw [hempty]; rfl⟩
      · obtain ⟨front, hfront⟩ := (endsWith_slash_iff _).mp hends
        refine ⟨cut front, ?_, ?_⟩
        · rw [String.toList_append, hfront, List.append_assoc, List.singleton_append,
            cut_append_slash, hname]
        · rw [hfront, cut_append_slash, lively_append]
          exact (List.append_nil _).symm
  · refine ⟨cut path.text.toList, ?_, rfl⟩
    rw [String.toList_append, String.toList_append, List.append_assoc]
    exact (cut_append_slash _ _).trans (congrArg _ hname)

/-- Below a path, one name more is gone through. -/
theorem course_child (path : Path) {name : String} (hslash : '/' ∉ name.toList)
    (hidle : isIdle name.toList = false) : (path.child name).course = path.course ++ [name] := by
  obtain ⟨front, hcut, hfront⟩ := path.cut_child hslash
  rw [course, hcut, lively_append, hfront, lively_cons_of_not_isIdle hidle, lively_nil,
    List.map_append, List.map_singleton, String.ofList_toList, course]

theorem last_child (path : Path) {name : String} (hslash : '/' ∉ name.toList) :
    (path.child name).last = name.toList := by
  obtain ⟨front, hcut, -⟩ := path.cut_child hslash
  simp [last, hcut]

/-- A sibling is at the place of the parent with one name more. -/
theorem course_sibling {path above : Path} (h : path.parent? = some above) {name : String}
    (hslash : '/' ∉ name.toList) (hidle : isIdle name.toList = false) :
    (path.sibling name).course = path.course.dropLast ++ [name] := by
  rw [sibling, h, Option.getD_some, course_child _ hslash hidle, course_parent h]

end Path

/-! ## Places -/

/-- Where a name leads from a place, if everything is there. -/
def follow (location : Location) (name : String) : Location :=
  if name = ".." then location.dropLast else location ++ [name]

/-- Where names lead, one after the other. -/
def descend (location : Location) (names : List String) : Location :=
  names.foldl follow location

/-- The place that a path means, whatever is there. -/
def locate (fs : FileSystem) (path : Path) : Location := descend (fs.start path) path.course

/-- The places that a path goes through, from where it starts to the one it means. -/
def waypoints (fs : FileSystem) (path : Path) : List Location :=
  path.course.inits.map (descend (fs.start path))

theorem descend_append (location : Location) (front back : List String) :
    descend location (front ++ back) = descend (descend location front) back :=
  List.foldl_append

theorem descend_concat (location : Location) (front : List String) {name : String}
    (h : name ≠ "..") : descend location (front ++ [name]) = descend location front ++ [name] := by
  rw [descend_append]
  exact if_neg h

theorem mem_waypoints {fs : FileSystem} {path : Path} {location : Location} :
    location ∈ fs.waypoints path ↔
      ∃ front, front <+: path.course ∧ descend (fs.start path) front = location := by
  simp [waypoints]

theorem startsWith_slash_iff (text : String) :
    text.startsWith "/" = true ↔ text.toList.head? = some '/' := by
  rw [String.startsWith_string_iff]
  constructor
  · rintro ⟨back, hback⟩
    rw [← hback]
    rfl
  · intro h
    obtain ⟨back, hback⟩ := List.head?_eq_some_iff.mp h
    exact ⟨back, hback.symm⟩

theorem start_eq_working (fs : FileSystem) {path : Path}
    (h : path.text.toList.head? ≠ some '/') : fs.start path = fs.working := by
  rw [start, if_neg (mt (startsWith_slash_iff _).mp h)]

theorem start_congr (fs : FileSystem) {path path' : Path}
    (h : path.text.toList.head? = some '/' ↔ path'.text.toList.head? = some '/') :
    fs.start path = fs.start path' := by
  rw [← startsWith_slash_iff, ← startsWith_slash_iff] at h
  rw [start, start]
  simp only [h]

theorem start_parent (fs : FileSystem) {path above : Path} (h : path.parent? = some above) :
    fs.start above = fs.start path :=
  fs.start_congr (Path.head?_parent h)

theorem start_child (fs : FileSystem) (path : Path) {name : String}
    (hslash : '/' ∉ name.toList) : fs.start (path.child name) = fs.start path := by
  refine fs.start_congr ?_
  unfold Path.child
  cases htext : path.text.toList with
  | nil =>
      have hempty : path.text = "" := String.toList_eq_nil_iff.mp htext
      rw [if_pos (by simp [hempty]), hempty, String.empty_append]
      constructor
      · intro h
        obtain ⟨more, hmore⟩ := List.head?_eq_some_iff.mp h
        rw [hmore] at hslash
        exact absurd List.mem_cons_self hslash
      · intro h
        cases h
  | cons c rest => split <;> simp [htext]

/-- A path to something leads below the place of its parent. -/
theorem locate_eq {fs : FileSystem} {path above : Path} {name : String}
    (hname : path.fileName? = some name) (habove : path.parent? = some above) :
    fs.locate path = fs.locate above ++ [name] := by
  obtain ⟨hcourse, hup⟩ := Path.course_of_fileName? hname
  rw [locate, hcourse, descend_concat _ _ hup, locate, Path.course_parent habove,
    fs.start_parent habove]

theorem locate_sibling {fs : FileSystem} {path above : Path} {name : String}
    (habove : path.parent? = some above) (hslash : '/' ∉ name.toList)
    (hidle : Path.isIdle name.toList = false) (hup : name ≠ "..") :
    fs.locate (path.sibling name) = fs.locate above ++ [name] := by
  rw [locate, Path.course_sibling habove hslash hidle, descend_concat _ _ hup, Path.sibling,
    habove, Option.getD_some, fs.start_child _ hslash, locate, Path.course_parent habove]

theorem waypoints_parent_subset {fs : FileSystem} {path above : Path}
    (h : path.parent? = some above) : fs.waypoints above ⊆ fs.waypoints path := by
  intro location hlocation
  rw [mem_waypoints] at hlocation ⊢
  rw [Path.course_parent h, fs.start_parent h] at hlocation
  obtain ⟨front, hfront, hlocate⟩ := hlocation
  exact ⟨front, hfront.trans (List.dropLast_prefix _), hlocate⟩

theorem locate_mem_waypoints (fs : FileSystem) (path : Path) :
    fs.locate path ∈ fs.waypoints path :=
  mem_waypoints.mpr ⟨_, List.prefix_refl _, rfl⟩

theorem textFault?_eq_none_iff {path : Path} : textFault? path = none ↔
    '\x00' ∉ path.text.toList ∧ path.text ≠ "" ∧ path.text.utf8ByteSize ≤ pathLimit := by
  unfold textFault?
  simp only [String.contains_char_eq, decide_eq_true_iff, String.isEmpty_iff]
  split
  · next hzero => simp [hzero]
  split
  · next hempty => simp [hempty]
  split
  · next hlong => simp [Nat.not_le.mpr hlong]
  · next hzero hempty hshort => simp [hzero, hempty, Nat.le_of_not_lt hshort]

theorem textFault?_parent {path above : Path} (habove : path.parent? = some above)
    (hsome : above.text ≠ "") (h : textFault? path = none) : textFault? above = none := by
  obtain ⟨back, hback⟩ := Path.text_parent_isPrefix habove
  have htext : above.text ++ String.ofList back = path.text := by
    rw [← String.toList_inj, String.toList_append, String.toList_ofList, hback]
  rw [textFault?_eq_none_iff, ← htext, String.toList_append, List.mem_append, not_or,
    String.utf8ByteSize_append] at h
  exact textFault?_eq_none_iff.mpr ⟨h.1.1, hsome, by omega⟩

end HtmlComponents.FileSystem
