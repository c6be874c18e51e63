import HtmlComponents.TypeName
import Mathlib.Data.List.TakeWhile

/-!
# Short names of types

The short name of a type is cut out of the full name at both ends: behind the path that the
name leads with, and in front of the last segment of that path. `IsLeadingPath` and
`IsLastSegment` say what these two are without scanning for them.

Pairs of colons are counted from the end. In a row of three colons it is the last two that
separate, and so the last segment can be told from what is behind a pair: there is no pair in it
even with one more colon in front. It is not the longest end of the path without a pair of
colons, for that would keep one colon of the pair in front of it.

A path can end in a pair of colons, in front of a brace or an angle bracket, and then nothing is
behind the last pair. That a short name is not empty holds for all other paths.
-/

namespace HtmlComponents.TypeName

/-- What separates the segments of a path. -/
def colons : List Char := [':', ':']

/-- The path that a name leads with: as many of its first characters as can stand in a path. -/
structure IsLeadingPath (full path : List Char) : Prop where
  leads : path <+: full
  all : ∀ c ∈ path, isPathChar c
  longest : ∀ other, other <+: full → (∀ c ∈ other, isPathChar c) → other <+: path

/-- The last segment of a path: all of it, or what is behind the last pair of colons. -/
inductive IsLastSegment : List Char → List Char → Prop where
  | whole {path : List Char} (h : ¬colons <:+: path) : IsLastSegment path path
  | behind (front : List Char) {segment : List Char} (h : ¬colons <:+: ':' :: segment) :
      IsLastSegment (front ++ colons ++ segment) segment

theorem isLeadingPath_takeWhile (full : List Char) :
    IsLeadingPath full (full.takeWhile isPathChar) where
  leads := List.takeWhile_prefix isPathChar
  all := fun _ hc => List.mem_takeWhile_imp hc
  longest := by
    rintro other ⟨rest, rfl⟩ hother
    rw [List.takeWhile_append_of_pos hother]
    exact List.prefix_append _ _

theorem IsLeadingPath.eq {full path : List Char} (h : IsLeadingPath full path) :
    path = full.takeWhile isPathChar := by
  have htakeWhile := isLeadingPath_takeWhile full
  have hle := htakeWhile.longest path h.leads h.all
  have hge := h.longest _ htakeWhile.leads htakeWhile.all
  exact hle.sublist.eq_of_length_le hge.length_le

/-! ## Last segments -/

theorem IsLastSegment.suffix {path segment : List Char} (h : IsLastSegment path segment) :
    segment <:+ path := by
  cases h with
  | whole h => exact List.suffix_rfl
  | behind front h => exact List.suffix_append _ _

theorem IsLastSegment.not_infix {path segment : List Char} (h : IsLastSegment path segment) :
    ¬colons <:+: segment := by
  cases h with
  | whole h => exact h
  | behind front h => exact fun hinside => h (hinside.trans (List.suffix_cons _ _).isInfix)

/-- The last segment is empty only behind a pair of colons. -/
theorem IsLastSegment.ne_nil {path segment : List Char} (h : IsLastSegment path segment)
    (hpath : path ≠ []) (hend : ¬colons <:+ path) : segment ≠ [] := by
  rintro rfl
  cases h with
  | whole h => exact hpath rfl
  | behind front h => exact hend ⟨front, (List.append_nil _).symm⟩

theorem exists_isLastSegment (path : List Char) : ∃ segment, IsLastSegment path segment := by
  induction path with
  | nil => exact ⟨[], .whole (by decide)⟩
  | cons c rest ih =>
      obtain ⟨segment, hsegment⟩ := ih
      cases hsegment with
      -- a character in front of a pair does not matter
      | behind front h => exact ⟨segment, .behind (c :: front) h⟩
      | whole h =>
          by_cases hpair : colons <+: c :: rest
          · -- the only pair is the one in front
            obtain ⟨segment, hsegment⟩ := hpair
            cases hsegment
            exact ⟨segment, .behind [] h⟩
          · refine ⟨c :: rest, .whole fun hinside => ?_⟩
            exact (List.infix_cons_iff.mp hinside).elim hpair h

namespace lastSegment

/-- A character that is not the first of a pair of colons is passed over. -/
theorem go_cons {c : Char} {rest : List Char} (h : ¬colons <+: c :: rest) :
    go (c :: rest) = c :: go rest := by
  refine go.eq_3 c rest fun later hc hrest => h ?_
  rw [hc, hrest]
  exact ⟨later, rfl⟩

theorem go_eq_self {path : List Char} (h : ¬colons <:+: path) : go path = path := by
  induction path with
  | nil => rfl
  | cons c rest ih =>
      have hrest : ¬colons <:+: rest := fun hinside => h (List.infix_cons_iff.mpr (.inr hinside))
      rw [go_cons fun hlead => h hlead.isInfix, ih hrest]

theorem go_append {front : List Char} (h : ¬colons <:+: front ++ [':']) (rest : List Char) :
    go (front ++ colons ++ rest) = front := by
  induction front with
  | nil => rfl
  | cons c front ih =>
      rw [List.cons_append, List.infix_cons_iff, not_or] at h
      have hpair : ¬colons <+: c :: (front ++ colons ++ rest) := by
        -- a pair at the front would be in `front`, or use the first colon behind it
        intro hlead
        have hlonger : c :: (front ++ [':']) <+: c :: (front ++ colons ++ rest) :=
          ⟨':' :: rest, by simp [colons]⟩
        exact h.1 (List.prefix_of_prefix_length_le hlead hlonger (by simp [colons]))
      rw [List.cons_append, List.cons_append, go_cons hpair, ih h.2]

end lastSegment

theorem IsLastSegment.eq {path segment : List Char} (h : IsLastSegment path segment) :
    lastSegment path = segment := by
  cases h with
  | whole h =>
      have hreverse : ¬colons <:+: path.reverse := fun hinside => h (List.reverse_infix.mp hinside)
      rw [lastSegment, lastSegment.go_eq_self hreverse, List.reverse_reverse]
  | behind front h =>
      have hreverse : ¬colons <:+: segment.reverse ++ [':'] := by
        rw [← List.reverse_cons]
        exact fun hinside => h (List.reverse_infix.mp hinside)
      have hpath : (front ++ colons ++ segment).reverse =
          segment.reverse ++ colons ++ front.reverse := by
        simp [colons]
      rw [lastSegment, hpath, lastSegment.go_append hreverse, List.reverse_reverse]

theorem isLastSegment_lastSegment (path : List Char) :
    IsLastSegment path (lastSegment path) := by
  obtain ⟨segment, hsegment⟩ := exists_isLastSegment path
  rwa [hsegment.eq]

/-! ## Short names -/

theorem short_eq_self {full : String} (hpath : full.toList.takeWhile isPathChar = []) :
    short full = full := by
  rw [short, hpath]
  rfl

theorem toList_short {full : String} (hpath : full.toList.takeWhile isPathChar ≠ []) :
    (short full).toList = lastSegment (full.toList.takeWhile isPathChar) := by
  rw [short, if_neg (by simpa using hpath)]
  exact String.toList_ofList

/-- A segment on its own is not shortened. -/
theorem short_segment {name : String} (hall : ∀ c ∈ name.toList, isPathChar c)
    (hpair : ¬colons <:+: name.toList) : short name = name := by
  have hpath : name.toList.takeWhile isPathChar = name.toList :=
    List.takeWhile_eq_self_iff.mpr hall
  by_cases hempty : name.toList = []
  · exact short_eq_self (hpath.trans hempty)
  · have hlast : lastSegment name.toList = name.toList := (IsLastSegment.whole hpair).eq
    rw [← String.toList_inj, toList_short (hpath.symm ▸ hempty), hpath, hlast]

theorem short_short (full : String) : short (short full) = short full := by
  by_cases hpath : full.toList.takeWhile isPathChar = []
  · rw [short_eq_self hpath, short_eq_self hpath]
  · have hlast := isLastSegment_lastSegment (full.toList.takeWhile isPathChar)
    rw [← toList_short hpath] at hlast
    refine short_segment (fun c hc => ?_) hlast.not_infix
    exact List.mem_takeWhile_imp (hlast.suffix.subset hc)

/-- A name that does not begin with a path is its own short name. Otherwise the short name is
the last segment of the path that the name leads with, and if the path does not end in a pair of
colons, it is not empty. A short name is not shortened any more. -/
theorem short_isLastSegment {full : String} (hfull : full ≠ "") :
    ∃ first rest path, full.toList = first :: rest ∧ IsLeadingPath full.toList path ∧
      (¬isPathChar first → short full = full) ∧
      (isPathChar first → ¬colons <:+ path → IsLastSegment path (short full).toList) ∧
      (¬colons <:+ path → short full ≠ "") ∧
      short (short full) = short full := by
  have hchars : full.toList ≠ [] := fun h => hfull (String.toList_eq_nil_iff.mp h)
  obtain ⟨first, rest, hfirst⟩ := List.exists_cons_of_ne_nil hchars
  have hself : ¬isPathChar first → short full = full := by
    intro h
    exact short_eq_self (by rw [hfirst, List.takeWhile_cons_of_neg h])
  have hpath : isPathChar first → full.toList.takeWhile isPathChar ≠ [] := by
    intro h
    rw [hfirst, List.takeWhile_cons_of_pos h]
    exact List.cons_ne_nil _ _
  have hlast : isPathChar first →
      IsLastSegment (full.toList.takeWhile isPathChar) (short full).toList := by
    intro h
    rw [toList_short (hpath h)]
    exact isLastSegment_lastSegment _
  refine ⟨first, rest, _, hfirst, isLeadingPath_takeWhile _, hself, fun h _ => hlast h,
    fun hend => ?_, short_short full⟩
  by_cases h : isPathChar first
  · exact fun hempty => (hlast h).ne_nil (hpath h) hend (String.toList_eq_nil_iff.mpr hempty)
  · rwa [hself h]

/-- Type arguments behind the path. -/
theorem short_isLastSegment_wrapper :
    ∃ path, IsLeadingPath "a::Wrapper<b::Inner>".toList path ∧
      IsLastSegment path (short "a::Wrapper<b::Inner>").toList ∧
      short "a::Wrapper<b::Inner>" ≠ "" := by
  have hfull : "a::Wrapper<b::Inner>" ≠ "" := by decide
  obtain ⟨first, rest, path, hchars, hpath, -, hlast, hne, -⟩ := short_isLastSegment hfull
  have hfirst : isPathChar first := by
    cases hchars
    decide
  have hend : ¬colons <:+ path := by
    rw [hpath.eq]
    decide
  exact ⟨path, hpath, hlast hfirst hend, hne hend⟩

/-- A longer end of the path than the last segment can be without a pair of colons, and behind a
pair of colons at the end of the path there is nothing. -/
theorem longer_suffix_and_empty_short :
    IsLeadingPath "a::b::Card".toList "a::b::Card".toList ∧
      short "a::b::Card" = "Card" ∧
      ":Card".toList <:+ "a::b::Card".toList ∧ ¬colons <:+: ":Card".toList ∧
      short "app::main::\x7b\x7bclosure\x7d\x7d" = "" := by
  refine ⟨?_, by decide, by decide, by decide, by decide⟩
  exact isLeadingPath_takeWhile "a::b::Card".toList

end HtmlComponents.TypeName
