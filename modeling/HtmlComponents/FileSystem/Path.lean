/-!
# Paths

A path is a text that slashes cut into pieces. Empty pieces and single dots lead
nowhere, so a path can say the same with many of them or with none. What a path
names is its last piece that leads somewhere, and its parent is the text in
front of that piece, kept as it was written except for what leads nowhere at its
end.

All of this is about the text alone. Two dots name no file and are not resolved
here: what they lead to is known to the file system only.
-/

namespace HtmlComponents.FileSystem

/-- A path as it was written. -/
structure Path where
  text : String
  deriving DecidableEq

namespace Path

/-- The pieces of a text between its slashes. There is one more of them than
there are slashes. -/
def cut : List Char → List (List Char)
  | [] => [[]]
  | c :: rest =>
    if c = '/' then [] :: cut rest
    else
      match cut rest with
      | [] => [[c]]
      | piece :: pieces => (c :: piece) :: pieces

/-- The text that slashes cut into the given pieces. -/
def join : List (List Char) → List Char
  | [] => []
  | [piece] => piece
  | piece :: next :: pieces => piece ++ '/' :: join (next :: pieces)

/-- Whether a piece leads nowhere. -/
def isIdle (piece : List Char) : Bool := piece.isEmpty || piece = ['.']

/-- The pieces without those at the end that lead nowhere. -/
def trim (pieces : List (List Char)) : List (List Char) :=
  (pieces.reverse.dropWhile isIdle).reverse

/-- What a path starts with: the slash of an absolute path, or a dot for the
place where one is. Neither is taken away with the pieces that lead nowhere. -/
def lead (path : Path) : List Char :=
  match path.text.toList with
  | '/' :: _ => ['/']
  | ['.'] => ['.']
  | '.' :: '/' :: _ => ['.']
  | _ => []

/-- The pieces after the start of a path, up to the last one that leads somewhere. -/
def body (path : Path) : List (List Char) :=
  trim (cut (path.text.toList.drop path.lead.length))

/-- What a path names. A path that ends by going up, or that only says where one
is, names nothing. -/
def fileName? (path : Path) : Option String :=
  match path.body.getLast? with
  | none => none
  | some piece => if piece = ['.', '.'] then none else some (String.ofList piece)

/-- The path of the directory that holds what the path leads to. The root has no
parent, and neither has the empty path. -/
def parent? (path : Path) : Option Path :=
  if path.body.isEmpty then
    if path.lead = ['.'] then some ⟨""⟩ else none
  else
    some ⟨String.ofList (path.lead ++ join (trim path.body.dropLast))⟩

/-- A name below a path. -/
def child (path : Path) (name : String) : Path :=
  if path.text.isEmpty || path.text.endsWith "/" then ⟨path.text ++ name⟩
  else ⟨path.text ++ "/" ++ name⟩

/-- The path of another name in the same directory. -/
def sibling (path : Path) (name : String) : Path :=
  (path.parent?.getD path).child name

/-! ## A parent is shorter -/

theorem cut_ne_nil (text : List Char) : cut text ≠ [] := by
  cases text with
  | nil => simp [cut]
  | cons c rest =>
    simp only [cut]
    split
    · simp
    · split <;> simp

theorem join_cut (text : List Char) : join (cut text) = text := by
  induction text with
  | nil => rfl
  | cons c rest ih =>
    obtain ⟨piece, later, pieces⟩ := List.exists_cons_of_ne_nil (cut_ne_nil rest)
    rw [pieces] at ih
    simp only [cut, pieces]
    split
    · next slash => simp [join, ih, slash]
    · cases later <;> simp_all [join]

theorem length_join_append (front back : List (List Char)) :
    (join front).length + (join back).length ≤ (join (front ++ back)).length := by
  induction front with
  | nil => simp [join]
  | cons piece later ih =>
    cases later with
    | nil =>
      cases back with
      | nil => simp [join]
      | cons => simp only [List.cons_append, List.nil_append, join, List.length_append,
          List.length_cons]; omega
    | cons next later =>
      simp only [List.cons_append, join, List.length_append, List.length_cons] at ih ⊢
      omega

theorem trim_append (pieces : List (List Char)) : ∃ back, pieces = trim pieces ++ back :=
  ⟨(pieces.reverse.takeWhile isIdle).reverse, by
    rw [trim, ← List.reverse_append, List.takeWhile_append_dropWhile, List.reverse_reverse]⟩

theorem length_join_trim (pieces : List (List Char)) :
    (join (trim pieces)).length ≤ (join pieces).length := by
  obtain ⟨back, split⟩ := trim_append pieces
  have := length_join_append (trim pieces) back
  rw [← split] at this
  omega

theorem not_isIdle_getLast_trim (pieces : List (List Char)) (h : trim pieces ≠ []) :
    isIdle ((trim pieces).getLast h) = false := by
  have reversed : pieces.reverse.dropWhile isIdle ≠ [] := by simpa [trim] using h
  simpa [trim, List.getLast_reverse] using List.head_dropWhile_not isIdle reversed

theorem lead_isPrefix (path : Path) : path.lead <+: path.text.toList := by
  unfold lead
  split <;> simp_all

/-- Going from a path to its parent, and to the parent's parent, comes to an end. -/
theorem length_parent_lt {path parent : Path} (h : path.parent? = some parent) :
    parent.text.length < path.text.length := by
  have whole : path.text.length =
      path.lead.length + (join (cut (path.text.toList.drop path.lead.length))).length := by
    have := (lead_isPrefix path).length_le
    rw [join_cut, List.length_drop, ← String.length_toList]
    omega
  unfold parent? at h
  split at h
  · split at h
    · next start =>
      obtain rfl := Option.some.inj h
      rw [whole, start]
      exact Nat.add_pos_left Nat.one_pos _
    · cases h
  · next full =>
    have full : path.body ≠ [] := by simpa using full
    obtain rfl := Option.some.inj h
    have last : 0 < (path.body.getLast full).length := by
      have := not_isIdle_getLast_trim (cut (path.text.toList.drop path.lead.length)) full
      refine List.length_pos_iff.2 fun nothing => ?_
      simp only [body] at nothing
      simp [isIdle, nothing] at this
    have rebuilt := List.dropLast_concat_getLast full
    have parts := length_join_append path.body.dropLast [path.body.getLast full]
    rw [rebuilt] at parts
    have trimmed := length_join_trim path.body.dropLast
    have bodied : (join path.body).length ≤ _ :=
      length_join_trim (cut (path.text.toList.drop path.lead.length))
    simp only [join] at parts
    rw [whole, String.length_ofList, List.length_append]
    omega

end Path

end HtmlComponents.FileSystem
