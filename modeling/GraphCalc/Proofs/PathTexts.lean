import GraphCalc.ImagePath

/-!
# Texts of paths

A path is read from a text piece by piece, and the pieces that lead nowhere are dropped. What is left is
`Normalized`, and of such a path nothing is lost when it is written out: `Normalized.parse_text` reads it back.
So two normalized paths with one text are one path.

What is appended to a text goes to its last piece. `parse_append` keeps the pieces before it apart, the folders
that the text leads through.
-/

namespace GraphCalc.PosixPath

variable {text suffix piece : List Char} {segments : List (List Char)} {path other : PosixPath}

theorem pieces_eq_splitOn (text : List Char) : pieces text = text.splitOn '/' := by
  induction text with
  | nil => rfl
  | cons c rest ih =>
    rw [List.splitOn_cons_eq_if_modifyHead, ← ih, pieces]
    by_cases slash : c = '/'
    · simp [slash]
    · cases split : pieces rest with
      | nil => exact absurd (ih ▸ split) (List.splitOn_ne_nil '/' rest)
      | cons first others => simp [slash]

theorem pieces_ne_nil (text : List Char) : pieces text ≠ [] := by
  rw [pieces_eq_splitOn]
  exact List.splitOn_ne_nil '/' text

/-- The pieces with slashes between them are the text again. -/
theorem intercalate_pieces (text : List Char) : ['/'].intercalate (pieces text) = text := by
  rw [pieces_eq_splitOn]
  exact List.intercalate_splitOn '/'

theorem pieces_intercalate (nonempty : segments ≠ []) (whole : ∀ piece ∈ segments, '/' ∉ piece) :
    pieces (['/'].intercalate segments) = segments := by
  rw [pieces_eq_splitOn]
  exact List.splitOn_intercalate '/' whole nonempty

theorem slash_not_mem_piece (member : piece ∈ pieces text) : '/' ∉ piece := by
  induction text generalizing piece with
  | nil =>
    obtain rfl := List.mem_singleton.mp member
    exact List.not_mem_nil
  | cons c rest ih =>
    by_cases slash : c = '/'
    · rw [pieces, if_pos slash] at member
      rcases List.mem_cons.mp member with rfl | later
      · exact List.not_mem_nil
      · exact ih later
    · obtain ⟨first, others, split⟩ := List.exists_cons_of_ne_nil (pieces_ne_nil rest)
      rw [split] at ih
      simp only [pieces, if_neg slash, split, List.mem_cons] at member
      rcases member with rfl | later
      · simpa [Ne.symm slash] using ih List.mem_cons_self
      · exact ih (List.mem_cons_of_mem first later)

/-- What stands after the last slash of a text. -/
def lastPiece (text : List Char) : List Char := (pieces text).getLast (pieces_ne_nil text)

/-- The folders that a text leads through: what stands before its last slash, without the pieces that lead
nowhere. -/
def folders (text : List Char) : List (List Char) := (pieces text).dropLast.filter isSegment

theorem pieces_eq_append (text : List Char) :
    pieces text = (pieces text).dropLast ++ [lastPiece text] :=
  (List.dropLast_concat_getLast _).symm

theorem intercalate_append_last (separator last suffix : List Char) (before : List (List Char)) :
    separator.intercalate (before ++ [last ++ suffix]) = separator.intercalate (before ++ [last]) ++ suffix := by
  induction before with
  | nil => simp
  | cons first others ih =>
    rw [List.cons_append, List.cons_append, List.intercalate_cons_of_ne_nil (by simp),
      List.intercalate_cons_of_ne_nil (by simp), ih, List.append_assoc _ _ suffix]

/-- Text without a slash goes to the last piece of the text that it is appended to. -/
theorem pieces_append (whole : '/' ∉ suffix) (text : List Char) :
    pieces (text ++ suffix) = (pieces text).dropLast ++ [lastPiece text ++ suffix] := by
  have together :
      text ++ suffix = ['/'].intercalate ((pieces text).dropLast ++ [lastPiece text ++ suffix]) := by
    rw [intercalate_append_last, ← pieces_eq_append, intercalate_pieces]
  -- No piece has a slash in it, the longer last one included, so this is how the text comes apart again.
  have last : '/' ∉ lastPiece text := slash_not_mem_piece (List.getLast_mem _)
  rw [together, pieces_intercalate (by simp)]
  intro piece member
  rcases List.mem_append.mp member with before | same
  · exact slash_not_mem_piece (List.dropLast_subset _ before)
  · obtain rfl := List.mem_singleton.mp same
    simp [last, whole]

/-- A text starts a path of its own exactly if it starts with a slash. -/
theorem rootOf_eq_relative_iff : rootOf text = .relative ↔ text.head? ≠ some '/' := by
  cases text with
  | nil => simp [rootOf]
  | cons c rest =>
    by_cases slash : c = '/'
    · subst slash
      simp only [rootOf, List.takeWhile_cons]
      split <;> simp_all
    · simp [rootOf, slash]

/-- What goes on without a slash starts where the text before it starts. -/
theorem rootOf_append (unslashed : suffix.head? ≠ some '/') (text : List Char) :
    rootOf (text ++ suffix) = rootOf text := by
  have slashes : (text ++ suffix).takeWhile (· = '/') = text.takeWhile (· = '/') := by
    induction text with
    | nil => cases suffix <;> simp_all
    | cons c rest ih => simp only [List.cons_append, List.takeWhile_cons, ih]
  rw [rootOf, slashes, rootOf]

/-- Text that is no way through folders is appended to the last segment of a path. -/
theorem parse_append (whole : '/' ∉ suffix) (leads : isSegment (lastPiece text ++ suffix)) :
    parse (text ++ suffix) = ⟨rootOf text, folders text ++ [lastPiece text ++ suffix]⟩ := by
  have unslashed : suffix.head? ≠ some '/' := fun slash => whole (List.mem_of_head? slash)
  rw [parse, rootOf_append unslashed, pieces_append whole, List.filter_append, List.filter_cons_of_pos leads]
  rfl

/-- Every segment of a path leads somewhere, and none has a slash in it. -/
def Normalized (path : PosixPath) : Prop := ∀ segment ∈ path.segments, isSegment segment ∧ '/' ∉ segment

theorem normalized_parse (text : List Char) : (parse text).Normalized := by
  intro segment member
  obtain ⟨listed, leads⟩ := List.mem_filter.mp member
  exact ⟨leads, slash_not_mem_piece listed⟩

theorem Normalized.join (base : path.Normalized) (onwards : other.Normalized) :
    (path.join other).Normalized := by
  unfold PosixPath.join
  split
  · exact List.forall_mem_append.mpr ⟨base, onwards⟩
  · exact onwards

theorem filter_pieces_intercalate (normal : path.Normalized) :
    (pieces (['/'].intercalate path.segments)).filter isSegment = path.segments := by
  by_cases empty : path.segments = []
  · rw [empty]
    rfl
  · rw [pieces_intercalate empty fun piece member => (normal piece member).2]
    exact List.filter_eq_self.mpr fun piece member => (normal piece member).1

/-- The text of the segments of a path does not start with a slash. -/
theorem head?_intercalate (normal : path.Normalized) : (['/'].intercalate path.segments).head? ≠ some '/' := by
  obtain ⟨root, segments⟩ := path
  cases segments with
  | nil => simp
  | cons first others =>
    obtain ⟨leads, whole⟩ := normal first List.mem_cons_self
    cases first with
    | nil => cases leads
    | cons c rest =>
      rw [List.intercalate_cons_cons_left]
      simpa using Ne.symm (List.ne_of_not_mem_cons whole)

theorem rootOf_rootText (root : PathRoot) : rootOf (rootText root) = root := by
  cases root <;> rfl

/-- The slashes of a root are no segments. -/
theorem filter_pieces_rootText (root : PathRoot) (text : List Char) :
    (pieces (rootText root ++ text)).filter isSegment = (pieces text).filter isSegment := by
  cases root <;> simp [rootText, pieces, isSegment]

/-- A path is read back from its text. -/
theorem Normalized.parse_text (normal : path.Normalized) : parse path.text = path := by
  -- The path of no segments from no root is the only one that is written with a piece that leads nowhere.
  by_cases here : path.root = .relative ∧ path.segments = []
  · obtain ⟨root, segments⟩ := path
    obtain ⟨rfl, rfl⟩ := here
    rfl
  · rw [text, if_neg here, parse, rootOf_append (head?_intercalate normal), rootOf_rootText,
      filter_pieces_rootText, filter_pieces_intercalate normal]

theorem Normalized.text_inj (normal : path.Normalized) (otherNormal : other.Normalized) :
    path.text = other.text ↔ path = other := by
  constructor
  · intro same
    rw [← normal.parse_text, same, otherNormal.parse_text]
  · rintro rfl
    rfl

end GraphCalc.PosixPath
