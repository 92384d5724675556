import GraphCalc.Proofs.PathTexts

/-!
# Where images lie

The image of an identifier is a file in a folder. The last piece of the identifier gives the file its name,
and the pieces before it lead to the folder, from the output directory on or, if the identifier starts with a
slash, from the root: `imagePath_eq`. All that is to be said about images follows from the folder and the name.

An identifier whose pieces all lead down has an image of its own below the output directory. One that leads up
or starts from the root may lead out of the directory, and two that spell the way to one folder differently
share an image. `images_below_and_apart` tells them from each other.
-/

namespace GraphCalc

namespace PosixPath

variable {directory path folder : PosixPath} {name : List Char}

/-- The segment that leads up. -/
def parent : List Char := ['.', '.']

/-- A path lies below a directory: it starts where the directory starts, goes along the segments of the
directory, and does not lead up from there. -/
def Below (directory path : PosixPath) : Prop :=
  path.root = directory.root ∧ ∃ rest, path.segments = directory.segments ++ rest ∧ parent ∉ rest

/-- What is joined to a directory lies below it unless it leads up on the way. -/
theorem below_join_iff (relative : path.root = .relative) :
    Below directory (directory.join path) ↔ parent ∉ path.segments := by
  rw [join, if_pos relative]
  constructor
  · rintro ⟨_, rest, same, straight⟩
    rwa [List.append_cancel_left same]
  · exact fun straight => ⟨rfl, path.segments, rfl, straight⟩

/-- A file of a folder. -/
def file (folder : PosixPath) (name : List Char) : PosixPath := ⟨folder.root, folder.segments ++ [name]⟩

theorem file_inj {other : PosixPath} {otherName : List Char} :
    folder.file name = other.file otherName ↔ folder = other ∧ name = otherName := by
  obtain ⟨root, segments⟩ := folder
  obtain ⟨otherRoot, otherSegments⟩ := other
  simp [file, and_assoc]

theorem join_file (directory folder : PosixPath) (name : List Char) :
    directory.join (folder.file name) = (directory.join folder).file name := by
  by_cases relative : folder.root = .relative
  · simp [join, file, relative]
  · simp [join, file, relative]

end PosixPath

open PosixPath

variable {directory id a b : String}

/-- The name of an identifier's image. -/
def imageName (id : String) : List Char := lastPiece id.toList ++ ".png".toList

/-- The way to an identifier's image, from the output directory on or from the root. -/
def imageRoute (id : String) : PosixPath := ⟨rootOf id.toList, folders id.toList⟩

/-- The folder of an identifier's image. -/
def imageFolder (directory id : String) : PosixPath := (parse directory.toList).join (imageRoute id)

theorem three_lt_length_imageName (id : String) : 3 < (imageName id).length := by
  rw [imageName, List.length_append]
  exact Nat.lt_add_left _ (by decide)

-- The ending alone keeps the name of an image from being one of the segments with a meaning of their own.
theorem isSegment_imageName (id : String) : isSegment (imageName id) := by
  have long := three_lt_length_imageName id
  have here : imageName id ≠ [] := fun same => absurd (same ▸ long) (by decide)
  have dot : imageName id ≠ ['.'] := fun same => absurd (same ▸ long) (by decide)
  simp [isSegment, here, dot]

theorem parent_ne_imageName (id : String) : parent ≠ imageName id := fun same =>
  absurd (same ▸ three_lt_length_imageName id) (by decide)

theorem parse_append_png (id : String) :
    parse (id.toList ++ ".png".toList) = (imageRoute id).file (imageName id) :=
  parse_append (by decide) (isSegment_imageName id)

/-- An image is the file of its name in its folder. -/
theorem imagePath_eq (directory id : String) :
    imagePath directory id = (imageFolder directory id).file (imageName id) := by
  rw [imagePath, parse_append_png, join_file, imageFolder]

theorem normalized_imagePath (directory id : String) : (imagePath directory id).Normalized :=
  (normalized_parse _).join (normalized_parse _)

/-- Two identifiers share an image exactly if it has one name and lies in one folder. -/
theorem imagePathText_eq_iff :
    imagePathText directory a = imagePathText directory b ↔
      imageFolder directory a = imageFolder directory b ∧ lastPiece a.toList = lastPiece b.toList := by
  have sameText := (normalized_imagePath directory a).text_inj (normalized_imagePath directory b)
  rw [imagePathText, imagePathText, String.ofList_inj, sameText, imagePath_eq, imagePath_eq, file_inj, imageName,
    imageName, List.append_cancel_right_eq]

theorem imageRoute_relative (unrooted : id.toList.head? ≠ some '/') : (imageRoute id).root = .relative :=
  rootOf_eq_relative_iff.mpr unrooted

theorem imageFolder_of_unrooted (unrooted : id.toList.head? ≠ some '/') :
    imageFolder directory id =
      ⟨(parse directory.toList).root, (parse directory.toList).segments ++ folders id.toList⟩ := by
  rw [imageFolder, join, if_pos (imageRoute_relative unrooted), imageRoute]

/-- The image of an identifier that does not start from the root lies below the directory unless the identifier
leads up on the way. -/
theorem below_imagePath_iff (unrooted : id.toList.head? ≠ some '/') :
    Below (parse directory.toList) (imagePath directory id) ↔ parent ∉ folders id.toList := by
  have relative : ((imageRoute id).file (imageName id)).root = .relative := imageRoute_relative unrooted
  rw [imagePath, parse_append_png, below_join_iff relative]
  simp [file, imageRoute, parent_ne_imageName]

/-- The directory plays no part for an identifier that starts from the root. -/
theorem imagePath_of_rooted (rooted : id.toList.head? = some '/') :
    imagePath directory id = (imageRoute id).file (imageName id) := by
  have absolute : ((imageRoute id).file (imageName id)).root ≠ .relative := fun relative =>
    rootOf_eq_relative_iff.mp relative rooted
  rw [imagePath, parse_append_png, join, if_neg absolute]

/-- An identifier is plain if each piece before its last slash leads down into a folder: none is empty, stays
in place or leads up. So every identifier without a slash is plain. -/
def Plain (id : String) : Prop := ∀ piece ∈ (pieces id.toList).dropLast, isSegment piece ∧ piece ≠ parent

instance : DecidablePred Plain := fun id =>
  inferInstanceAs (Decidable (∀ piece ∈ (pieces id.toList).dropLast, isSegment piece ∧ piece ≠ parent))

namespace Plain

theorem unrooted (plain : Plain id) : id.toList.head? ≠ some '/' := by
  intro rooted
  obtain ⟨rest, slash⟩ := List.head?_eq_some_iff.mp rooted
  -- Before the slash stands an empty piece, and another piece after it.
  have first : [] ∈ (pieces id.toList).dropLast := by
    rw [slash, pieces, if_pos rfl, List.dropLast_cons_of_ne_nil (pieces_ne_nil rest)]
    exact List.mem_cons_self
  exact absurd (plain [] first).1 (by decide)

theorem folders_eq (plain : Plain id) : folders id.toList = (pieces id.toList).dropLast :=
  List.filter_eq_self.mpr fun piece member => (plain piece member).1

theorem parent_not_mem (plain : Plain id) : parent ∉ folders id.toList := fun member =>
  (plain parent (plain.folders_eq ▸ member)).2 rfl

/-- A plain identifier is found again in the folder and the name of its image. -/
theorem eq_of_same_image (plainA : Plain a) (plainB : Plain b)
    (sameFolder : imageFolder directory a = imageFolder directory b)
    (sameName : lastPiece a.toList = lastPiece b.toList) : a = b := by
  have sameFolders : folders a.toList = folders b.toList := by
    simpa [imageFolder_of_unrooted plainA.unrooted, imageFolder_of_unrooted plainB.unrooted] using sameFolder
  have samePieces : pieces a.toList = pieces b.toList := by
    rw [pieces_eq_append a.toList, pieces_eq_append b.toList, ← plainA.folders_eq, ← plainB.folders_eq,
      sameFolders, sameName]
  have sameText : a.toList = b.toList := by
    rw [← intercalate_pieces a.toList, samePieces, intercalate_pieces]
  exact String.toList_inj.mp sameText

end Plain

/-- Which images lie below the output directory, and which identifiers have one of their own. A plain identifier
has its image below the directory, and no other plain identifier has the same one. An identifier that does not
start with a slash has its image below the directory exactly if it does not lead up on the way; the image of one
that does start with a slash is the same for all directories. And any two identifiers have the same image exactly
if they lead to one folder and end in one name. -/
theorem images_below_and_apart (directory : String) :
    (∀ a, Plain a → Below (parse directory.toList) (imagePath directory a) ∧
      ∀ b, Plain b → a ≠ b → imagePathText directory a ≠ imagePathText directory b) ∧
    (∀ a : String, a.toList.head? ≠ some '/' →
      (Below (parse directory.toList) (imagePath directory a) ↔ parent ∉ folders a.toList)) ∧
    (∀ a : String, a.toList.head? = some '/' → ∀ other, imagePath directory a = imagePath other a) ∧
    ∀ a b, imagePathText directory a = imagePathText directory b ↔
      imageFolder directory a = imageFolder directory b ∧ lastPiece a.toList = lastPiece b.toList := by
  refine ⟨fun a plain => ⟨?_, fun b plainB different same => ?_⟩, fun a => below_imagePath_iff,
    fun a rooted other => ?_, fun a b => imagePathText_eq_iff⟩
  · exact (below_imagePath_iff plain.unrooted).mpr plain.parent_not_mem
  · obtain ⟨sameFolder, sameName⟩ := imagePathText_eq_iff.mp same
    exact different (plain.eq_of_same_image plainB sameFolder sameName)
  · rw [imagePath_of_rooted rooted, imagePath_of_rooted rooted]

/-- Below `plots` there is an image for each of two plain identifiers, and none for one that leads up on the way.
One that starts from the root has its image elsewhere, and two that are not plain share theirs. -/
theorem images_below_and_apart_for_runs :
    Plain "runs/first" ∧ Plain "first" ∧ Below (parse "plots".toList) (imagePath "plots" "runs/first") ∧
      imagePathText "plots" "runs/first" ≠ imagePathText "plots" "first" ∧
      "./runs/../first".toList.head? ≠ some '/' ∧
      ¬Below (parse "plots".toList) (imagePath "plots" "./runs/../first") ∧
      "/first".toList.head? = some '/' ∧ imagePath "plots" "/first" = imagePath "runs" "/first" ∧
      "runs//first" ≠ "./runs/first" ∧
      imagePathText "plots" "runs//first" = imagePathText "plots" "./runs/first" := by
  have inRuns : Plain "runs/first" := by decide
  have inPlace : Plain "first" := by decide
  obtain ⟨own, unrooted, rooted, shared⟩ := images_below_and_apart "plots"
  obtain ⟨below, apart⟩ := own "runs/first" inRuns
  have outside : ¬Below (parse "plots".toList) (imagePath "plots" "./runs/../first") := fun inside =>
    absurd ((unrooted "./runs/../first" (by decide)).mp inside) (by decide)
  have same : imagePathText "plots" "runs//first" = imagePathText "plots" "./runs/first" :=
    (shared "runs//first" "./runs/first").mpr ⟨by decide, by decide⟩
  exact ⟨inRuns, inPlace, below, apart "first" inPlace (by decide), by decide, outside, by decide,
    rooted "/first" (by decide) "runs", by decide, same⟩

/-- An identifier that starts from the root or leads up has its image outside the directory, and two that spell
one way differently share an image. -/
theorem images_outside_or_shared :
    imagePathText "plots" "/x" = "/x.png" ∧ ¬Below (parse "plots".toList) (imagePath "plots" "/x") ∧
      imagePathText "plots" "../x" = "plots/../x.png" ∧
      ¬Below (parse "plots".toList) (imagePath "plots" "../x") ∧
      "./x" ≠ "x" ∧ imagePathText "plots" "./x" = imagePathText "plots" "x" := by
  have fromRoot : ¬Below (parse "plots".toList) (imagePath "plots" "/x") := by
    rintro ⟨sameRoot, _⟩
    exact absurd sameRoot (by decide)
  have up : ¬Below (parse "plots".toList) (imagePath "plots" "../x") := fun inside =>
    absurd ((below_imagePath_iff (by decide)).mp inside) (by decide)
  exact ⟨by decide, fromRoot, by decide, up, by decide, by decide⟩

end GraphCalc
