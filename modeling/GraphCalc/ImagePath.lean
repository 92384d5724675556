/-!
# Image paths

The file that the plots of an output identifier are drawn into: the identifier with the ending `.png`,
below an output directory. Paths follow the POSIX rules: a path that starts at the root replaces what it
is joined to, empty and `.` segments are dropped, `..` is kept, and two slashes at the very start, but
not three, are a root of their own.
-/

namespace GraphCalc

/-- Where a path starts. -/
inductive PathRoot where
  | relative
  | single
  | double
deriving DecidableEq, Repr

structure PosixPath where
  root : PathRoot
  segments : List (List Char)
deriving DecidableEq, Repr

namespace PosixPath

/-- The pieces of a text between slashes, empty ones included. -/
def pieces : List Char → List (List Char)
  | [] => [[]]
  | c :: rest =>
    if c = '/' then [] :: pieces rest
    else
      match pieces rest with
      | first :: others => (c :: first) :: others
      | [] => [[c]]

/-- Whether a piece leads anywhere. -/
def isSegment (piece : List Char) : Bool := piece ≠ [] && piece ≠ ['.']

/-- The root that a text starts with, by its leading slashes. -/
def rootOf (text : List Char) : PathRoot :=
  match (text.takeWhile (· = '/')).length with
  | 0 => .relative
  | 2 => .double
  | _ => .single

def parse (text : List Char) : PosixPath :=
  ⟨rootOf text, (pieces text).filter isSegment⟩

/-- A path taken from the end of another. -/
def join (base path : PosixPath) : PosixPath :=
  if path.root = .relative then ⟨base.root, base.segments ++ path.segments⟩ else path

def rootText : PathRoot → List Char
  | .relative => []
  | .single => ['/']
  | .double => ['/', '/']

def text (path : PosixPath) : List Char :=
  if path.root = .relative ∧ path.segments = [] then ['.']
  else rootText path.root ++ ['/'].intercalate path.segments

end PosixPath

/-- The path of an identifier's image below a directory. -/
def imagePath (directory outputId : String) : PosixPath :=
  (PosixPath.parse directory.toList).join (PosixPath.parse (outputId.toList ++ ".png".toList))

/-- The text of the path of an identifier's image. -/
def imagePathText (directory outputId : String) : String :=
  String.ofList (imagePath directory outputId).text

end GraphCalc
