import DiffBudget.Change.Basic
import DiffBudget.Patch

/-!
# Diffs of several files

A diff of several files in git's extended format is a run of sections, each opened by a line
`diff --git a/OLD b/NEW`. The lines up to the first header of a hunk say what kind of edit it is
and may correct the paths; from there on every line belongs to the patch.
-/
namespace DiffBudget

structure Section where
  oldPath : Option Text
  newPath : Option Text
  kind : EditKind := .modified
  deriving DecidableEq, Repr

namespace Section

def openingMark : Text := "diff --git ".toList

def slashed (path : Text) : Text := path.map fun c => if c = '\\' then '/' else c

/-- The section that an opening line announces. A path may contain spaces, so the last ` b/`
parts the two. -/
def ofOpening (rest : Text) : Section :=
  match Text.cutLast? " b/".toList rest with
  | none => { oldPath := none, newPath := none }
  | some (front, back) =>
    { oldPath := ("a/".toList.isPrefixOf? front).map slashed, newPath := some (slashed back) }

def devNull : Text := "/dev/null".toList

inductive OpeningLine
  | newFile
  | deletedFile
  | renameFrom (path : Text)
  | renameTo (path : Text)
  | oldSide (path : Text)
  | newSide (path : Text)
  | other

def OpeningLine.ofLine (line : Text) : OpeningLine :=
  if "new file mode".toList.isPrefixOf line then .newFile
  else if "deleted file mode".toList.isPrefixOf line then .deletedFile
  else if let some path := "rename from ".toList.isPrefixOf? line then .renameFrom path
  else if let some path := "rename to ".toList.isPrefixOf? line then .renameTo path
  else if let some path := "--- ".toList.isPrefixOf? line then .oldSide path
  else if let some path := "+++ ".toList.isPrefixOf? line then .newSide path
  else .other

def sidePath (letter path : Text) (known : Option Text) : Option Text :=
  match letter.isPrefixOf? path with
  | some p => some (slashed p)
  | none => known

def step (s : Section) : OpeningLine → Section
  | .newFile => { s with kind := .added }
  | .deletedFile => { s with kind := .deleted }
  | .renameFrom path => { s with kind := .renamed, oldPath := some (slashed path) }
  | .renameTo path => { s with kind := .renamed, newPath := some (slashed path) }
  | .oldSide path =>
    if path = devNull then { s with kind := .added }
    else { s with oldPath := sidePath "a/".toList path s.oldPath }
  | .newSide path =>
    if path = devNull then { s with kind := .deleted }
    else { s with newPath := sidePath "b/".toList path s.newPath }
  | .other => s

def readOpening (s : Section) (ls : List Text) : Section :=
  ls.foldl (fun s line => s.step (.ofLine line)) s

/-- The name of the file: the old path of a deleted file, the new path of any other, and the
one that is known when the other is not. -/
def filename (s : Section) : Text :=
  (if s.kind = .deleted then s.oldPath.or s.newPath else s.newPath.or s.oldPath).getD []

def toChange (s : Section) (patch : List Text) : FileChange :=
  { filename := s.filename
    kind := s.kind
    oldFilename := if s.kind = .renamed then s.oldPath else none
    patch := Text.joinLines patch }

def read (rest : Text) (ls : List Text) : FileChange :=
  ((ofOpening rest).readOpening (ls.takeWhile (! Hunk.isHeaderLine ·))).toChange
    (ls.dropWhile (! Hunk.isHeaderLine ·))

def isOpening (line : Text) : Bool := openingMark.isPrefixOf line

def ofLines : List Text → List FileChange
  | [] => []
  | line :: ls =>
    read (line.drop openingMark.length) (ls.takeWhile (! isOpening ·)) ::
      ofLines (ls.dropWhile (! isOpening ·))
termination_by ls => ls.length
decreasing_by
  exact Nat.lt_succ_of_le (List.dropWhile_sublist _).length_le

end Section

/-- The changed files of a diff, one for each section. What stands before the first section is
ignored. -/
def FileChange.ofDiff (diff : Text) : List FileChange :=
  Section.ofLines (diff.lines.dropWhile (! Section.isOpening ·))

end DiffBudget
