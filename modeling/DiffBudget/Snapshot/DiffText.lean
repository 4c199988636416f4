import DiffBudget.LineDiff.Hunk
import DiffBudget.Snapshot.NameStatus
import DiffBudget.Snapshot.Tree

/-!
# Printed differences

Every difference is printed as a section: a line that names both paths, lines about modes, renames
and stored objects, and the hunks behind two lines that name the paths again. A path that changes
from one sort of entry to another is deleted in one section and created in the next.
-/
namespace DiffBudget.DiffText

open Utf8 (Bytes)

structure FileDiff where
  oldPath : Text
  path : Text
  old : Option Entry
  new : Option Entry
  score : Option Nat := none

def fileDiffs : Delta → List FileDiff
  | .added path new => [⟨path, path, none, some new, none⟩]
  | .deleted path old => [⟨path, path, some old, none, none⟩]
  | .renamed oldPath path old new score => [⟨oldPath, path, some old, some new, some score⟩]
  | .changed path old new =>
    if old.sameSort new then [⟨path, path, some old, some new, none⟩]
    else [⟨path, path, some old, none, none⟩, ⟨path, path, none, some new, none⟩]

namespace FileDiff

def oldName (s : FileDiff) : Text := Path.quoted "a/".toList s.oldPath

def newName (s : FileDiff) : Text := Path.quoted "b/".toList s.path

def absent : Text := "/dev/null".toList

def oldLabel (s : FileDiff) : Text := if s.old.isSome then s.oldName else absent

def newLabel (s : FileDiff) : Text := if s.new.isSome then s.newName else absent

def title (s : FileDiff) : Text := "diff --git ".toList ++ s.oldName ++ ' ' :: s.newName

def modeLines (s : FileDiff) : List Text :=
  match s.old, s.new with
  | none, some new => ["new file mode ".toList ++ new.mode]
  | some old, none => ["deleted file mode ".toList ++ old.mode]
  | some old, some new =>
    if old.mode = new.mode then []
    else ["old mode ".toList ++ old.mode, "new mode ".toList ++ new.mode]
  | none, none => []

def renameLines (s : FileDiff) : List Text :=
  match s.score with
  | some score =>
    ["similarity index ".toList ++ Text.ofNat (Delta.percent score) ++ ['%'],
      "rename from ".toList ++ Path.quoted [] s.oldPath,
      "rename to ".toList ++ Path.quoted [] s.path]
  | none => []

def idOf (e : Option Entry) : ObjectId := (e.map Entry.objectId).getD .zero

def commonMode? (s : FileDiff) : Option Text :=
  match s.old, s.new with
  | some old, some new => if old.mode = new.mode then some old.mode else none
  | _, _ => none

def indexLines (short : ObjectId → Text) (s : FileDiff) : List Text :=
  if idOf s.old = idOf s.new then []
  else
    ["index ".toList ++ short (idOf s.old) ++ "..".toList ++ short (idOf s.new) ++
      (s.commonMode?.map (' ' :: ·)).getD []]

def contentOf (e : Option Entry) : Bytes := (e.map Entry.content).getD []

/-- A tab ends a name that holds a space. -/
def labelLine (mark label : Text) : Text :=
  mark ++ ' ' :: label ++ (if label.contains ' ' then ['\t'] else [])

def body (s : FileDiff) : Bytes :=
  let old := contentOf s.old
  let new := contentOf s.new
  if old = new then []
  else if Similarity.isBinary old || Similarity.isBinary new then
    Utf8.encode ("Binary files ".toList ++ s.oldLabel ++ " and ".toList ++ s.newLabel ++
      " differ\n".toList)
  else
    Utf8.encode (Text.unlines
      [labelLine "---".toList s.oldLabel, labelLine "+++".toList s.newLabel]) ++
      LineDiff.hunks old new

def print (short : ObjectId → Text) (s : FileDiff) : Bytes :=
  Utf8.encode (Text.unlines
    (s.title :: s.modeLines ++ s.renameLines ++ s.indexLines short)) ++ s.body

end FileDiff

def print (short : ObjectId → Text) (ds : List Delta) : Bytes :=
  (ds.flatMap fileDiffs).flatMap (FileDiff.print short)

end DiffBudget.DiffText
