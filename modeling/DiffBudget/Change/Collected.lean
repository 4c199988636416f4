import DiffBudget.Change.MultiFile
import DiffBudget.Change.Status
import DiffBudget.Text.Table

/-!
# Collected changes

The changed files between two commits come from a list of the changed paths, a diff of them all,
and the contents of the files on either side. The list decides which files there are; the diff
gives each of them its patch, and a path that the diff does not name has an empty one.
-/
namespace DiffBudget.PathChange

open Utf8 (Bytes)

/-- The patches of a diff by their paths. Of two sections of one path the later one counts. -/
def patches (diff : Text) : TextTable Text :=
  .ofList ((FileChange.ofDiff diff).map fun c => (c.filename, c.patch))

variable {ε : Type}

def oldContent (contentOf : Text → Except ε Bytes) (c : PathChange) : Except ε Bytes :=
  match c.kind with
  | .added => .ok []
  | _ => contentOf (c.oldPath.getD c.path)

def newContent (contentOf : Text → Except ε Bytes) (c : PathChange) : Except ε Bytes :=
  match c.kind with
  | .deleted => .ok []
  | _ => contentOf c.path

def collect (before after : Text → Except ε Bytes) (patches : TextTable Text) :
    List PathChange → Except ε (List FileChange)
  | [] => return []
  | c :: cs => do
    let old ← c.oldContent before
    let new ← c.newContent after
    let file : FileChange :=
      { filename := c.path
        kind := c.kind
        oldFilename := c.oldPath
        old := some old
        new := some new
        patch := (patches.find? c.path).getD [] }
    return file :: (← collect before after (patches.erase c.path) cs)

def collectAll (before after : Text → Except ε Bytes) (list diff : Text) :
    Except ε (List FileChange) :=
  collect before after (patches diff) (read list)

end DiffBudget.PathChange
