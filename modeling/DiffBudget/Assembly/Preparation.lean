import DiffBudget.Assembly.Options
import DiffBudget.Change.Basic
import DiffBudget.Hunk.Widen
import DiffBudget.Patch.Rebuild
import DiffBudget.Patch
import DiffBudget.Rendering

/-!
# Preparing one file

A file is prepared when its known contents are text and its patch can be read. A blank patch is
rebuilt from the contents; a file with neither is passed over in silence.
-/
namespace DiffBudget

structure PreparedFile where
  change : FileChange
  hunks : List Hunk
  oldLines : Option (List Text)
  deriving DecidableEq, Repr

inductive Preparation
  | ready (file : PreparedFile)
  | silent
  | faulty (fault : FileFault)
  deriving DecidableEq, Repr

namespace FileChange

def patchIsBlank (f : FileChange) : Bool := f.patch.all isBlank

/-- The text of the patch, rebuilt if it is blank; nothing if it cannot be rebuilt. -/
def patchText (f : FileChange) (old new : Option Text) : Option Text :=
  if f.patchIsBlank then
    if old.isNone && new.isNone then none
    else some (Patch.rebuild (old.getD []) (new.getD []))
  else some f.patch

def prepared (f : FileChange) : Except FileFault (Option PreparedFile) := do
  let old ← f.contentText .old
  let new ← f.contentText .new
  match f.patchText old new with
  | none => return none
  | some patch =>
    let hunks ← Patch.parse patch
    return some ⟨f, hunks, old.map Text.lines⟩

def prepare (f : FileChange) : Preparation :=
  match f.prepared with
  | .ok (some p) => .ready p
  | .ok none => .silent
  | .error e => .faulty e

end FileChange

namespace Preparation

def ready? : Preparation → Option PreparedFile
  | ready p => some p
  | _ => none

def isFaulty : Preparation → Bool
  | faulty _ => true
  | _ => false

end Preparation

namespace PreparedFile

def widened (o : AssemblyOptions) (p : PreparedFile) : List Hunk :=
  match p.oldLines with
  | some oldLines =>
    if o.widens p.change.filename then
      Hunk.widen oldLines o.contextBefore o.contextAfter p.hunks
    else p.hunks
  | none => p.hunks

def fullText (o : AssemblyOptions) (p : PreparedFile) : Text :=
  Rendering.text o.lineNumbers p.change.filename (p.widened o)

end PreparedFile

end DiffBudget
