import DiffBudget.EditScript.Unified
import DiffBudget.Text.Blank

/-!
# Rebuilding a patch from both versions

When the patch of a file is missing, it is computed from the two versions of the file. White
space at the end of either version does not count: it is replaced by one line feed.
-/
namespace DiffBudget.Patch

/-- The text without white space at its end, closed by one line feed unless nothing is left. -/
def settledEnd (t : Text) : Text :=
  if t.trimEnd.isEmpty then [] else t.trimEnd ++ ['\n']

def contextRadius : Nat := 3

def rebuild (old new : Text) : Text :=
  EditScript.unified contextRadius (settledEnd old) (settledEnd new)

@[simp] theorem settledEnd_nil : settledEnd [] = [] := rfl

end DiffBudget.Patch
