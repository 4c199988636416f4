import DiffBudget.Change.Basic
import DiffBudget.Patch

/-!
# Patches reduced to what they add

In a compressed diff only hunks that add lines are shown, with their headers unchanged. A file
is shown by its name alone when it is gone, when it was emptied, or when its hunks only remove.
-/
namespace DiffBudget

def Hunk.additions (hunks : List Hunk) : List Hunk := hunks.filter (·.hasAdditions)

namespace FileChange

/-- Whether the new version has nothing to show. An added empty file is not gone. -/
def isGone (f : FileChange) : Bool :=
  f.kind == .deleted || (f.newIsEmpty && f.kind != .added)

def additions? (f : FileChange) (hunks : List Hunk) : Option (List Hunk) :=
  if f.isGone || ((Hunk.additions hunks).isEmpty && !hunks.isEmpty) then none
  else some (Hunk.additions hunks)

end FileChange

theorem Hunk.additions_sublist (hunks : List Hunk) : (Hunk.additions hunks).Sublist hunks :=
  List.filter_sublist

end DiffBudget
