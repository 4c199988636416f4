import DiffBudget.Patch

/-!
# Rendering hunks for a prompt

The plain layout is the file's name and its patch. The numbered layout shows every hunk as the
lines of the new version, each with its line number in the new file, and the lines of the old
version:

    ## src/file.ts

    @@ -880,6 +881,7 @@ fn main()
    __new hunk__
    881  line1
    882 +line2
    __old hunk__
     line1
    -line2 old
-/
namespace DiffBudget.Rendering

def newLabel : Text := "__new hunk__".toList

def oldLabel : Text := "__old hunk__".toList

def heading (filename : Text) : Text := "## ".toList ++ filename

def plain (filename : Text) (hunks : List Hunk) : Text :=
  Text.unlines (heading filename ::
    if hunks.isEmpty then [] else [] :: hunks.flatMap Hunk.toLines)

def numberedFrom (first : Nat) : List BodyLine → List (Nat × BodyLine)
  | [] => []
  | l :: ls =>
    if l.inNew then (first, l) :: numberedFrom (first + 1) ls else numberedFrom first ls

def newLines (h : Hunk) : List (Nat × BodyLine) := numberedFrom h.newStart h.body

def oldLines (h : Hunk) : List BodyLine := h.body.filter (·.inOld)

def numberedLine (p : Nat × BodyLine) : Text := Text.ofNat p.1 ++ ' ' :: p.2.marked

/-- A label and the lines below it; nothing when there are none. -/
def labelled (label : Text) (ls : List Text) : List Text :=
  if ls.isEmpty then [] else label :: ls

def numberedHunk (h : Hunk) : List Text :=
  [] :: h.header ::
    (labelled newLabel ((newLines h).map numberedLine) ++
      labelled oldLabel ((oldLines h).map BodyLine.marked))

def numbered (filename : Text) (hunks : List Hunk) : Text :=
  Text.unlines (heading filename :: hunks.flatMap numberedHunk)

def text (withNumbers : Bool) (filename : Text) (hunks : List Hunk) : Text :=
  if withNumbers then numbered filename hunks else plain filename hunks

theorem numberedFrom_map_snd (first : Nat) (ls : List BodyLine) :
    (numberedFrom first ls).map (·.2) = ls.filter (·.inNew) := by
  induction ls generalizing first with
  | nil => rfl
  | cons l ls ih => by_cases h : l.inNew <;> simp [numberedFrom, h, ih]

end DiffBudget.Rendering
