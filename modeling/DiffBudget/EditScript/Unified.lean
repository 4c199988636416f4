import DiffBudget.EditScript.Group
import DiffBudget.EditScript.Shortest
import DiffBudget.EditScript.Slide
import DiffBudget.Text.Number

/-!
# The unified form of a line diff

Two texts are compared line by line, each line with its ending, and every group of changes is
written as a hunk: a header with the two ranges and the lines, each behind its mark. A range is
its first line and its count; a count of 1 is left out, and a range without lines gives the line
before it. A line without an ending is followed by a remark.
-/
namespace DiffBudget.EditScript

/-- The lines of a text with their endings: a line feed, a carriage return, or both. -/
def endedLines : Text → List Text
  | [] => []
  | '\n' :: t => ['\n'] :: endedLines t
  | '\r' :: '\n' :: t => ['\r', '\n'] :: endedLines t
  | '\r' :: t => ['\r'] :: endedLines t
  | c :: t =>
    match endedLines t with
    | [] => [[c]]
    | l :: ls => (c :: l) :: ls

def rangeText (first last : Nat) : Text :=
  let count := last - first
  if count = 1 then Text.ofNat (first + 1)
  else Text.ofNat (if count = 0 then first else first + 1) ++ ',' :: Text.ofNat count

def headerText (first last : EditOp) : Text :=
  "@@ -".toList ++ rangeText first.oldIndex last.oldEnd ++ " +".toList ++
    rangeText first.newIndex last.newEnd ++ " @@".toList

def noEndingRemark : Text := "\n\\ No newline at end of file\n".toList

def isEnded (line : Text) : Bool :=
  match line.getLast? with
  | some c => c == '\n' || c == '\r'
  | none => false

def markedLine (mark : Char) (line : Text) : Text :=
  mark :: line ++ (if isEnded line then [] else noEndingRemark)

def itemsAt {α : Type} (items : Array α) (first count : Nat) : List α :=
  (items.toList.drop first).take count

def opLines (old new : Array Text) (op : EditOp) : List Text :=
  let ofOld (mark : Char) := (itemsAt old op.oldIndex op.oldCount).map (markedLine mark)
  let ofNew (mark : Char) := (itemsAt new op.newIndex op.newCount).map (markedLine mark)
  match op.tag with
  | .equal => ofOld ' '
  | .delete => ofOld '-'
  | .insert => ofNew '+'
  | .replace => ofOld '-' ++ ofNew '+'

def hunkText (old new : Array Text) : List EditOp → Text
  | [] => []
  | op :: ops =>
    headerText op ((op :: ops).getLast (List.cons_ne_nil _ _)) ++
      '\n' :: ((op :: ops).flatMap (opLines old new)).flatten

def unified (radius : Nat) (old new : Text) : Text :=
  let old := (endedLines old).toArray
  let new := (endedLines new).toArray
  (groups radius (tidy old new (shortest old new))).flatMap (hunkText old new)

theorem endedLines_flatten (t : Text) : (endedLines t).flatten = t := by
  fun_induction endedLines t <;> simp_all

end DiffBudget.EditScript
