import DiffBudget.Hunk.Header

/-!
# The patch of one file

A patch is read line by line. A line that starts with `@@` opens a hunk, the lines before the
first one are ignored, and a line that starts with a backslash is a remark and not part of the
body. A body line without a mark is context, whole.
-/
namespace DiffBudget

namespace BodyLine

def ofMarked : Text → BodyLine
  | '+' :: t => ⟨.added, t⟩
  | '-' :: t => ⟨.removed, t⟩
  | ' ' :: t => ⟨.context, t⟩
  | t => ⟨.context, t⟩

@[simp] theorem ofMarked_marked (l : BodyLine) : ofMarked l.marked = l := by
  obtain ⟨k, t⟩ := l
  cases k <;> rfl

end BodyLine

namespace Hunk

def isHeaderLine (line : Text) : Bool := "@@".toList.isPrefixOf line

def isRemark (line : Text) : Bool := line.head? == some '\\'

def takeBody (ls : List Text) : List BodyLine × List Text :=
  (((ls.takeWhile (! isHeaderLine ·)).filter (! isRemark ·)).map BodyLine.ofMarked,
    ls.dropWhile (! isHeaderLine ·))

def ofHeader (h : Header) (line : Text) (body : List BodyLine) : Hunk :=
  ⟨h.oldStart, h.oldCount, h.newStart, h.newCount, h.comment, body, some line⟩

def ofLines : List Text → Except FileFault (List Hunk)
  | [] => .ok []
  | line :: ls => do
    let h ← Header.parse line
    let rest ← ofLines (takeBody ls).2
    return ofHeader h line (takeBody ls).1 :: rest
termination_by ls => ls.length
decreasing_by
  simp only [takeBody, List.length_cons]
  exact Nat.lt_succ_of_le (List.dropWhile_sublist _).length_le

def toLines (h : Hunk) : List Text := h.header :: h.body.map BodyLine.marked

end Hunk

namespace Patch

def parse (patch : Text) : Except FileFault (List Hunk) :=
  Hunk.ofLines (patch.lines.dropWhile (! Hunk.isHeaderLine ·))

/-- The text of the hunks, without a final line feed. -/
def print (hunks : List Hunk) : Text := Text.joinLines (hunks.flatMap Hunk.toLines)

end Patch
end DiffBudget
