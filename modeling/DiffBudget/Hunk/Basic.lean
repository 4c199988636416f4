import DiffBudget.Text.Number

/-!
# Hunks

A hunk is one region of a change: where it starts in the old and in the new file, how many lines
it covers in each, and the lines themselves. The counts are those of its header; the body does
not correct them. A hunk that was read from a patch keeps its header line as it was written.
-/
namespace DiffBudget

inductive LineKind
  | context
  | added
  | removed
  deriving DecidableEq, Repr

structure BodyLine where
  kind : LineKind
  text : Text
  deriving DecidableEq, Repr

structure Hunk where
  oldStart : Nat
  oldCount : Nat
  newStart : Nat
  newCount : Nat
  comment : Text
  body : List BodyLine
  /-- The header line as it was written, for a hunk that was read and not rebuilt. -/
  written : Option Text := none
  deriving DecidableEq, Repr

namespace LineKind

def mark : LineKind → Char
  | context => ' '
  | added => '+'
  | removed => '-'

theorem mark_injective {k l : LineKind} (h : k.mark = l.mark) : k = l := by
  cases k <;> cases l <;> first | rfl | (exact absurd h (by decide))

end LineKind

namespace BodyLine

def marked (l : BodyLine) : Text := l.kind.mark :: l.text

def inOld (l : BodyLine) : Bool := l.kind != .added

def inNew (l : BodyLine) : Bool := l.kind != .removed

end BodyLine

namespace Hunk

def hasAdditions (h : Hunk) : Bool := h.body.any (·.kind == .added)

/-- The first line of a range with the given start and count, counted from 1. A range of no
lines stands behind its start, and a range of some lines never begins before line 1. -/
def firstLine (start count : Nat) : Nat := if count = 0 then start + 1 else max start 1

def startOf (first count : Nat) : Nat := if count = 0 then first - 1 else first

def oldFirst (h : Hunk) : Nat := firstLine h.oldStart h.oldCount

def oldEnd (h : Hunk) : Nat := h.oldFirst + h.oldCount

def newFirst (h : Hunk) : Nat := firstLine h.newStart h.newCount

theorem firstLine_pos (start count : Nat) : 1 ≤ firstLine start count := by
  unfold firstLine; split <;> omega

theorem firstLine_startOf {first : Nat} (h : 1 ≤ first) (count : Nat) :
    firstLine (startOf first count) count = first := by
  unfold firstLine startOf; split <;> omega

theorem oldFirst_pos (h : Hunk) : 1 ≤ h.oldFirst := firstLine_pos _ _

theorem oldFirst_le_oldEnd (h : Hunk) : h.oldFirst ≤ h.oldEnd := Nat.le_add_right _ _

theorem newFirst_pos (h : Hunk) : 1 ≤ h.newFirst := firstLine_pos _ _

end Hunk
end DiffBudget
