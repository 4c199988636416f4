import DiffBudget.Hunk.Basic
import DiffBudget.Sum

/-!
# Widening hunks with context

Every hunk takes up to `before` unchanged lines of the old version in front of it and up to
`after` behind it, as far as the file has them. Neighbours whose widened windows touch become
one hunk, with the lines between them as context. Hunks out of order, overlapping hunks and
hunks that begin past the end of the file are never joined. A hunk that gains nothing stays as
it is, with its header as written.
-/
namespace DiffBudget.Hunk

def lead (fileLength before : Nat) (h : Hunk) : Nat :=
  if h.oldFirst - 1 ≤ fileLength then min before (h.oldFirst - 1) else 0

def trail (fileLength after : Nat) (h : Hunk) : Nat :=
  min after (fileLength + 1 - h.oldEnd)

/-- Whether the widened windows of two neighbours touch or overlap. -/
def meets (fileLength before after : Nat) (prev next : Hunk) : Bool :=
  prev.oldEnd ≤ next.oldFirst && next.oldFirst - 1 ≤ fileLength &&
    next.oldFirst - next.lead fileLength before ≤ prev.oldEnd - 1 + prev.trail fileLength after

def contextFrom (oldLines : List Text) (first number : Nat) : List BodyLine :=
  ((oldLines.drop (first - 1)).take number).map (⟨.context, ·⟩)

def gap (oldLines : List Text) (prev next : Hunk) : List BodyLine :=
  contextFrom oldLines prev.oldEnd (next.oldFirst - prev.oldEnd)

/-- The bodies of a hunk and of those that follow it in its group, with the gaps filled. -/
def joinedBody (oldLines : List Text) (h : Hunk) : List Hunk → List BodyLine
  | [] => h.body
  | next :: rest => h.body ++ gap oldLines h next ++ joinedBody oldLines next rest

def gapTotal (oldLines : List Text) (h : Hunk) : List Hunk → Nat
  | [] => 0
  | next :: rest => (gap oldLines h next).length + gapTotal oldLines next rest

/-- The hunk that covers the widened windows of a group. -/
def coverGroup (oldLines : List Text) (before after : Nat) (first : Hunk) (rest : List Hunk) :
    Hunk :=
  let last := (first :: rest).getLast (List.cons_ne_nil _ _)
  let lead := first.lead oldLines.length before
  let trail := last.trail oldLines.length after
  if rest.isEmpty && lead == 0 && trail == 0 then first
  else
    let gained := lead + gapTotal oldLines first rest + trail
    let oldCount := gained + sumOf (·.oldCount) (first :: rest)
    let newCount := gained + sumOf (·.newCount) (first :: rest)
    { oldStart := startOf (max (first.oldFirst - lead) 1) oldCount
      oldCount
      newStart := startOf (max (first.newFirst - lead) 1) newCount
      newCount
      comment := first.comment
      body := contextFrom oldLines (first.oldFirst - lead) lead ++
        joinedBody oldLines first rest ++ contextFrom oldLines last.oldEnd trail }

/-- The hunks in maximal runs of neighbours that meet. -/
def groups (fileLength before after : Nat) (hunks : List Hunk) : List (List Hunk) :=
  hunks.splitBy (meets fileLength before after)

def widen (oldLines : List Text) (before after : Nat) (hunks : List Hunk) : List Hunk :=
  if before = 0 ∧ after = 0 then hunks
  else
    (groups oldLines.length before after hunks).filterMap fun
      | [] => none
      | first :: rest => some (coverGroup oldLines before after first rest)

@[simp] theorem widen_zero (oldLines : List Text) (hunks : List Hunk) :
    widen oldLines 0 0 hunks = hunks := by
  simp [widen]

theorem lead_le (fileLength before : Nat) (h : Hunk) : h.lead fileLength before ≤ before := by
  unfold lead; split <;> omega

theorem lead_lt_oldFirst (fileLength before : Nat) (h : Hunk) :
    h.lead fileLength before < h.oldFirst := by
  have := h.oldFirst_pos
  unfold lead; split <;> omega

theorem trail_le (fileLength after : Nat) (h : Hunk) : h.trail fileLength after ≤ after :=
  Nat.min_le_left _ _

end DiffBudget.Hunk
