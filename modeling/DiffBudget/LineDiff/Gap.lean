import DiffBudget.LineDiff.Matching

/-!
# Gaps between matched lines

Two versions with their lines matched are a row of gaps: before the first matched line, between
neighbours and behind the last one, some lines of the old version stand against some of the new
one. A gap of one version may be moved over a line that is the same as one at its other end.
-/
namespace DiffBudget.LineDiff

structure Gap where
  old : Nat
  new : Nat
  deriving DecidableEq, Repr

namespace Gap

def swap (g : Gap) : Gap := ⟨g.new, g.old⟩

def isEmpty (g : Gap) : Bool := g.old == 0 && g.new == 0

def between (i j n m : Nat) : List (Nat × Nat) → List Gap
  | [] => [⟨n - i, m - j⟩]
  | p :: ps => ⟨p.1 - i, p.2 - j⟩ :: between (p.1 + 1) (p.2 + 1) n m ps

theorem length_between (i j n m : Nat) (ps : List (Nat × Nat)) :
    (between i j n m ps).length = ps.length + 1 := by
  induction ps generalizing i j with
  | nil => rfl
  | cons p ps ih => simp [between, ih]

@[simp] theorem swap_swap (g : Gap) : g.swap.swap = g := rfl

end Gap

structure Change where
  oldStart : Nat
  oldCount : Nat
  newStart : Nat
  newCount : Nat
  deriving DecidableEq, Repr

namespace Change

def oldEnd (c : Change) : Nat := c.oldStart + c.oldCount

def newEnd (c : Change) : Nat := c.newStart + c.newCount

def ofGaps (i j : Nat) : List Gap → List Change
  | [] => []
  | g :: gs =>
    let rest := ofGaps (i + g.old + 1) (j + g.new + 1) gs
    if g.isEmpty then rest else ⟨i, g.old, j, g.new⟩ :: rest

end Change
end DiffBudget.LineDiff
