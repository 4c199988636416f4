import DiffBudget.EditScript.Basic

/-!
# Changes with their surroundings

A script is cut into groups: every change with up to `radius` equal items on either side, where
changes stay in one group as long as no more than twice that many equal items part them.
-/
namespace DiffBudget.EditScript

def keepBack (radius : Nat) (op : EditOp) : EditOp := op.shrinkRight (op.oldCount - radius)

def keepFront (radius : Nat) (op : EditOp) : EditOp := op.shrinkLeft (op.oldCount - radius)

def trimFront (radius : Nat) : List EditOp → List EditOp
  | [] => []
  | op :: ops => (if op.tag = .equal then keepBack radius op else op) :: ops

def trimBack (radius : Nat) : List EditOp → List EditOp
  | [] => []
  | [op] => [if op.tag = .equal then keepFront radius op else op]
  | op :: ops => op :: trimBack radius ops

def cutRuns (radius : Nat) : List EditOp → List (List EditOp)
  | [] => [[]]
  | op :: ops =>
    match cutRuns radius ops with
    | [] => [[op]]
    | g :: gs =>
      if op.tag = .equal ∧ 2 * radius < op.oldCount then
        [keepFront radius op] :: (keepBack radius op :: g) :: gs
      else (op :: g) :: gs

def groups (radius : Nat) (script : List EditOp) : List (List EditOp) :=
  (cutRuns radius (trimBack radius (trimFront radius script))).filter fun g =>
    g.any (·.tag != .equal)

theorem cutRuns_ne_nil (radius : Nat) (script : List EditOp) : cutRuns radius script ≠ [] := by
  cases script with
  | nil => simp [cutRuns]
  | cons op ops =>
    simp only [cutRuns]
    split
    · simp
    · split <;> simp

end DiffBudget.EditScript
