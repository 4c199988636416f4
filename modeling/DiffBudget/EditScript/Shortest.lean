import DiffBudget.EditScript.Basic
import DiffBudget.Sum

/-!
# A shortest edit script by divide and conquer

What two sequences share at their fronts and backs is kept. Of the rest, if one side is empty the
other is inserted or deleted. Otherwise the middle snake is found, a run of equal items in the
middle of a shortest path through the edit graph, and the two parts around its start are treated
alike. The snake is looked for from both ends at once: for a growing number of edits each end
notes the furthest point reached on every diagonal, until the two meet.
-/
namespace DiffBudget.EditScript

/-- The furthest old index reached on each diagonal; those not yet reached count as 0. -/
structure Frontier where
  centre : Nat
  reach : Array Nat

namespace Frontier

def empty (radius : Nat) : Frontier := ⟨radius + 1, Array.replicate (2 * radius + 3) 0⟩

def get (f : Frontier) (k : Int) : Nat := f.reach.getD (k + f.centre).toNat 0

def set (f : Frontier) (k : Int) (x : Nat) : Frontier :=
  { f with reach := f.reach.setIfInBounds (k + f.centre).toNat x }

/-- Where diagonal `k` is entered with the `d`-th edit: by an insertion from the diagonal above
or by a deletion from the one below, whichever reaches further. -/
def enter (f : Frontier) (d : Nat) (k : Int) : Nat :=
  if k = -d ∨ (k ≠ d ∧ f.get (k - 1) < f.get (k + 1)) then f.get (k + 1) else f.get (k - 1) + 1

end Frontier

structure Snake where
  diagonal : Int
  first : Nat
  last : Nat

/-- One end's sweep over its diagonals. `follow x k` is the number of equal items from old index
`x` on, and `meets k x` says whether the other end's frontier has been met. -/
def sweep (follow : Nat → Int → Nat) (meets : Int → Nat → Bool) (d : Nat) (f : Frontier) :
    List Int → Frontier × Option Snake
  | [] => (f, none)
  | k :: ks =>
    let x := f.enter d k
    let y := x + follow x k
    let f := f.set k y
    if meets k y then (f, some ⟨k, x, y⟩) else sweep follow meets d f ks

def diagonals (d : Nat) : List Int :=
  (List.range (d + 1)).map fun (i : Nat) => (d : Int) - 2 * (i : Int)

/-- Two ranges of sequences: `n` items from `i` on and `m` items from `j` on. -/
structure Window where
  i : Nat
  n : Nat
  j : Nat
  m : Nat

variable {α : Type} [DecidableEq α]

def followFront (old new : Array α) (w : Window) (x : Nat) (k : Int) : Nat :=
  let y := (x : Int) - k
  if x < w.n ∧ 0 ≤ y ∧ y < w.m then
    commonFront old new (w.i + x) (w.j + y.toNat) (min (w.n - x) (w.m - y.toNat))
  else 0

def followBack (old new : Array α) (w : Window) (x : Nat) (k : Int) : Nat :=
  let y := (x : Int) - k
  if x < w.n ∧ 0 ≤ y ∧ y < w.m then
    commonBack old new (w.i + w.n - x) (w.j + w.m - y.toNat) (min (w.n - x) (w.m - y.toNat))
  else 0

/-- The start of the middle snake, as a point of the window, looked for with `d` edits or more
from each end. -/
def middleFrom (old new : Array α) (w : Window) (front back : Frontier) (d : Nat) :
    Nat → Option (Int × Int)
  | 0 => none
  | fuel + 1 =>
    let delta : Int := w.n - w.m
    let odd := delta % 2 != 0
    let swept := sweep (followFront old new w)
      (fun k x => odd && (k - delta).natAbs + 1 ≤ d && w.n ≤ x + back.get (delta - k)) d front
      (diagonals d)
    match swept.2 with
    | some s => some (s.first, s.first - s.diagonal)
    | none =>
      let front := swept.1
      let swept := sweep (followBack old new w)
        (fun k x => !odd && (k - delta).natAbs ≤ d && w.n ≤ x + front.get (delta - k)) d back
        (diagonals d)
      match swept.2 with
      | some s => some (w.n - s.last, w.m - (s.last - s.diagonal))
      | none => middleFrom old new w front swept.1 (d + 1) fuel

def maxEdits (n m : Nat) : Nat := (n + m + 1) / 2 + 1

def split? (old new : Array α) (w : Window) : Option (Nat × Nat) :=
  let edits := maxEdits w.n w.m
  match middleFrom old new w (.empty edits) (.empty edits) 0 edits with
  | none => none
  | some (x, y) =>
    if 0 ≤ x ∧ x ≤ w.n ∧ 0 ≤ y ∧ y ≤ w.m ∧ 0 < x + y ∧ x + y < w.n + w.m then
      some (x.toNat, y.toNat)
    else none

theorem split?_inside {old new : Array α} {w : Window} {x y : Nat}
    (h : split? old new w = some (x, y)) :
    x ≤ w.n ∧ y ≤ w.m ∧ 0 < x + y ∧ x + y < w.n + w.m := by
  unfold split? at h
  simp only at h
  split at h
  · simp at h
  · split at h
    · simp only [Option.some.injEq, Prod.mk.injEq] at h
      omega
    · simp at h

def equalRun (i j count : Nat) : List EditOp :=
  if count = 0 then [] else [.equal i j count]

def between (old new : Array α) (w : Window) : List EditOp :=
  let front := commonFront old new w.i w.j (min w.n w.m)
  let back := commonBack old new (w.i + w.n) (w.j + w.m) (min (w.n - front) (w.m - front))
  let v : Window := ⟨w.i + front, w.n - front - back, w.j + front, w.m - front - back⟩
  let middle :=
    if v.m = 0 then (if v.n = 0 then [] else [.delete v.i v.n v.j])
    else if v.n = 0 then [.insert v.i v.j v.m]
    else
      match _h : split? old new v with
      | none => [.delete v.i v.n v.j, .insert v.i v.j v.m]
      | some (x, y) =>
        between old new ⟨v.i, x, v.j, y⟩ ++
          between old new ⟨v.i + x, v.n - x, v.j + y, v.m - y⟩
  equalRun w.i w.j front ++ middle ++ equalRun (v.i + v.n) (v.j + v.m) back
termination_by w.n + w.m
decreasing_by
  all_goals
    have := split?_inside _h
    simp only [v] at this ⊢
    omega

def shortest (old new : Array α) : List EditOp := between old new ⟨0, old.size, 0, new.size⟩

def kept (script : List EditOp) : Nat :=
  sumOf (·.oldCount) (script.filter (·.tag == .equal))

end DiffBudget.EditScript
