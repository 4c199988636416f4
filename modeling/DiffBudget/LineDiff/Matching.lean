import DiffBudget.EditScript.Shortest
import DiffBudget.LineDiff.Candidates

/-!
# Matching lines

Two sequences are matched by divide and conquer. What they share at their fronts and backs is
matched; what is left is parted at a point that paths from both ends reach, and both parts are
treated alike. Where the paths grow too long, a path that follows a long run of equal items is
taken as it is, and at last whichever has come furthest.
-/
namespace DiffBudget.LineDiff

open EditScript (Window)

variable {α : Type} [DecidableEq α]

/-- How far paths on the diagonals `low`, `low + 2`, … `high` have come: the index into the old
sequence. -/
structure Wave where
  centre : Nat
  low : Int
  high : Int
  reach : Array Int

namespace Wave

def get (f : Wave) (d : Int) : Int := f.reach.getD (d + f.centre).toNat 0

def set (f : Wave) (d : Int) (x : Int) : Wave :=
  { f with reach := f.reach.setIfInBounds (d + f.centre).toNat x }

def start (w : Window) (d x : Int) : Wave :=
  Wave.set ⟨w.m + 1, d, d, Array.replicate (w.n + w.m + 3) 0⟩ d x

/-- The diagonals extended by one at either end, with `beyond` outside of them, or narrowed where
the window ends. -/
def widen (f : Wave) (w : Window) (beyond : Int) : Wave :=
  let f := if -(w.m : Int) < f.low then { f with low := f.low - 1 }.set (f.low - 2) beyond
    else { f with low := f.low + 1 }
  if f.high < (w.n : Int) then { f with high := f.high + 1 }.set (f.high + 2) beyond
  else { f with high := f.high - 1 }

def diagonals (f : Wave) : List Int :=
  (List.range ((f.high - f.low).toNat / 2 + 1)).filterMap fun (i : Nat) =>
    let d := f.high - 2 * (i : Int)
    if f.low ≤ d then some d else none

def covers (f : Wave) (d : Int) : Bool := f.low ≤ d && d ≤ f.high

end Wave

/-- A point that parts a window, and whether each part has to be matched without shortcuts. -/
structure Parting where
  x : Int
  y : Int
  exactFront : Bool
  exactBack : Bool

def longRun : Nat := 20

/-- One step of every path, from the highest diagonal down: `enter` says where the step leads to,
`follow` how far the run of equal items behind it goes, and `meets` whether the paths from the
other end have been met. The last value tells of a long run. -/
def advance (enter : Wave → Int → Int) (follow : Int → Int → Int) (meets : Int → Int → Bool) :
    Wave → Bool → List Int → Wave × Option (Int × Int) × Bool
  | f, seen, [] => (f, none, seen)
  | f, seen, d :: ds =>
    let x := enter f d
    let x' := follow x d
    let seen := seen || longRun < (x' - x).natAbs
    let f := f.set d x'
    if meets d x' then (f, some (x', x' - d), seen) else advance enter follow meets f seen ds

def enterFront (f : Wave) (d : Int) : Int :=
  if f.get (d + 1) ≤ f.get (d - 1) then f.get (d - 1) + 1 else f.get (d + 1)

def enterBack (f : Wave) (d : Int) : Int :=
  if f.get (d - 1) < f.get (d + 1) then f.get (d - 1) else f.get (d + 1) - 1

def runFront (old new : Array α) (w : Window) (x d : Int) : Int :=
  let y := x - d
  if 0 ≤ x ∧ x < w.n ∧ 0 ≤ y ∧ y < w.m then
    x + commonFront old new (w.i + x.toNat) (w.j + y.toNat)
      (min (w.n - x.toNat) (w.m - y.toNat))
  else x

def runBack (old new : Array α) (w : Window) (x d : Int) : Int :=
  let y := x - d
  if 0 < x ∧ x ≤ w.n ∧ 0 < y ∧ y ≤ w.m then
    x - commonBack old new (w.i + x.toNat) (w.j + y.toNat) (min x.toNat y.toNat)
  else x

def bestBy (values : List (Int × Int × Int)) : Option (Int × Int) :=
  (values.foldl (fun best v =>
    match best with
    | some b => if b.1 < v.1 then some v else best
    | none => if 0 < v.1 then some v else none) none).map (·.2)

/-- Among the points that paths from the front have reached behind a long run, the one that is
furthest for its distance from the middle diagonal, if it is far enough for its cost. -/
def promisingFront (old new : Array α) (w : Window) (f : Wave) (cost : Nat) :
    Option (Int × Int) :=
  bestBy (f.diagonals.filterMap fun d =>
    let x := f.get d
    let y := x - d
    let value := x + y - (d.natAbs : Int)
    if 4 * (cost : Int) < value ∧ (longRun : Int) ≤ x ∧ x < w.n ∧ (longRun : Int) ≤ y ∧ y < w.m ∧
        commonBack old new (w.i + x.toNat) (w.j + y.toNat) longRun = longRun then
      some (value, x, y)
    else none)

def promisingBack (old new : Array α) (w : Window) (b : Wave) (cost : Nat) :
    Option (Int × Int) :=
  let middle : Int := w.n - w.m
  bestBy (b.diagonals.filterMap fun d =>
    let x := b.get d
    let y := x - d
    let value := (w.n - x) + (w.m - y) - ((d - middle).natAbs : Int)
    if 4 * (cost : Int) < value ∧ 0 < x ∧ x + longRun ≤ w.n ∧ 0 < y ∧ y + longRun ≤ w.m ∧
        commonFront old new (w.i + x.toNat) (w.j + y.toNat) longRun = longRun then
      some (value, x, y)
    else none)

def furthest (w : Window) (f b : Wave) : Parting :=
  let front := f.diagonals.foldl (fun best d =>
    let x := min (f.get d) w.n
    let y := x - d
    let p : Int × Int := if (w.m : Int) < y then (w.m + d, w.m) else (x, y)
    if best.1 + best.2 < p.1 + p.2 then p else best) ((-1 : Int), (0 : Int))
  let back := b.diagonals.foldl (fun (best : Option (Int × Int)) d =>
    let x := max 0 (b.get d)
    let y := x - d
    let p : Int × Int := if y < 0 then (d, 0) else (x, y)
    match best with
    | some q => if p.1 + p.2 < q.1 + q.2 then some p else best
    | none => some p) none
  let q := back.getD (w.n, w.m)
  if (w.n + w.m : Int) - (q.1 + q.2) < front.1 + front.2 then ⟨front.1, front.2, true, false⟩
  else ⟨q.1, q.2, false, true⟩

def shortcutCost : Nat := 256

/-- The parting of a window, looked for with `cost` edits or more from each end. Without `exact`,
shortcuts are taken, at the latest at the cost `limit`. -/
def partFrom (old new : Array α) (w : Window) (exact : Bool) (limit : Nat) (f b : Wave)
    (cost : Nat) : Nat → Option Parting
  | 0 => none
  | fuel + 1 =>
    let odd := ((w.n : Int) - w.m) % 2 != 0
    let (f, met, seen) :=
      let f := f.widen w (-1)
      advance enterFront (runFront old new w) (fun d x => odd && b.covers d && b.get d ≤ x) f
        false f.diagonals
    match met with
    | some (x, y) => some ⟨x, y, true, true⟩
    | none =>
      let (b, met, seen) :=
        let b := b.widen w (w.n + w.m + 1)
        advance enterBack (runBack old new w) (fun d x => !odd && f.covers d && x ≤ f.get d) b
          seen b.diagonals
      match met with
      | some (x, y) => some ⟨x, y, true, true⟩
      | none =>
        let shortcut :=
          if exact || !seen || cost ≤ shortcutCost then none
          else
            match promisingFront old new w f cost with
            | some (x, y) => some (⟨x, y, true, false⟩ : Parting)
            | none => (promisingBack old new w b cost).map fun p => ⟨p.1, p.2, false, true⟩
        match shortcut with
        | some p => some p
        | none =>
          if !exact && limit ≤ cost then some (furthest w f b)
          else partFrom old new w exact limit f b (cost + 1) fuel

def part? (old new : Array α) (w : Window) (exact : Bool) (limit : Nat) : Option Parting :=
  (partFrom old new w exact limit (.start w 0 0) (.start w (w.n - w.m) w.n) 1
      (w.n + w.m + 2)).filter fun p =>
    0 ≤ p.x ∧ p.x ≤ w.n ∧ 0 ≤ p.y ∧ p.y ≤ w.m ∧ 0 < p.x + p.y ∧ p.x + p.y < w.n + w.m

theorem part?_inside {old new : Array α} {w : Window} {exact : Bool} {limit : Nat} {p : Parting}
    (h : part? old new w exact limit = some p) :
    0 ≤ p.x ∧ p.x ≤ w.n ∧ 0 ≤ p.y ∧ p.y ≤ w.m ∧ 0 < p.x + p.y ∧ p.x + p.y < w.n + w.m := by
  simpa using (Option.filter_eq_some_iff.1 h).2

def pairRun (i j count : Nat) : List (Nat × Nat) :=
  (List.range count).map fun k => (i + k, j + k)

def matchWindow (old new : Array α) (limit : Nat) (w : Window) (exact : Bool) :
    List (Nat × Nat) :=
  let front := commonFront old new w.i w.j (min w.n w.m)
  let back := commonBack old new (w.i + w.n) (w.j + w.m) (min (w.n - front) (w.m - front))
  let v : Window := ⟨w.i + front, w.n - front - back, w.j + front, w.m - front - back⟩
  let middle :=
    if v.n = 0 ∨ v.m = 0 then []
    else
      match _h : part? old new v exact limit with
      | none => []
      | some p =>
        matchWindow old new limit ⟨v.i, p.x.toNat, v.j, p.y.toNat⟩ p.exactFront ++
          matchWindow old new limit
            ⟨v.i + p.x.toNat, v.n - p.x.toNat, v.j + p.y.toNat, v.m - p.y.toNat⟩ p.exactBack
  pairRun w.i w.j front ++ middle ++ pairRun (v.i + v.n) (v.j + v.m) back
termination_by w.n + w.m
decreasing_by
  all_goals
    have := part?_inside _h
    simp only [v] at this ⊢
    omega

/-- The pairs of matched lines of two versions: those at the front and at the back, and between
them those matched among the lines worth it. -/
def matchLines (old new : Array α) : List (Nat × Nat) :=
  let front := commonFront old new 0 0 (min old.size new.size)
  let back := commonBack old new old.size new.size
    (min (old.size - front) (new.size - front))
  let keptOld := keptIndices old new front (old.size - front - back)
  let keptNew := keptIndices new old front (new.size - front - back)
  let limit := max (rootBound (keptOld.size + keptNew.size + 3)) shortcutCost
  let pairs := matchWindow (keptOld.map fun i => old[i]?) (keptNew.map fun j => new[j]?) limit
    ⟨0, keptOld.size, 0, keptNew.size⟩ false
  pairRun 0 0 front ++ pairs.map (fun p => (keptOld.getD p.1 0, keptNew.getD p.2 0)) ++
    pairRun (old.size - back) (new.size - back) back

end DiffBudget.LineDiff
