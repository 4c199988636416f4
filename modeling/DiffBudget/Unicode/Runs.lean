import DiffBudget.Text.Blank
import DiffBudget.Text.Number

/-!
# Tables over the code points

A property of characters is tabled by runs. A value table lists, from code point 0 on, a value
and the number of neighbouring code points that have it; a number of 1 is left out. A set table
lists pairs `gap:length`: so many code points outside the set, then so many inside.
-/
namespace DiffBudget.Unicode

/-- A function on code points that is constant on runs: the starts of the runs in order, with
the value from each start on. -/
structure Runs (α : Type) where
  starts : Array (Nat × α)

namespace Runs

variable {α : Type}

def findIn (r : Runs α) (n low high : Nat) : Option α :=
  if h : low + 1 < high then
    let middle := (low + high) / 2
    if (r.starts[middle]?).any (·.1 ≤ n) then r.findIn n middle high else r.findIn n low middle
  else (r.starts[low]?).map (·.2)
termination_by high - low

def find? (r : Runs α) (c : Char) : Option α := r.findIn c.toNat 0 r.starts.size

def ofCounts (runs : List (α × Nat)) : Runs α :=
  ⟨(runs.foldl (fun (acc : Array (Nat × α) × Nat) run => (acc.1.push (acc.2, run.1), acc.2 + run.2))
    (#[], 0)).1⟩

def ofValues (read : Text → α) (table : Text) : Runs α :=
  ofCounts ((Text.words table).map fun entry =>
    (read (entry.takeWhile (! Text.isDigit ·)),
      (Text.number? (entry.dropWhile (! Text.isDigit ·))).getD 1))

def ofGaps (table : Text) : Runs Bool :=
  ofCounts ((Text.words table).flatMap (fun entry =>
    match Text.cutAt (· == ':') entry with
    | [gap, length] => [(false, (Text.number? gap).getD 0), (true, (Text.number? length).getD 0)]
    | _ => []) ++ [(false, 1)])

def has (r : Runs Bool) (c : Char) : Bool := (r.find? c).getD false

end Runs
end DiffBudget.Unicode
