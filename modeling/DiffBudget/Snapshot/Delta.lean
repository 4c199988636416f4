import DiffBudget.Snapshot.Basic

/-!
# Differences of snapshots

What differs between two snapshots, path by path in the order of the paths. A path with another
entry in each of them is changed; every other difference adds or deletes a path. A rename joins
one of each, and stands where the new path stands.
-/
namespace DiffBudget

inductive Delta
  | added (path : Text) (new : Entry)
  | deleted (path : Text) (old : Entry)
  | changed (path : Text) (old new : Entry)
  | renamed (oldPath path : Text) (old new : Entry) (score : Nat)
  deriving DecidableEq, Repr

namespace Delta

def path : Delta → Text
  | added path _ => path
  | deleted path _ => path
  | changed path _ _ => path
  | renamed _ path _ _ _ => path

def betweenEntries : List (Text × Entry) → List (Text × Entry) → List Delta
  | [], news => news.map fun e => added e.1 e.2
  | olds, [] => olds.map fun e => deleted e.1 e.2
  | old :: olds, new :: news =>
    if old.1 < new.1 then deleted old.1 old.2 :: betweenEntries olds (new :: news)
    else if old.1 = new.1 then
      if old.2 = new.2 then betweenEntries olds news
      else changed old.1 old.2 new.2 :: betweenEntries olds news
    else added new.1 new.2 :: betweenEntries (old :: olds) news
termination_by olds news => olds.length + news.length

/-- The differences of two snapshots, before renames are looked for. -/
def between (old new : Snapshot) : List Delta := betweenEntries old.entries new.entries

theorem betweenEntries_self (es : List (Text × Entry)) : betweenEntries es es = [] := by
  induction es with
  | nil => simp [betweenEntries]
  | cons e es ih =>
    rw [betweenEntries, if_neg Std.lt_irrefl, if_pos rfl, if_pos rfl, ih]

theorem between_self (s : Snapshot) : between s s = [] := betweenEntries_self s.entries

end Delta
end DiffBudget
