import DiffBudget.Tokens.Limit

/-!
# The list of models

The models whose limits are known, one in a line, in the order of their names. The limits stand
below each other.
-/
namespace DiffBudget.ModelLimit

def sorted (models : List (Text × Nat)) : List (Text × Nat) :=
  models.mergeSort fun a b => !decide (b.1 < a.1)

def nameWidth (models : List (Text × Nat)) : Nat :=
  (models.map (·.1.length)).foldl max 0

def row (width : Nat) (m : Text × Nat) : Text :=
  m.1 ++ List.replicate (width - m.1.length) ' ' ++ "  ".toList ++ Text.ofNat m.2

def listed (models : List (Text × Nat)) : Text :=
  Text.unlines ((sorted models).map (row (nameWidth models)))

end DiffBudget.ModelLimit
