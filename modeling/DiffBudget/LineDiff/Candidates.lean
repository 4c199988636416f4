import DiffBudget.EditScript.Basic

/-!
# Lines worth matching

Before two versions of a file are compared, the lines that they share at their fronts and backs
are set aside. Of the rest, a line that the other version lacks cannot be matched. A line that the
other version has very often is given up too when it stands in a run of lines, none of them
ordinary, in which lines without a match are on both sides of it and frequent.
-/
namespace DiffBudget.LineDiff

variable {α : Type} [DecidableEq α]

/-- Twice as large for each two bits of the number: between its square root and twice that. -/
def rootBound (n : Nat) : Nat :=
  if n = 0 then 1 else 2 * rootBound (n / 4)

inductive Echo
  | none
  | some
  | many
  deriving DecidableEq, Repr

def maxManyBound : Nat := 1024

def Echo.ofCount (bound count : Nat) : Echo :=
  if count = 0 then .none else if bound ≤ count then .many else .some

def scanReach : Nat := 100

/-- The run of lines that are not ordinary, as the number of lines without a match and of those
with many. -/
def oddRun (neighbours : List Echo) : Nat × Nat :=
  let run := (neighbours.take scanReach).takeWhile (· != .some)
  (run.count .none, run.count .many)

/-- Whether a line with many matches is given up, by the lines before it, nearest first, and the
lines behind it. -/
def isGivenUp (before after : List Echo) : Bool :=
  let (lost₁, many₁) := oddRun before
  let (lost₂, many₂) := oddRun after
  lost₁ != 0 && lost₂ != 0 && 4 * (many₁ + many₂ + 2) < many₁ + many₂ + 2 + lost₁ + lost₂

/-- For each line whether it is worth matching; `before` holds the lines before, nearest
first. -/
def keepList (before : List Echo) : List Echo → List Bool
  | [] => []
  | e :: es =>
    (match e with
      | .none => false
      | .some => true
      | .many => !isGivenUp before es) :: keepList (e :: before) es

def keptIndices (own other : Array α) (front count : Nat) : Array Nat :=
  let bound := min (rootBound own.size) maxManyBound
  let indices := (List.range count).map (· + front)
  let echoes := indices.map fun i =>
    match own[i]? with
    | some line => Echo.ofCount bound (other.toList.count line)
    | none => .none
  ((indices.zip (keepList [] echoes)).filter (·.2)).toArray.map (·.1)

theorem length_keepList (before es : List Echo) : (keepList before es).length = es.length := by
  induction es generalizing before with
  | nil => rfl
  | cons e es ih => simp [keepList, ih]

end DiffBudget.LineDiff
