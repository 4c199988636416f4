import DiffBudget.Assembly.Account
import DiffBudget.Assembly.Preparation
import DiffBudget.Change.Additions
import DiffBudget.Tokens.Estimate

/-!
# Compressing a diff

When the full rendering is too long, the files are visited from the largest to the smallest. A
file left without code is listed as deleted, at any time. Once the total has gone into the hard
reserve every other file is skipped. Until then a file is shown by the hunks that add lines if it
is admitted, and listed by name if it is not. The first name in a list is charged the list's
heading too.
-/
namespace DiffBudget

inductive Outcome
  | rendered (text : Text)
  | summarized
  | deleted
  | skipped
  deriving DecidableEq, Repr

structure MeasuredFile where
  file : PreparedFile
  cost : Nat
  deriving DecidableEq, Repr

namespace Compression

def modifiedHeading : Text := "More modified files:\n".toList

def deletedHeading : Text := "Deleted files:\n".toList

structure State where
  account : Account
  modifiedBegun : Bool := false
  deletedBegun : Bool := false
  deriving DecidableEq, Repr

/-- What a name costs in a list: the name and the line feed behind it, in a sum that is not
checked. -/
def entryCost (count : TokenCounter) (filename : Text) : Nat := wrappingAdd (count filename) 1

def list (count : TokenCounter) (heading filename : Text) (begun : Bool) (a : Account) : Account :=
  (if begun then a else a.charge (count heading)).charge (entryCost count filename)

variable (o : AssemblyOptions) (count : TokenCounter)

/-- The rendering of the hunks that add lines; nothing for a file that is shown by name. -/
def shortText? (p : PreparedFile) : Option Text :=
  (p.change.additions? p.hunks).map (Rendering.text o.lineNumbers p.change.filename)

def visit (s : State) (p : PreparedFile) : Outcome × State :=
  match shortText? o p with
  | none =>
    (.deleted, { s with
      account := list count deletedHeading p.change.filename s.deletedBegun s.account
      deletedBegun := true })
  | some text =>
    if s.account.pastHardFloor then (.skipped, s)
    else if s.account.admits (count text) then
      (.rendered text, { s with account := s.account.charge (count text) })
    else
      (.summarized, { s with
        account := list count modifiedHeading p.change.filename s.modifiedBegun s.account
        modifiedBegun := true })

def visitAll (s : State) : List PreparedFile → List (PreparedFile × Outcome) × State
  | [] => ([], s)
  | p :: ps =>
    let (outcome, s) := visit o count s p
    let (outcomes, s) := visitAll s ps
    ((p, outcome) :: outcomes, s)

/-- The files from the costliest down, those of equal cost in their given order. -/
def largestFirst (files : List MeasuredFile) : List PreparedFile :=
  (files.mergeSort fun a b => b.cost ≤ a.cost).map (·.file)

def run (promptTokens : Nat) (files : List MeasuredFile) : List (PreparedFile × Outcome) × State :=
  visitAll o count { account := .start o promptTokens } (largestFirst files)

def namesOf (outcome : Outcome) (visits : List (PreparedFile × Outcome)) : List Text :=
  (visits.filter (·.2 == outcome)).map (·.1.change.filename)

def bodies (visits : List (PreparedFile × Outcome)) : List Text :=
  visits.filterMap fun
    | (_, .rendered text) => some text
    | _ => none

def listing (heading : Text) (names : List Text) : Text :=
  if names.isEmpty then [] else "\n\n".toList ++ heading ++ Text.joinLines names

def text (visits : List (PreparedFile × Outcome)) : Text :=
  Text.joinLines (bodies visits) ++ listing modifiedHeading (namesOf .summarized visits) ++
    listing deletedHeading (namesOf .deleted visits)

theorem visitAll_map_fst (s : State) (ps : List PreparedFile) :
    (visitAll o count s ps).1.map (·.1) = ps := by
  induction ps generalizing s with
  | nil => rfl
  | cons p ps ih => simp [visitAll, ih]

theorem largestFirst_perm (files : List MeasuredFile) :
    (largestFirst files).Perm (files.map (·.file)) :=
  (List.mergeSort_perm files _).map _

end Compression
end DiffBudget
