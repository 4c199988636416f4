/-!
# Edit scripts

An edit script leads from an old sequence to a new one by a list of operations, each with the
range it covers on either side. A deletion covers nothing of the new sequence and an insertion
nothing of the old one, but each still has an index on the side that it does not cover. A
replacement deletes one range and inserts the other.
-/
namespace DiffBudget

inductive EditTag
  | equal
  | delete
  | insert
  | replace
  deriving DecidableEq, Repr

structure EditOp where
  tag : EditTag
  oldIndex : Nat
  oldCount : Nat
  newIndex : Nat
  newCount : Nat
  deriving DecidableEq, Repr

namespace EditOp

def equal (oldIndex newIndex count : Nat) : EditOp := ⟨.equal, oldIndex, count, newIndex, count⟩

def delete (oldIndex count newIndex : Nat) : EditOp := ⟨.delete, oldIndex, count, newIndex, 0⟩

def insert (oldIndex newIndex count : Nat) : EditOp := ⟨.insert, oldIndex, 0, newIndex, count⟩

def oldEnd (op : EditOp) : Nat := op.oldIndex + op.oldCount

def newEnd (op : EditOp) : Nat := op.newIndex + op.newCount

def shiftLeft (op : EditOp) (s : Nat) : EditOp :=
  { op with oldIndex := op.oldIndex - s, newIndex := op.newIndex - s }

def shiftRight (op : EditOp) (s : Nat) : EditOp :=
  { op with oldIndex := op.oldIndex + s, newIndex := op.newIndex + s }

def resize (op : EditOp) (f : Nat → Nat) : EditOp :=
  match op.tag with
  | .equal | .replace => { op with oldCount := f op.oldCount, newCount := f op.newCount }
  | .delete => { op with oldCount := f op.oldCount }
  | .insert => { op with newCount := f op.newCount }

def growLeft (op : EditOp) (s : Nat) : EditOp := (op.shiftLeft s).resize (· + s)

def growRight (op : EditOp) (s : Nat) : EditOp := op.resize (· + s)

def shrinkLeft (op : EditOp) (s : Nat) : EditOp := op.resize (· - s)

def shrinkRight (op : EditOp) (s : Nat) : EditOp := (op.shiftRight s).resize (· - s)

def isEmpty (op : EditOp) : Bool := op.oldCount == 0 && op.newCount == 0

@[simp] theorem resize_tag (op : EditOp) (f : Nat → Nat) : (op.resize f).tag = op.tag := by
  unfold resize; split <;> simp_all

@[simp] theorem resize_oldIndex (op : EditOp) (f : Nat → Nat) :
    (op.resize f).oldIndex = op.oldIndex := by
  unfold resize; split <;> rfl

@[simp] theorem resize_newIndex (op : EditOp) (f : Nat → Nat) :
    (op.resize f).newIndex = op.newIndex := by
  unfold resize; split <;> rfl

end EditOp

/-- Up to how many items the two sequences agree from the given places on, reading forward,
within `limit`. -/
def commonFront {α : Type} [DecidableEq α] (old new : Array α) (i j : Nat) : Nat → Nat
  | 0 => 0
  | limit + 1 =>
    if i < old.size ∧ old[i]? = new[j]? then commonFront old new (i + 1) (j + 1) limit + 1 else 0

def commonBack {α : Type} [DecidableEq α] (old new : Array α) : Nat → Nat → Nat → Nat
  | i + 1, j + 1, limit + 1 =>
    if i < old.size ∧ old[i]? = new[j]? then commonBack old new i j limit + 1 else 0
  | _, _, _ => 0

theorem commonFront_le {α : Type} [DecidableEq α] (old new : Array α) (i j limit : Nat) :
    commonFront old new i j limit ≤ limit := by
  induction limit generalizing i j with
  | zero => exact Nat.le_refl _
  | succ n ih =>
    simp only [commonFront]
    split
    · exact Nat.succ_le_succ (ih _ _)
    · omega

theorem commonBack_le {α : Type} [DecidableEq α] (old new : Array α) (i j limit : Nat) :
    commonBack old new i j limit ≤ limit := by
  induction limit generalizing i j with
  | zero => cases i <;> cases j <;> simp [commonBack]
  | succ n ih =>
    cases i <;> cases j <;> simp only [commonBack, Nat.zero_le]
    split
    · exact Nat.succ_le_succ (ih _ _)
    · omega

end DiffBudget
