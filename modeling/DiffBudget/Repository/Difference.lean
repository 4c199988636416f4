import DiffBudget.Change.Collected
import DiffBudget.Failure
import DiffBudget.Repository.Reply
import DiffBudget.Snapshot.DiffText

/-!
# Changes between two commits

The changed files between two commits of a checkout. A revision may be marked as the side to leave
out, by a caret in front of it: it then stands for the older side, and no content is shown for it.
-/
namespace DiffBudget

open Utf8 (Bytes)

structure RevisionArgument where
  text : Text
  isExcluded : Bool
  bare : Text

def RevisionArgument.read (t : Text) : RevisionArgument :=
  match t with
  | '^' :: bare => ⟨t, true, bare⟩
  | bare => ⟨t, false, bare⟩

namespace Checkout

def commit? (c : Checkout) (arg : Text) : Option History :=
  (c.repository.resolve? (.asKind .commit (.read (RevisionArgument.read arg).bare))).bind
    Repository.commit?

def verify (c : Checkout) (arg : Text) : Except Failure Unit :=
  if (c.commit? arg).isSome then .ok () else .error (.unknownRevision arg)

def side (c : Checkout) (arg : Text) : Except Complaint Snapshot := do
  match snapshot? (← c.object (RevisionArgument.read arg).bare) with
  | some s => if c.isPath arg then .error (.revisionAndFile arg) else return s
  | none => .error (.badRevision arg)

/-- The differences from one revision to another; from the second to the first if the second is
the one to leave out. -/
def between (c : Checkout) (base head : Text) : Except Complaint (List Delta) := do
  let old ← c.side base
  let new ← c.side head
  return if (RevisionArgument.read head).isExcluded then Delta.between new old
    else Delta.between old new

def contentOf (c : Checkout) (rev path : Text) : Except Complaint Bytes := do
  let a := RevisionArgument.read rev
  if a.isExcluded then return []
  match ← c.argument (rev ++ ':' :: path) with
  | .blob e => return e.content
  | .tree _ | .commit _ => return []

def failed (command : Text) (complaint : Complaint) : Failure :=
  .gitFailed command complaint.exitCode complaint.message

def collect (c : Checkout) (base head : Text) : Except Failure (List FileChange) := do
  c.verify base
  c.verify head
  let deltas := Rename.detect (← (c.between base head).mapError (failed "diff".toList))
  let content (rev path : Text) := (c.contentOf rev path).mapError (failed "show".toList)
  PathChange.collectAll (content base) (content head) (Delta.nameStatus deltas)
    (Utf8.decodeLossy (DiffText.print c.shorten deltas))

end Checkout
end DiffBudget
