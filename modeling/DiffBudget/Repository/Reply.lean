import DiffBudget.Repository.Checkout
import DiffBudget.Snapshot.Quoted

/-!
# Replies

What a command leaves when it ends, and the replies about objects and histories.
-/
namespace DiffBudget

open Utf8 (Bytes)

structure Reply where
  exitCode : Nat := 0
  output : Bytes := []

namespace Reply

def ofText (t : Text) : Reply := { output := Utf8.encode t }

def ofLines (ls : List Text) : Reply := ofText (Text.unlines ls)

def ofAnswer (yes : Bool) : Reply := { exitCode := if yes then 0 else 1 }

end Reply

namespace Found

def kind : Found → Text
  | commit _ => "commit".toList
  | tree _ => "tree".toList
  | blob _ => "blob".toList

def id? : Found → Option ObjectId
  | commit h => History.id? h
  | tree s => some s.objectId
  | blob e => some e.objectId

end Found

def History.newestText : History → Bytes
  | [] => []
  | c :: h => c.textBehind (id? h)

namespace Checkout

/-- A name shortened so that it still tells its object apart from all others. -/
def shorten (c : Checkout) : ObjectId → Text :=
  let all := c.repository.objectIds
  ObjectId.short all

/-! ## Objects -/

def argumentOrNewest (c : Checkout) (arg : Option Text) : Except Complaint Found :=
  match arg with
  | some arg => c.argument arg
  | none =>
    if c.repository.history.isEmpty then .error (.noCommits c.repository.branch)
    else c.argument "HEAD".toList

def objectNamed (c : Checkout) (arg : Text) : Except Complaint Found :=
  match c.object arg with
  | .error (.unknownArgument _) => .error (.invalidName arg)
  | found => found

def objectKind (c : Checkout) (arg : Text) : Except Complaint Reply :=
  match c.objectNamed arg with
  | .error (.badObject _) => .error .noObjectInfo
  | .error e => .error e
  | .ok found => .ok (.ofLines [found.kind])

def objectExists (c : Checkout) (arg : Text) : Except Complaint Reply :=
  match c.objectNamed arg with
  | .error (.badObject _) => .error .silent
  | .error e => .error e
  | .ok _ => .ok {}

def folderLine (s : Snapshot) (name : Text) : Text :=
  match s.find? name with
  | some e => e.mode ++ (if e.isSubmodule then " commit ".toList else " blob ".toList) ++
    e.objectId.digits ++ '\t' :: Path.quoted [] name
  | none => "040000 tree ".toList ++ (s.below name).objectId.digits ++ '\t' :: Path.quoted [] name

def firstParts (s : Snapshot) : List Text :=
  (s.names.map fun p => (Path.parts p).headD []).eraseDups

def objectText (c : Checkout) (arg : Text) : Except Complaint Reply := do
  match ← c.objectNamed arg with
  | .blob e => return { output := e.content }
  | .commit h => return { output := h.newestText }
  | .tree s => return .ofLines ((firstParts s).map (folderLine s))

def objectSize (c : Checkout) (arg : Text) : Except Complaint Reply := do
  return .ofLines [Text.ofNat (← c.objectText arg).output.length]

/-- What a commit or a folder holds, as seen from the current folder: the names in it, or the paths
of everything below it. -/
def listFolder (c : Checkout) (deep namesOnly : Bool) (arg : Text) : Except Complaint Reply :=
  match c.object arg with
  | .ok (.commit h) => .ok (.ofLines (lines h.snapshot))
  | .ok (.tree s) => .ok (.ofLines (lines s))
  | .ok (.blob _) | .error (.badObject _) => .error .notTree
  | .error _ => .error (.invalidName arg)
where
  lines (s : Snapshot) : List Text :=
    let s := if c.here.isEmpty || c.inStore then s else s.below (Path.ofParts c.here)
    (if deep then s.names else firstParts s).map
      (if namesOnly then Path.quoted [] else folderLine s)

/-! ## Names -/

def fullName (c : Checkout) (arg : Text) : Except Complaint Text := do
  return ((← c.object arg).id?.map ObjectId.digits).getD []

def shortName (c : Checkout) (arg : Text) : Except Complaint Reply :=
  match c.object arg with
  | .ok found => .ok (.ofLines (found.id?.map c.shorten).toList)
  | .error _ => .error .notSingleRevision

def singleName (c : Checkout) (quiet : Bool) (arg : Text) : Except Complaint Reply :=
  match c.fullName arg with
  | .ok name => .ok (.ofLines [name])
  | .error _ => .error (if quiet then .silent else .notSingleRevision)

def branchName (c : Checkout) (arg : Text) : Except Complaint Reply := do
  let _ ← c.object arg
  return .ofLines [if arg = "HEAD".toList then c.repository.branch else arg]

/-! ## Histories -/

/-- The two revisions of a range; one that is left out is the newest commit. With three dots, the
range starts where their histories parted. -/
structure RevisionRange where
  old : Text
  new : Text
  fromMeeting : Bool := false

def readRange? (t : Text) : Option RevisionRange :=
  match Text.cutFirst? "...".toList t, Text.cutFirst? "..".toList t with
  | some (old, new), _ => some ⟨orNewest old, orNewest new, true⟩
  | none, some (old, new) => some ⟨orNewest old, orNewest new, false⟩
  | none, none => none
where
  orNewest (t : Text) : Text := if t.isEmpty then "HEAD".toList else t

def historyNamed (c : Checkout) (arg : Text) : Except Complaint History :=
  match c.history? arg with
  | some h => .ok h
  | none => .error (.invalidName arg)

def isAncestor (c : Checkout) (old new : Text) : Except Complaint Reply := do
  return .ofAnswer ((← c.historyNamed old).length ≤ (← c.historyNamed new).length)

def mergeBase (c : Checkout) (a b : Text) : Except Complaint Reply := do
  let a ← c.historyNamed a
  let b ← c.historyNamed b
  return .ofLines ((if a.length ≤ b.length then a else b).id?.map ObjectId.digits).toList

end Checkout
end DiffBudget
