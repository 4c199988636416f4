import DiffBudget.Repository.Complaint
import DiffBudget.Repository.Revision

/-!
# Checkouts

A checkout is a workspace together with the repository of its history, seen from one of its
folders. Objects are asked for by a revision, or by a revision and a path behind a colon.
-/
namespace DiffBudget

structure Checkout where
  workspace : Workspace
  repository : Repository
  here : List Text := []

namespace Checkout

def storeFolder : Text := ".git".toList

def inStore (c : Checkout) : Bool := c.here.head? == some storeFolder

def hereFront (c : Checkout) : Text := c.here.flatMap (· ++ ['/'])

/-! ## Objects -/

/-- The two sides of the first colon outside braces. -/
def splitPath? (depth : Nat) : Text → Option (Text × Text)
  | [] => none
  | '\x7b' :: t => (splitPath? (depth + 1) t).map fun s => ('\x7b' :: s.1, s.2)
  | '\x7d' :: t => (splitPath? (depth - 1) t).map fun s => ('\x7d' :: s.1, s.2)
  | ':' :: t =>
    if depth = 0 then some ([], t)
    else (splitPath? depth t).map fun s => (':' :: s.1, s.2)
  | c :: t => (splitPath? depth t).map fun s => (c :: s.1, s.2)

/-- The parts of a path with its steps back and its empty steps carried out; nothing for a path
that leaves the top. -/
def tidyParts? (done : List Text) : List Text → Option (List Text)
  | [] => some done
  | p :: ps =>
    if Workspace.isStay p then tidyParts? done ps
    else if Workspace.isUp p then
      if done.isEmpty then none else tidyParts? done.dropLast ps
    else tidyParts? (done ++ [p]) ps

/-- A path that begins with a step from the folder is told from the top. -/
def fromTop (c : Checkout) (path : Text) : Except Complaint Text :=
  if "./".toList.isPrefixOf path || "../".toList.isPrefixOf path then
    match tidyParts? c.here (Path.parts path) with
    | some ps => .ok (Path.ofParts ps)
    | none => .error (.pathOutside path c.workspace.root)
  else .ok path

def entryAt? (s : Snapshot) (path : Text) : Option Found :=
  if path.isEmpty then some (.tree s)
  else
    match s.find? path with
    | some e => some (.blob e)
    | none =>
      let dir := if path.getLast? = some '/' then path.dropLast else path
      if s.hasFolder dir then some (.tree (s.below dir)) else none

def snapshot? : Found → Option Snapshot
  | .commit h => some h.snapshot
  | .tree s => some s
  | .blob _ => none

def onDisk (c : Checkout) (path : Text) : Bool :=
  c.workspace.entries.contains path ||
    (!path.isEmpty && ((tidyParts? [] (Path.parts path)).map c.workspace.isFolder).getD false)

/-- Why a path of a revision leads to nothing. The snapshot of the revision may not be known. -/
def missingPath (c : Checkout) (rev path : Text) (s : Option Snapshot) : Complaint :=
  let full := c.hereFront ++ path
  if c.onDisk path then .pathOnlyOnDisk path rev
  else if (s.bind (entryAt? · full)).isSome then .pathFromHere path full rev
  else .pathNotIn path rev

def isFullName (t : Text) : Bool :=
  t.length == ObjectId.size && t.all fun c => (ObjectId.hexValue? c).isSome

def objectAt (c : Checkout) (t rev path : Text) : Except Complaint Found :=
  match (c.repository.resolve? (.read rev)).bind snapshot? with
  | some s => do
    let path ← c.fromTop path
    match entryAt? s path with
    | some (.blob (.submodule _)) => .error (.badObject t)
    | some found => return found
    | none => .error (c.missingPath rev path s)
  | none => do
    if isFullName rev then .error (c.missingPath rev (← c.fromTop path) none)
    else .error (.unknownObject rev)

def object (c : Checkout) (t : Text) : Except Complaint Found :=
  match c.repository.resolve? (.read t) with
  | some found => .ok found
  | none =>
    match splitPath? 0 t with
    | some (rev, path) => c.objectAt t rev path
    | none => .error (if isFullName t then .badObject t else .unknownArgument t)

/-! ## Arguments -/

def isPath (c : Checkout) (arg : Text) : Bool :=
  !c.inStore && !arg.isEmpty && c.onDisk (c.hereFront ++ arg)

/-- The object that an argument names, unless it could be a path as well. -/
def argument (c : Checkout) (arg : Text) : Except Complaint Found := do
  let f ← c.object arg
  if c.isPath arg then .error (.revisionAndFile arg)
  return f

def history? (c : Checkout) (t : Text) : Option History :=
  (c.repository.resolve? (.read t)).bind Repository.commit?

end Checkout
end DiffBudget
