import DiffBudget.Snapshot.Tree
import DiffBudget.Workspace.Basic

/-!
# Repositories

A repository keeps the history of a workspace: a line of commits, each a snapshot with a message,
in which every commit is named by its content and by the commit before it. What the next commit
will hold is staged first.
-/
namespace DiffBudget

open Utf8 (Bytes)

/-- Who made a commit, and when: the seconds and the offset of the local time. -/
structure Signature where
  name : Text
  email : Text
  seconds : Nat
  zone : Text

def Signature.text (s : Signature) : Text :=
  s.name ++ " <".toList ++ s.email ++ "> ".toList ++ Text.ofNat s.seconds ++ ' ' :: s.zone

structure Commit where
  snapshot : Snapshot
  message : Text
  signature : Signature

/-- A commit with all commits before it, the newest first. -/
abbrev History := List Commit

namespace Commit

def textBehind (before : Option ObjectId) (c : Commit) : Bytes :=
  Utf8.encode (Text.unlines
    (("tree ".toList ++ c.snapshot.objectId.digits) ::
      (before.map fun id => "parent ".toList ++ id.digits).toList ++
      ["author ".toList ++ c.signature.text, "committer ".toList ++ c.signature.text, [],
        c.message]))

def idBehind (before : Option ObjectId) (c : Commit) : ObjectId :=
  .ofObject "commit".toList (c.textBehind before)

end Commit

namespace History

def ids : History → List ObjectId
  | [] => []
  | c :: h => c.idBehind (ids h).head? :: ids h

def id? (h : History) : Option ObjectId := h.ids.head?

def snapshot : History → Snapshot
  | [] => .empty
  | c :: _ => c.snapshot

end History

structure Repository where
  history : History := []
  staged : Snapshot := .empty
  branch : Text := "main".toList
  tags : TextTable History := .empty

namespace Repository

def keptSubmodules (r : Repository) (w : Workspace) : Snapshot :=
  r.staged.filter fun path e => e.isSubmodule && w.isFolder (Path.parts path)

/-- The repository with all that stands in the workspace staged. What lies in the folder of a
submodule belongs to another repository. -/
def stageAll (r : Repository) (w : Workspace) : Repository :=
  let kept := r.keptSubmodules w
  let own := w.entries.filter fun path _ => !kept.names.any (Path.isBelow · path)
  { r with staged := kept.entries.foldl (fun s e => s.set e.1 e.2) own }

def stageSubmodule (r : Repository) (path : Text) (commit : ObjectId) : Repository :=
  { r with staged := r.staged.set path (.submodule commit) }

def commit (r : Repository) (message : Text) (signature : Signature) : Repository :=
  { r with history := ⟨r.staged, message, signature⟩ :: r.history }

def tag (r : Repository) (name : Text) : Repository :=
  { r with tags := r.tags.set name r.history }

def objectIds (r : Repository) : List ObjectId :=
  r.history.ids ++ r.history.flatMap fun c => c.snapshot.objectIds

end Repository
end DiffBudget
