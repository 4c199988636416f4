import DiffBudget.Snapshot.Basic

/-!
# Stored snapshots

A snapshot is stored folder by folder. The object of a folder has one row for each name in it: the
mode, the name, and the object that stands there, which for a folder is again such an object.
-/
namespace DiffBudget

open Utf8 (Bytes)

namespace Entry

def objectId : Entry → ObjectId
  | submodule commit => commit
  | e => .ofObject "blob".toList e.content

end Entry

namespace Snapshot

/-- The entries under each first part of a path, in order, with that part taken off. -/
def groupByPart : List (List Text × Entry) → List (Text × List (List Text × Entry))
  | [] => []
  | ([], _) :: es => groupByPart es
  | (p :: ps, e) :: es =>
    match groupByPart es with
    | [] => [(p, [(ps, e)])]
    | g :: gs => if g.1 = p then (p, (ps, e) :: g.2) :: gs else (p, [(ps, e)]) :: g :: gs

def row (mode name : Text) (id : ObjectId) : Bytes :=
  Utf8.encode (mode ++ ' ' :: name ++ ['\x00']) ++ id.bytes

def folderMode : Text := "40000".toList

def folderRows : Nat → List (List Text × Entry) → Bytes
  | 0, _ => []
  | depth + 1, es =>
    (groupByPart es).flatMap fun g =>
      match g.2 with
      | [([], e)] => row e.mode g.1 e.objectId
      | below => row folderMode g.1 (.ofObject "tree".toList (folderRows depth below))

def objectId (s : Snapshot) : ObjectId :=
  let es := s.entries.map fun e => (Path.parts e.1, e.2)
  .ofObject "tree".toList (folderRows ((es.map (·.1.length)).foldl max 0) es)

/-- The objects that store the snapshot. The commit of a submodule is stored elsewhere. -/
def objectIds (s : Snapshot) : List ObjectId :=
  s.objectId :: s.folders.map (fun d => (s.below d).objectId) ++
    (s.entries.filter fun e => !e.2.isSubmodule).map fun e => e.2.objectId

end Snapshot
end DiffBudget
