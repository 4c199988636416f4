import DiffBudget.Snapshot.ObjectId
import DiffBudget.Text.Table

/-!
# Snapshots

A snapshot is the state of a project at one commit: what stands under each path. Paths are
relative, with a slash between their parts; the order of paths is the order in which changes are
listed.
-/
namespace DiffBudget

open Utf8 (Bytes)

/-- What stands under a path: a file, a link with the path that it leads to, or the commit of
another project. -/
inductive Entry
  | file (executable : Bool) (content : Bytes)
  | link (target : Bytes)
  | submodule (commit : ObjectId)
  deriving DecidableEq, Repr

abbrev Snapshot := TextTable Entry

namespace Entry

def isFile : Entry → Bool
  | file .. => true
  | _ => false

def isSubmodule : Entry → Bool
  | submodule _ => true
  | _ => false

def sameSort : Entry → Entry → Bool
  | file .., file .. => true
  | link _, link _ => true
  | submodule _, submodule _ => true
  | _, _ => false

def mode : Entry → Text
  | file false _ => "100644".toList
  | file true _ => "100755".toList
  | link _ => "120000".toList
  | submodule _ => "160000".toList

def content : Entry → Bytes
  | file _ content => content
  | link target => target
  | submodule commit => Utf8.encode ("Subproject commit ".toList ++ commit.digits ++ ['\n'])

/-- Whether two entries hold the same, whatever their modes. A submodule holds no bytes of its
own, so it equals another submodule only. -/
def sameContent : Entry → Entry → Bool
  | submodule a, submodule b => a == b
  | submodule _, _ => false
  | _, submodule _ => false
  | a, b => a.content == b.content

end Entry

namespace Path

def isSlash (c : Char) : Bool := c == '/'

def parts (p : Text) : List Text := Text.cutAt isSlash p

def ofParts (ps : List Text) : Text := ['/'].intercalate ps

def basename (p : Text) : Text := (p.reverse.takeWhile (! isSlash ·)).reverse

def folder (p : Text) : Text := ofParts (parts p).dropLast

def isBelow (dir p : Text) : Bool := dir.isEmpty || (dir ++ ['/']).isPrefixOf p

def foldersOf (p : Text) : List Text :=
  let ps := parts p
  (List.range (ps.length - 1)).map fun n => ofParts (ps.take (n + 1))

end Path

namespace Snapshot

def below (s : Snapshot) (dir : Text) : Snapshot :=
  .ofList (s.entries.filterMap fun e => ((dir ++ ['/']).isPrefixOf? e.1).map (·, e.2))

def folders (s : Snapshot) : List Text := (s.names.flatMap Path.foldersOf).eraseDups

def hasFolder (s : Snapshot) (dir : Text) : Bool :=
  s.entries.any fun e => (dir ++ ['/']).isPrefixOf e.1

end Snapshot
end DiffBudget
