import DiffBudget.Text.Number

/-!
# Complaints

Why a repository cannot answer a question, with the wording and the exit code of each.
-/
namespace DiffBudget

inductive Complaint
  | notRepository
  | noWorkTree
  | unknownObject (name : Text)
  | pathNotIn (path rev : Text)
  | pathOnlyOnDisk (path rev : Text)
  /-- The path is meant from the folder of the question, which takes another spelling. -/
  | pathFromHere (path fullPath rev : Text)
  | pathOutside (path root : Text)
  | noSuchPath (path : Text)
  | badObject (name : Text)
  | badRevision (name : Text)
  | unknownArgument (arg : Text)
  | revisionAndFile (arg : Text)
  | invalidName (name : Text)
  | noObjectInfo
  | notTree
  | notSingleRevision
  | noSuchFile (path : Text)
  | noAccess (path : Text)
  | invalidReference (name : Text)
  | noCommits (branch : Text)
  | unknownCommand (name : Text)
  /-- A failure that says nothing. -/
  | silent
  deriving DecidableEq, Repr

namespace Complaint

def separationHint : Text :=
  ("Use '--' to separate paths from revisions, like this:\n" ++
    "'git <command> [<revision>...] -- [<file>...]'").toList

def inQuotes (t : Text) : Text := '\'' :: t ++ ['\'']

def cause : Complaint → Text
  | notRepository => "not a git repository (or any of the parent directories): .git".toList
  | noWorkTree => "this operation must be run in a work tree".toList
  | unknownObject name => "invalid object name ".toList ++ inQuotes name ++ ['.']
  | pathNotIn path rev =>
    "path ".toList ++ inQuotes path ++ " does not exist in ".toList ++ inQuotes rev
  | pathOnlyOnDisk path rev =>
    "path ".toList ++ inQuotes path ++ " exists on disk, but not in ".toList ++ inQuotes rev
  | pathFromHere path fullPath rev =>
    "path ".toList ++ inQuotes fullPath ++ " exists, but not ".toList ++ inQuotes path ++
      "\nhint: Did you mean ".toList ++ inQuotes (rev ++ ':' :: fullPath) ++ " aka ".toList ++
      inQuotes (rev ++ ":./".toList ++ path) ++ ['?']
  | pathOutside path root =>
    inQuotes path ++ " is outside repository at ".toList ++ inQuotes root
  | noSuchPath path =>
    path ++ (": no such path in the working tree.\n" ++
      "Use 'git <command> -- <path>...' to specify paths that do not exist locally.").toList
  | badObject name => "bad object ".toList ++ name
  | badRevision name => "bad revision ".toList ++ inQuotes name
  | unknownArgument arg =>
    "ambiguous argument ".toList ++ inQuotes arg ++
      ": unknown revision or path not in the working tree.\n".toList ++ separationHint
  | revisionAndFile arg =>
    "ambiguous argument ".toList ++ inQuotes arg ++ ": both revision and filename\n".toList ++
      separationHint
  | invalidName name => "Not a valid object name ".toList ++ name
  | noObjectInfo => "git cat-file: could not get object info".toList
  | notTree => "not a tree object".toList
  | notSingleRevision => "Needed a single revision".toList
  | noSuchFile path =>
    "pathspec ".toList ++ inQuotes path ++ " did not match any file(s) known to git".toList
  | noAccess path => "Could not access ".toList ++ inQuotes path
  | invalidReference name => "invalid reference: ".toList ++ name
  | noCommits branch =>
    "your current branch ".toList ++ inQuotes branch ++ " does not have any commits yet".toList
  | unknownCommand name =>
    "git: ".toList ++ inQuotes name ++ " is not a git command. See 'git --help'.".toList
  | silent => []

def opening : Complaint → Text
  | unknownCommand _ | silent => []
  | noSuchFile _ | noAccess _ => "error: ".toList
  | _ => "fatal: ".toList

def message (c : Complaint) : Text := c.opening ++ c.cause

def exitCode : Complaint → Nat
  | noSuchFile _ | noAccess _ | unknownCommand _ | silent => 1
  | _ => 128

theorem exitCode_pos (c : Complaint) : 0 < c.exitCode := by
  unfold exitCode
  split <;> decide

end Complaint
end DiffBudget
