import DiffBudget.Repository.Checkout
import DiffBudget.Snapshot.NameStatus

/-!
# The state of a workspace

How the files of a workspace differ from what is staged, what is staged differs from the newest
commit, and which files are not tracked at all. A folder without a tracked file is listed as one.
-/
namespace DiffBudget.Checkout

/-- What stands in the workspace under a staged path. The folder of a submodule counts for it. -/
def workEntry? (c : Checkout) (path : Text) (staged : Entry) : Option Entry :=
  match staged with
  | .submodule _ =>
    if c.workspace.isFolder (Path.parts path) then some staged
    else c.workspace.entries.find? path
  | _ => c.workspace.entries.find? path

def trackedWork (c : Checkout) : Snapshot :=
  .ofList (c.repository.staged.entries.filterMap fun e => (c.workEntry? e.1 e.2).map (e.1, ·))

def isTracked (c : Checkout) (path : Text) : Bool :=
  c.repository.staged.entries.any fun e =>
    e.1 == path || (e.2.isSubmodule && Path.isBelow e.1 path)

def untracked (c : Checkout) : List Text := c.workspace.entries.names.filter (!c.isTracked ·)

/-- The topmost folder of a path in which nothing is staged, or the path itself. -/
def untrackedName (c : Checkout) (path : Text) : Text :=
  match (Path.foldersOf path).find? (!c.repository.staged.hasFolder ·) with
  | some dir => dir ++ ['/']
  | none => path

def letterAt (ds : List Delta) (path : Text) : Char :=
  match ds.find? (·.path == path) with
  | some d => d.status.headD ' '
  | none => ' '

def partsFrom : List Text → List Text → List Text
  | h :: hs, p :: ps =>
    if h = p then partsFrom hs ps else (h :: hs).map (fun _ => ['.', '.']) ++ p :: ps
  | hs, ps => hs.map (fun _ => ['.', '.']) ++ ps

def relative (c : Checkout) (path : Text) : Text :=
  let r := Path.ofParts (partsFrom c.here (Path.parts path))
  if r.isEmpty then "./".toList else r

/-- One line for each path: two letters for what is staged and what is not, and the path, told from
the top or from the current folder. -/
def statusLines (c : Checkout) (fromTop : Bool) : List Text :=
  let committed := Delta.between c.repository.history.snapshot c.repository.staged
  let worked := Delta.between c.repository.staged c.trackedWork
  let changed := (TextTable.ofList ((committed ++ worked).map fun d => (d.path, ()))).names
  let shown (path : Text) := Path.quotedForStatus (if fromTop then path else c.relative path)
  changed.map (fun p => letterAt committed p :: letterAt worked p :: ' ' :: shown p) ++
    (c.untracked.map c.untrackedName).eraseDups.map fun p => "?? ".toList ++ shown p

/-- The staged paths below the folder, told from there; all of them in the store. -/
def stagedHere (c : Checkout) : List Text :=
  if c.inStore then c.repository.staged.names
  else c.repository.staged.names.filterMap (c.hereFront.isPrefixOf? ·)

end DiffBudget.Checkout
