import DiffBudget.Snapshot.Basic

/-!
# Workspaces

A workspace is a folder with all that stands below it. A path leads to a place part by part: it
may go up, links on the way are followed, and it may leave the workspace, of whose surroundings
nothing else is known.
-/
namespace DiffBudget

open Utf8 (Bytes)

inductive AccessFault
  | absent
  | notFolder
  | isFolder
  | linkLoop
  deriving DecidableEq, Repr

def AccessFault.message : AccessFault → Text
  | absent => "No such file or directory (os error 2)".toList
  | notFolder => "Not a directory (os error 20)".toList
  | isFolder => "Is a directory (os error 21)".toList
  | linkLoop => "Too many levels of symbolic links (os error 40)".toList

structure Workspace where
  root : Text
  entries : Snapshot := .empty
  /-- The folders that were made. Some of them may be empty. -/
  folders : List Text := []

/-- What a path leads to. Places inside the workspace are told by the parts of their paths. -/
inductive Place
  | folder (parts : List Text)
  | file (parts : List Text) (content : Bytes)
  | vacant (parts : List Text)
  | outside
  deriving DecidableEq, Repr

namespace Workspace

def isFolder (w : Workspace) (parts : List Text) : Bool :=
  parts.isEmpty || w.folders.contains (Path.ofParts parts) ||
    w.entries.hasFolder (Path.ofParts parts)

def isStay (part : Text) : Bool := part.isEmpty || part == ['.']

def isUp (part : Text) : Bool := part == ['.', '.']

def maxLinks : Nat := 40

def walk (w : Workspace) (links : Nat) (here : List Text) :
    List Text → Except AccessFault Place
  | [] => .ok (.folder here)
  | p :: ps =>
    if isStay p then walk w links here ps
    else if isUp p then
      if here.isEmpty then
        if ps.all fun q => isStay q || isUp q then .ok .outside else .error .absent
      else walk w links here.dropLast ps
    else if w.isFolder (here ++ [p]) then walk w links (here ++ [p]) ps
    else
      match w.entries.find? (Path.ofParts (here ++ [p])) with
      | some (.file _ content) =>
        if ps.isEmpty then .ok (.file (here ++ [p]) content) else .error .notFolder
      | some (.link target) =>
        match links with
        | 0 => .error .linkLoop
        | links + 1 => walk w links here (Path.parts (Utf8.decodeLossy target) ++ ps)
      | _ => .ok (.vacant (here ++ p :: ps))
termination_by ps => (links, ps.length)

def belowRoot? (w : Workspace) (path : Text) : Option Text :=
  (w.root.isPrefixOf? path).filter fun below => below.isEmpty || below.head? == some '/'

def place (w : Workspace) (here : List Text) (path : Text) : Except AccessFault Place :=
  match w.belowRoot? path with
  | some below => w.walk maxLinks [] (Path.parts below)
  | none =>
    if path.isEmpty then .error .absent
    else if path.head? != some '/' then w.walk maxLinks here (Path.parts path)
    else if path.all Path.isSlash then .ok .outside
    else .error .absent

def folder (w : Workspace) (here : List Text) (path : Text) :
    Except AccessFault (Option (List Text)) := do
  match ← w.place here path with
  | .folder parts => return some parts
  | .outside => return none
  | .file .. => .error .notFolder
  | .vacant _ => .error .absent

def read (w : Workspace) (here : List Text) (path : Text) : Except AccessFault Bytes := do
  match ← w.place here path with
  | .file _ content => return content
  | .folder _ | .outside => .error .isFolder
  | .vacant _ => .error .absent

def isFile (w : Workspace) (here : List Text) (path : Text) : Bool :=
  match w.place here path with
  | .ok (.file ..) => true
  | _ => false

def fullPath (w : Workspace) (parts : List Text) : Text := Path.ofParts (w.root :: parts)

/-! ## Changes -/

def makeFolders (w : Workspace) (path : Text) : Workspace :=
  { w with folders := (w.folders ++ Path.foldersOf path).eraseDups }

def putEntry (w : Workspace) (path : Text) (e : Entry) : Workspace :=
  { w.makeFolders path with entries := w.entries.set path e }

/-- The path at which a write arrives: links are followed, also by the last part. -/
def target (w : Workspace) (path : Text) : Text :=
  match w.place [] path with
  | .ok (.file parts _) | .ok (.vacant parts) => Path.ofParts parts
  | _ => path

def isExecutable (w : Workspace) (path : Text) : Bool :=
  match w.entries.find? path with
  | some (.file executable _) => executable
  | _ => false

/-- The workspace with the content of a file set. A file that is there keeps its mode. -/
def write (w : Workspace) (path : Text) (content : Bytes) : Workspace :=
  let path := w.target path
  w.putEntry path (.file (w.isExecutable path) content)

def link (w : Workspace) (path target : Text) : Workspace :=
  w.putEntry path (.link (Utf8.encode target))

def makeExecutable (w : Workspace) (path : Text) : Workspace :=
  let path := w.target path
  match w.entries.find? path with
  | some (.file _ content) => w.putEntry path (.file true content)
  | _ => w

def remove (w : Workspace) (path : Text) : Workspace :=
  { w with entries := w.entries.erase path }

def move (w : Workspace) (old new : Text) : Workspace :=
  let moved (p : Text) : Option Text :=
    if p = old then some new else ((old ++ ['/']).isPrefixOf? p).map ((new ++ ['/']) ++ ·)
  let w := w.makeFolders new
  { w with
    entries := .ofList (w.entries.entries.filter (fun e => (moved e.1).isNone) ++
      w.entries.entries.filterMap fun e => (moved e.1).map (·, e.2))
    folders := (w.folders.map fun p => (moved p).getD p).eraseDups }

end Workspace
end DiffBudget
