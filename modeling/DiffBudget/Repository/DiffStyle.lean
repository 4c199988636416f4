import DiffBudget.Repository.Difference
import DiffBudget.Repository.Reply
import DiffBudget.Snapshot.DiffStat
import DiffBudget.Repository.WorkStatus

/-!
# Differences as they are asked for

Which two states are compared depends on the revisions that are named: two of them, one and the
workspace, or none, when the workspace is compared with what is staged. A style says how the
differences are told.
-/
namespace DiffBudget

open Utf8 (Bytes)

inductive DiffForm
  | patch
  | nameStatus
  | names
  | chart
  | counts
  | summary
  | nothing
  deriving DecidableEq, Repr

structure DiffStyle where
  form : DiffForm := .patch
  zero : Bool := false
  renames : Bool := true
  /-- Whether what is staged is compared in place of the workspace. -/
  staged : Bool := false
  exitCode : Bool := false
  deriving DecidableEq, Repr

namespace DiffStyle

def withOption? (s : DiffStyle) (o : Text) : Option DiffStyle :=
  match String.ofList o with
  | "--name-status" => some { s with form := .nameStatus }
  | "--name-only" => some { s with form := .names }
  | "--stat" => some { s with form := .chart }
  | "--numstat" => some { s with form := .counts }
  | "--shortstat" => some { s with form := .summary }
  | "-z" => some { s with zero := true }
  | "--no-renames" => some { s with renames := false }
  | "-M" | "--find-renames" => some { s with renames := true }
  | "--cached" | "--staged" => some { s with staged := true }
  | "--exit-code" => some { s with exitCode := true }
  | "--quiet" => some { s with exitCode := true, form := .nothing }
  | "-s" | "--no-patch" => some { s with form := .nothing }
  | "-p" | "-u" | "--patch" => some { s with form := .patch }
  | "--no-color" | "--no-ext-diff" => some s
  | _ => none

def print (short : ObjectId → Text) (s : DiffStyle) (ds : List Delta) : Bytes :=
  let ds := if s.renames then Rename.detect ds else ds
  match s.form with
  | .patch => DiffText.print short ds
  | .nameStatus => Utf8.encode (if s.zero then Delta.nameStatus ds else Delta.nameStatusLines ds)
  | .names =>
    Utf8.encode (if s.zero then ds.flatMap fun d => d.path ++ ['\x00']
      else Text.unlines (ds.map fun d => Path.quoted [] d.path))
  | .chart => Utf8.encode (FileStat.chart (ds.map Delta.stat))
  | .counts =>
    Utf8.encode (ds.flatMap fun d =>
      if s.zero then d.stat.countRecord else d.stat.countLine)
  | .summary => if ds.isEmpty then [] else Utf8.encode (FileStat.summary (ds.map Delta.stat))
  | .nothing => []

/-- The style, the arguments in front of a lone pair of hyphens, and those behind it; nothing when
an option is not known. -/
def read (s : DiffStyle) : List Text → Option (DiffStyle × List Text × List Text)
  | [] => some (s, [], [])
  | a :: as =>
    if a = "--".toList then some (s, [], as)
    else if a.head? = some '-' then (s.withOption? a).bind fun s => s.read as
    else (s.read as).map fun r => (r.1, a :: r.2.1, r.2.2)

end DiffStyle

namespace Checkout

def printDeltas (c : Checkout) (s : DiffStyle) (ds : List Delta) : Reply :=
  { exitCode := if s.exitCode && !ds.isEmpty then 1 else 0, output := s.print c.shorten ds }

/-- The arguments that name revisions, and those from the first one that only names a path. -/
def splitArguments (c : Checkout) : List Text → Except Complaint (List Text × List Text)
  | [] => .ok ([], [])
  | a :: as =>
    match c.object (RevisionArgument.read a).bare, readRange? a with
    | .error e, none =>
      if !c.isPath a then .error e
      else
        match as.find? (!c.isPath ·) with
        | some other => .error (.noSuchPath other)
        | none => .ok ([], a :: as)
    | _, _ => do
      let (revs, paths) ← splitArguments c as
      return (a :: revs, paths)

def limited (c : Checkout) (paths : List Text) (s : Snapshot) : Snapshot :=
  if paths.isEmpty then s
  else
    let tops := paths.filterMap fun p => (tidyParts? c.here (Path.parts p)).map Path.ofParts
    s.filter fun path _ => tops.any fun t => path == t || Path.isBelow t path

def states (c : Checkout) (s : DiffStyle) (revs : List Text) :
    Except Complaint (Snapshot × Snapshot) := do
  let staged := c.repository.staged
  match revs with
  | [] =>
    return if s.staged then (c.repository.history.snapshot, staged) else (staged, c.trackedWork)
  | [rev] =>
    match readRange? rev with
    | some r =>
      match r.fromMeeting, c.history? r.old, c.history? r.new with
      | true, some old, some new =>
        return ((if old.length ≤ new.length then old else new).snapshot, new.snapshot)
      | true, _, _ => .error (.unknownArgument rev)
      | false, _, _ =>
        let end? (t : Text) := (c.side t).mapError fun _ => .unknownArgument rev
        return (← end? r.old, ← end? r.new)
    | none => return (← c.side rev, if s.staged then staged else c.trackedWork)
  | [base, head] =>
    let old ← c.side base
    let new ← c.side head
    return if (RevisionArgument.read head).isExcluded then (new, old) else (old, new)
  | _ => .error .silent

def diff (c : Checkout) (s : DiffStyle) (args paths : List Text) : Except Complaint Reply := do
  let (revs, more) ← if paths.isEmpty then c.splitArguments args else .ok (args, paths)
  if c.inStore && revs.length < 2 && !s.staged then .error .noWorkTree
  let (old, new) ← c.states s revs
  return c.printDeltas s (Delta.between (c.limited more old) (c.limited more new))

end Checkout
end DiffBudget
