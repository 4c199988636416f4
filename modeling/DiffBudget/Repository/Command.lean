import DiffBudget.Repository.CommitReport
import DiffBudget.Repository.Project
import DiffBudget.Text.Blank

/-!
# Commands

The commands that a repository answers. They only look: nothing is changed by any of them, and a
command that would change something is refused.
-/
namespace DiffBudget

open Utf8 (Bytes)

inductive PlaceQuestion
  | top
  | wayDown
  | wayUp
  | inWorkTree
  | inStore
  | store

inductive Command
  | status (fromTop : Bool)
  | files (zero : Bool)
  | place (q : PlaceQuestion)
  | names (args : List Text)
  | singleName (quiet : Bool) (arg : Text)
  | shortName (arg : Text)
  | branchName (arg : Text)
  | showObject (style : ReportStyle) (arg : Option Text)
  | listFolder (deep namesOnly : Bool) (arg : Text)
  | objectExists (arg : Text)
  | objectKind (arg : Text)
  | objectText (arg : Text)
  | objectSize (arg : Text)
  | log (style : ReportStyle) (rev : Option Text)
  | listCommits (style : ReportStyle) (rev : Text)
  | countCommits (rev : Text)
  | tags
  | branches
  | branch
  | branchReference
  | isAncestor (old new : Text)
  | mergeBase (a b : Text)
  | diff (style : DiffStyle) (args paths : List Text)
  | checkout (arg : Text)
  | switch (arg : Text)
  | remotes
  | unknown (name : Text)

namespace Command

def readNames (args : List Text) : Command :=
  match args.map String.ofList with
  | ["--show-toplevel"] => place .top
  | ["--show-prefix"] => place .wayDown
  | ["--show-cdup"] => place .wayUp
  | ["--is-inside-work-tree"] => place .inWorkTree
  | ["--is-inside-git-dir"] => place .inStore
  | ["--git-dir"] => place .store
  | ["--abbrev-ref", rev] => branchName rev.toList
  | ["--short", rev] => shortName rev.toList
  | ["--verify", rev] => singleName false rev.toList
  | ["--verify", "--quiet", rev] | ["--quiet", "--verify", rev] | ["--verify", "-q", rev] =>
    singleName true rev.toList
  | _ => names args

def readFolderList (deep namesOnly : Bool) : List Text → Option Command
  | [] => none
  | [arg] => if arg.head? = some '-' then none else some (listFolder deep namesOnly arg)
  | o :: as =>
    if o = "-r".toList then readFolderList true namesOnly as
    else if o = "--name-only".toList then readFolderList deep true as
    else none

def quietly : ReportStyle := { diff := { form := .nothing } }

def readCommitList (args : List Text) : Option Command :=
  match quietly.read none args with
  | some (style, some rev) => some (listCommits style rev)
  | _ => none

def read (name : Text) (args : List Text) : Command :=
  match String.ofList name, args.map String.ofList with
  | "status", ["--porcelain"] => status true
  | "status", ["--short"] | "status", ["-s"] => status false
  | "ls-files", [] => files false
  | "ls-files", ["-z"] => files true
  | "rev-parse", _ => readNames args
  | "show", _ =>
    match ReportStyle.read { diff := {} } none args with
    | some (style, arg) => showObject style arg
    | none => unknown name
  | "ls-tree", _ => (readFolderList false false args).getD (unknown name)
  | "cat-file", ["-e", arg] => objectExists arg.toList
  | "cat-file", ["-t", arg] => objectKind arg.toList
  | "cat-file", ["-p", arg] | "cat-file", ["blob", arg] => objectText arg.toList
  | "cat-file", ["-s", arg] => objectSize arg.toList
  | "log", _ =>
    match quietly.read none args with
    | some (style, rev) => log style rev
    | none => unknown name
  | "rev-list", ["--count", rev] => countCommits rev.toList
  | "rev-list", _ => (readCommitList args).getD (unknown name)
  | "tag", [] | "tag", ["-l"] | "tag", ["--list"] => tags
  | "branch", [] | "branch", ["--list"] => branches
  | "branch", ["--show-current"] | "symbolic-ref", ["--short", "HEAD"] => branch
  | "symbolic-ref", ["HEAD"] => branchReference
  | "merge-base", ["--is-ancestor", a, b] => isAncestor a.toList b.toList
  | "merge-base", [a, b] => mergeBase a.toList b.toList
  | "diff", _ =>
    match DiffStyle.read {} args with
    | some (style, args, paths) => diff style args paths
    | none => unknown name
  | "checkout", [arg] => checkout arg.toList
  | "switch", [arg] => switch arg.toList
  | "remote", [] => remotes
  | _, _ => unknown name

end Command

namespace Checkout

def placeLine (c : Checkout) : PlaceQuestion → Except Complaint Text
  | .inWorkTree => .ok (truth (!c.inStore))
  | .inStore => .ok (truth c.inStore)
  | .store =>
    .ok (if c.here.isEmpty then storeFolder else if c.here = [storeFolder] then ['.']
      else c.workspace.fullPath [storeFolder])
  | .top => if c.inStore then .error .noWorkTree else .ok c.workspace.root
  | .wayDown => .ok (if c.inStore then [] else c.hereFront)
  | .wayUp => .ok (if c.inStore then [] else c.here.flatMap fun _ => "../".toList)
where
  truth (b : Bool) : Text := (if b then "true" else "false").toList

def inWorkTree (c : Checkout) (reply : Except Complaint Reply) : Except Complaint Reply :=
  if c.inStore then .error .noWorkTree else reply

def branchLines (c : Checkout) : List Text :=
  if c.repository.history.isEmpty then [] else ["* ".toList ++ c.repository.branch]

def reply (c : Checkout) : Command → Except Complaint Reply
  | .status fromTop => c.inWorkTree (.ok (.ofLines (c.statusLines fromTop)))
  | .files true => .ok (.ofText (c.stagedHere.flatMap (· ++ ['\x00'])))
  | .files false => .ok (.ofLines (c.stagedHere.map (Path.quoted [])))
  | .place q => (c.placeLine q).map fun t => .ofLines [t]
  | .names args => (args.mapM c.fullName).map .ofLines
  | .singleName quiet arg => c.singleName quiet arg
  | .shortName arg => c.shortName arg
  | .branchName arg => c.branchName arg
  | .showObject style arg => c.showObject style arg
  | .listFolder deep namesOnly arg => c.listFolder deep namesOnly arg
  | .objectExists arg => c.objectExists arg
  | .objectKind arg => c.objectKind arg
  | .objectText arg => c.objectText arg
  | .objectSize arg => c.objectSize arg
  | .log style rev => c.log style rev
  | .listCommits style rev => c.listCommits style rev
  | .countCommits rev => c.countCommits rev
  | .tags => .ok (.ofLines c.repository.tags.names)
  | .branches => .ok (.ofLines c.branchLines)
  | .branch => .ok (.ofLines [c.repository.branch])
  | .branchReference => .ok (.ofLines ["refs/heads/".toList ++ c.repository.branch])
  | .isAncestor old new => c.isAncestor old new
  | .mergeBase a b => c.mergeBase a b
  | .diff style args paths => c.diff style args paths
  | .checkout arg => c.inWorkTree (.error (.noSuchFile arg))
  | .switch arg => c.inWorkTree (.error (.invalidReference arg))
  | .remotes => .ok {}
  | .unknown name => .error (.unknownCommand name)

end Checkout

namespace Project

def replyOutside (p : Project) (here : List Text) : Command → Except Complaint Reply
  | .unknown name => .error (.unknownCommand name)
  | .diff _ [a, b] [] =>
    if p.workspace.isFile here a then .error (.noAccess b) else .error (.noAccess a)
  | _ => .error .notRepository

def reply (p : Project) (place : Option (List Text)) (c : Command) : Except Complaint Reply :=
  match p.checkoutAt place with
  | .ok checkout => checkout.reply c
  | .error _ => p.replyOutside (place.getD []) c

def run (p : Project) (here : List Text) (path : Text) (args : List Text) :
    Except Failure Bytes := do
  let name := args.headD []
  let place ← (p.workspace.folder here path).mapError fun f => .gitNotStarted name f.message
  let reply ← (p.reply place (Command.read name args.tail)).mapError (Checkout.failed name)
  if reply.exitCode = 0 then return reply.output
  .error (.gitFailed name reply.exitCode (Text.trim (Utf8.decodeLossy reply.output)))

end Project
end DiffBudget
