import DiffBudget.Repository.Difference

/-!
# Projects

A project is a workspace that may have a repository at its top. Questions come from a folder; they
fail when the folder cannot be entered, and most of them when it is not part of a repository.
-/
namespace DiffBudget

structure Project where
  workspace : Workspace
  repository : Option Repository := none

namespace Project

def checkoutAt (p : Project) (place : Option (List Text)) : Except Complaint Checkout :=
  match p.repository, place with
  | some repository, some here => .ok ⟨p.workspace, repository, here⟩
  | _, _ => .error .notRepository

def root (p : Project) (here : List Text) (path : Text) : Except Failure Text := do
  let place ← (p.workspace.folder here path).mapError fun f => .gitMissing f.message
  match p.checkoutAt place with
  | .ok c => if c.inStore then .error (.outsideRepository path) else return p.workspace.root
  | .error _ => .error (.outsideRepository path)

def verify (p : Project) (here : List Text) (path rev : Text) : Except Failure Unit :=
  match p.workspace.folder here path with
  | .error _ => .error (.unknownRevision rev)
  | .ok place =>
    match p.checkoutAt place with
    | .error _ => .error (.unknownRevision rev)
    | .ok c => c.verify rev

def collect (p : Project) (here : List Text) (path base head : Text) :
    Except Failure (List FileChange) := do
  p.verify here path base
  p.verify here path head
  let place ← (p.workspace.folder here path).mapError fun f =>
    .gitNotStarted "diff".toList f.message
  let c ← (p.checkoutAt place).mapError (Checkout.failed "diff".toList)
  c.collect base head

end Project
end DiffBudget
