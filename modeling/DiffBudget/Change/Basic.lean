import DiffBudget.Failure
import DiffBudget.Text.Utf8

/-!
# Changed files

A changed file has a name, a kind of edit, a patch that may be empty, and the bytes of both
versions as far as they are known. Only the token count is written back during assembly.
-/
namespace DiffBudget

open Utf8 (Bytes)

inductive EditKind
  | added
  | deleted
  | modified
  | renamed
  deriving DecidableEq, Repr

namespace EditKind

def name : EditKind → Text
  | added => "added".toList
  | deleted => "deleted".toList
  | modified => "modified".toList
  | renamed => "renamed".toList

/-- The kind that a status such as `A`, `M` or `R087` names by its first letter. -/
def ofStatus? (status : Text) : Option EditKind :=
  match status.head? with
  | some 'A' => some added
  | some 'D' => some deleted
  | some 'M' | some 'T' => some modified
  | some 'R' => some renamed
  | _ => none

end EditKind

structure FileChange where
  filename : Text
  kind : EditKind
  oldFilename : Option Text := none
  old : Option Bytes := none
  new : Option Bytes := none
  patch : Text := []
  tokenCount : Option Nat := none
  deriving DecidableEq, Repr

namespace FileChange

def content (f : FileChange) : ContentSide → Option Bytes
  | .old => f.old
  | .new => f.new

def contentText (f : FileChange) (side : ContentSide) : Except FileFault (Option Text) :=
  match f.content side with
  | none => .ok none
  | some bytes =>
    match Utf8.decode? bytes with
    | some t => .ok (some t)
    | none => .error (.notUtf8 f.filename side)

def newIsEmpty (f : FileChange) : Bool := f.new == some []

end FileChange
end DiffBudget
