import DiffBudget.Change.Basic

/-!
# Reading a list of changed paths

The list holds fields with a zero character between them: for every changed path its status and
the path, and for a rename or a copy the path before as well. A path whose status names no kind of
edit is passed over with all its fields.
-/
namespace DiffBudget

structure PathChange where
  kind : EditKind
  oldPath : Option Text
  path : Text
  deriving DecidableEq, Repr

namespace PathChange

def hasTwoPaths (status : Text) : Bool :=
  status.head? == some 'R' || status.head? == some 'C'

def ofFields? (status first : Text) (second : Option Text) : Option PathChange := do
  let kind ← EditKind.ofStatus? status
  match kind, second with
  | .renamed, some path => return ⟨kind, some first, path⟩
  | _, _ => return ⟨kind, none, first⟩

def ofFields : List Text → List PathChange
  | status :: first :: rest =>
    if hasTwoPaths status then
      match rest with
      | second :: rest => (ofFields? status first (some second)).toList ++ ofFields rest
      | [] => (ofFields? status first none).toList
    else (ofFields? status first none).toList ++ ofFields rest
  | _ => []

/-- The changed paths of a list; empty fields do not count. -/
def read (list : Text) : List PathChange :=
  ofFields ((Text.cutAt (· == '\x00') list).filter (!·.isEmpty))

end PathChange
end DiffBudget
