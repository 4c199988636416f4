import DiffBudget.Change.Basic
import DiffBudget.EditScript.Shortest
import DiffBudget.Patch
import DiffBudget.Text.Blank

/-!
# Finding a quoted line in a patch

A line quoted from a diff is looked up in the patch of its file. The answer is the position of
the line in the patch and its number in the new file. Removed lines and remarks never match. A
quote that is close to exactly one line of the patch, an added one, stands for that line.
-/
namespace DiffBudget

structure Location where
  /-- The place of the line in the patch, counted from 0. -/
  position : Nat
  /-- The line's number in the new file, counted from 1. -/
  line : Nat
  deriving DecidableEq, Repr

namespace Location

/-- Whether two texts share at least 0.93 of their characters: twice the number of characters in
common over the sum of the lengths, where both this ratio and 0.93 are rounded to single
precision. The least ratio that rounds up so far lies above 31205621 / 33554432. -/
def isClose (a b : Text) : Bool :=
  let total := a.length + b.length
  let common := EditScript.kept (EditScript.shortest a.toArray b.toArray)
  total == 0 || 31205621 * total < 67108864 * common

/-- The line of the patch that the quote stands for, when it is close to one alone. -/
def snap? (close : Text → Text → Bool) (patch : List Text) (quote : Text) : Option Text :=
  match patch.filter (close quote) with
  | [line] => if line.head? = some '+' then some line else none
  | _ => none

/-- The first line from here on that holds the quote. `next` is the number of the next line of
the new file. -/
def searchFrom (quote : Text) (position next : Nat) : List Text → Option Location
  | [] => none
  | line :: ls =>
    if Hunk.isHeaderLine line then
      match Hunk.Header.read? line with
      | none => none
      | some h => searchFrom quote (position + 1) h.newStart ls
    else if line.head? = some '-' ∨ Hunk.isRemark line then
      searchFrom quote (position + 1) next ls
    else if quote.occursIn line then some ⟨position, next⟩
    else searchFrom quote (position + 1) (next + 1) ls

def search (patch : List Text) (quote : Text) : Option Location := searchFrom quote 0 0 patch

def bare? (quote : Text) : Option Text :=
  match quote with
  | '+' :: t => if (Text.trimStart t).isEmpty then none else some (Text.trimStart t)
  | _ => none

/-- Where a patch holds the quote, or else the quote without its plus sign. -/
def inPatch (close : Text → Text → Bool) (patch : List Text) (quote : Text) : Option Location :=
  if quote.isEmpty then none
  else
    let quote := (snap? close patch quote).getD quote
    (search patch quote).or ((bare? quote).bind (search patch))

def findBy? (close : Text → Text → Bool) (files : List FileChange) (filename quote : Text) :
    Option Location :=
  (files.find? fun f => f.filename.trim == filename).bind fun f =>
    inPatch close f.patch.lines quote

def find? (files : List FileChange) (filename quote : Text) : Option Location :=
  findBy? isClose files filename quote

end Location
end DiffBudget
