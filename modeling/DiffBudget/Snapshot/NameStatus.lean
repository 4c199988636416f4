import DiffBudget.Snapshot.Quoted
import DiffBudget.Snapshot.Rename

/-!
# Lists of changed paths

A changed path is listed with the letter of its change and, for a rename, the similarity in
percent and the path before. The list is made for a program, with a zero character after every
field, or for a reader, in lines.
-/
namespace DiffBudget

namespace Delta

def percent (score : Nat) : Nat := score * 100 / Similarity.maxScore

def percentText (score : Nat) : Text :=
  let t := Text.ofNat (percent score)
  List.replicate (3 - t.length) '0' ++ t

def status : Delta → Text
  | added .. => ['A']
  | deleted .. => ['D']
  | changed _ old new => if old.sameSort new then ['M'] else ['T']
  | renamed _ _ _ _ score => 'R' :: percentText score

def listedPaths : Delta → List Text
  | renamed oldPath path _ _ _ => [oldPath, path]
  | d => [d.path]

def fields (d : Delta) : List Text := d.status :: d.listedPaths

def nameStatus (ds : List Delta) : Text :=
  (ds.flatMap fields).flatMap (· ++ ['\x00'])

def nameStatusLines (ds : List Delta) : Text :=
  Text.unlines (ds.map fun d =>
    ['\t'].intercalate (d.status :: d.listedPaths.map (Path.quoted [])))

end Delta
end DiffBudget
