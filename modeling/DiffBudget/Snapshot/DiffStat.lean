import DiffBudget.LineDiff.Hunk
import DiffBudget.Snapshot.NameStatus
import DiffBudget.Sum

/-!
# Counts of changed lines

How many lines every difference adds and takes away, told for a program, for a reader with a small
chart, or as one sum. Of files that are not text the bytes are counted, on both sides.
-/
namespace DiffBudget

open Utf8 (Bytes)

namespace Path

/-- The number of characters up to the last slash that both paths have at the same place, with
nothing different in front of it. -/
def sharedFront (a b : Text) : Nat :=
  let common := ((a.zip b).takeWhile fun p => p.1 == p.2).map (·.1)
  (common.reverse.dropWhile (! isSlash ·)).length

def sharedEnd (a b : Text) : Text :=
  let common := ((a.reverse.zip b.reverse).takeWhile fun p => p.1 == p.2).map (·.1)
  common.reverse.dropWhile (! isSlash ·)

def arrow : Text := " => ".toList

/-- Both paths of a rename, with what they share written once. -/
def renamed (a b : Text) : Text :=
  if quoted [] a != a || quoted [] b != b then quoted [] a ++ arrow ++ quoted [] b
  else
    let front := sharedFront a b
    let back := sharedEnd (a.drop (front - 1)) (b.drop (front - 1))
    let middle (p : Text) := (p.drop front).take (p.length - front - back.length)
    if front = 0 && back.isEmpty then a ++ arrow ++ b
    else
      a.take front ++ '\x7b' :: middle a ++ arrow ++ middle b ++ '\x7d' :: back

end Path

structure FileStat where
  /-- The paths before and after, if they differ, or the one path. -/
  paths : List Text
  isBinary : Bool
  added : Nat
  deleted : Nat
  deriving DecidableEq, Repr

namespace Delta

def old? : Delta → Option Entry
  | added .. => none
  | deleted _ old | changed _ old _ | renamed _ _ old _ _ => some old

def new? : Delta → Option Entry
  | deleted .. => none
  | added _ new | changed _ _ new | renamed _ _ _ new _ => some new

def stat (d : Delta) : FileStat :=
  let old := (d.old?.map Entry.content).getD []
  let new := (d.new?.map Entry.content).getD []
  if Similarity.isBinary old || Similarity.isBinary new then
    let same := old == new
    ⟨d.listedPaths, true, if same then 0 else new.length, if same then 0 else old.length⟩
  else
    let changes := LineDiff.changes (LineDiff.splitLines old).toArray
      (LineDiff.splitLines new).toArray
    ⟨d.listedPaths, false, sumOf (·.newCount) changes, sumOf (·.oldCount) changes⟩

end Delta

namespace FileStat

def name (s : FileStat) : Text :=
  match s.paths with
  | [a, b] => Path.renamed a b
  | ps => ps.flatMap (Path.quoted [])

def total (s : FileStat) : Nat := if s.isBinary then 0 else s.added + s.deleted

/-! ## For a program -/

def countFields (s : FileStat) : Text :=
  let number (n : Nat) : Text := if s.isBinary then ['-'] else Text.ofNat n
  number s.added ++ '\t' :: number s.deleted ++ ['\t']

def countLine (s : FileStat) : Text := s.countFields ++ s.name ++ ['\n']

def countRecord (s : FileStat) : Text :=
  s.countFields ++ (if s.paths.length = 2 then ['\x00'] else []) ++
    s.paths.flatMap (· ++ ['\x00'])

/-! ## The sum -/

def counted (n : Nat) (unit : String) (sign : String) : Text :=
  ", ".toList ++ Text.ofNat n ++ ' ' :: unit.toList ++ (if n = 1 then [] else ['s']) ++
    sign.toList

/-- The number of files, and of the lines that were added and taken away. A number that is zero is
left out if the other one is not. -/
def summary (ss : List FileStat) : Text :=
  let texts := ss.filter (!·.isBinary)
  let added := sumOf (·.added) texts
  let deleted := sumOf (·.deleted) texts
  ' ' :: Text.ofNat ss.length ++ " file".toList ++ (if ss.length = 1 then [] else ['s']) ++
    " changed".toList ++
    (if added = 0 && deleted != 0 then [] else counted added "insertion" "(+)") ++
    (if deleted = 0 && added != 0 then [] else counted deleted "deletion" "(-)") ++ ['\n']

/-! ## The chart -/

def pageWidth : Nat := 80

structure Columns where
  name : Nat
  number : Nat
  bar : Nat
  most : Nat

def maximum (ns : List Nat) : Nat := ns.foldl max 0

def digitCount (n : Nat) : Nat := (Text.ofNat n).length

/-- The columns that the files take, made narrower when they do not fit the page. -/
def columns (ss : List FileStat) : Columns :=
  let most := maximum (ss.map total)
  let longest := maximum (ss.map (·.name.length))
  let binaries := ss.filter (·.isBinary)
  let binaryWidth :=
    maximum (binaries.map fun s => 14 + digitCount s.added + digitCount s.deleted)
  let number := max (digitCount most) (if binaries.isEmpty then 0 else 3)
  let wanted := if most + 4 > binaryWidth then most else binaryWidth - 4
  if longest + number + 6 + wanted ≤ pageWidth then ⟨longest, number, wanted, most⟩
  else
    let bar := min wanted (max 6 (pageWidth * 3 / 8 - number - 6))
    if longest > pageWidth - number - 6 - bar then
      ⟨pageWidth - number - 6 - bar, number, bar, most⟩
    else ⟨longest, number, pageWidth - number - 6 - longest, most⟩

/-- A number of lines as a length of a bar; not zero unless the number is. -/
def scaled (c : Columns) (n : Nat) : Nat :=
  if n = 0 then 0 else 1 + n * (c.bar - 1) / c.most

def barParts (c : Columns) (s : FileStat) : Nat × Nat :=
  if c.most < c.bar then (s.added, s.deleted)
  else
    let both := scaled c (s.added + s.deleted)
    let both := if both < 2 && s.added != 0 && s.deleted != 0 then 2 else both
    if s.added < s.deleted then (scaled c s.added, both - scaled c s.added)
    else (both - scaled c s.deleted, scaled c s.deleted)

def fittedName (width : Nat) (name : Text) : Text :=
  if name.length ≤ width then name
  else
    let rest := name.drop (name.length - (width - 3))
    "...".toList ++ (if rest.contains '/' then rest.dropWhile (! Path.isSlash ·) else rest)

def padStart (width : Nat) (t : Text) : Text := List.replicate (width - t.length) ' ' ++ t

def padEnd (width : Nat) (t : Text) : Text := t ++ List.replicate (width - t.length) ' '

def chartLine (c : Columns) (s : FileStat) : Text :=
  let front := ' ' :: padEnd c.name (fittedName c.name s.name) ++ " | ".toList
  if s.isBinary then
    front ++ padStart c.number "Bin".toList ++
      (if s.added = 0 && s.deleted = 0 then []
        else ' ' :: Text.ofNat s.deleted ++ " -> ".toList ++ Text.ofNat s.added ++
          " bytes".toList)
  else
    let (plus, minus) := barParts c s
    front ++ padStart c.number (Text.ofNat s.total) ++ (if s.total = 0 then [] else [' ']) ++
      List.replicate plus '+' ++ List.replicate minus '-'

def chart (ss : List FileStat) : Text :=
  if ss.isEmpty then []
  else Text.unlines (ss.map (chartLine (columns ss))) ++ summary ss

end FileStat
end DiffBudget
