import DiffBudget.Snapshot.Delta
import DiffBudget.Snapshot.Similarity

/-!
# Renames

Each added path looks for the deleted path that it may have been before. Equal entries are joined
first, then files whose names occur once on either side and that are very similar, and at last the
most similar of all files that are left. No path is used twice.
-/
namespace DiffBudget.Rename

open Similarity (Sample)

structure Place where
  path : Text
  entry : Entry
  sample : Option Sample

def Place.ofEntry (path : Text) (entry : Entry) : Place := ⟨path, entry, Sample.ofEntry? entry⟩

def Place.basename (p : Place) : Text := Path.basename p.path

structure Match where
  source : Place
  target : Place
  score : Nat

def leastScore : Nat := Similarity.maxScore / 2

def leastNamedScore : Nat := leastScore + (Similarity.maxScore - leastScore) / 2

def score (least : Nat) (source target : Place) : Nat :=
  match source.sample, target.sample with
  | some s, some t => Similarity.score least s t
  | _, _ => 0

def freeSources (sources : List Place) (found : List Match) : List Place :=
  sources.filter fun s => !found.any (·.source.path == s.path)

def freeTargets (targets : List Place) (found : List Match) : List Place :=
  targets.filter fun t => !found.any (·.target.path == t.path)

/-! ## Equal entries -/

/-- Files may differ in their modes; other entries have to agree in them. -/
def isEqual (source target : Entry) : Bool :=
  source.sameContent target &&
    ((source.isFile && target.isFile) || source.mode == target.mode)

def maxEqualSources : Nat := 100

/-- Of the equal sources that are free, the first with the name of the target, or the first. -/
def equalSource? (sources : List Place) (target : Place) : Option Place :=
  let equal := (sources.filter fun s => isEqual s.entry target.entry).take maxEqualSources
  (equal.find? fun s => s.basename == target.basename) <|> equal.head?

def matchEqual (sources : List Place) (found : List Match) : List Place → List Match
  | [] => found
  | t :: ts =>
    match equalSource? (freeSources sources found) t with
    | some s => matchEqual sources (found ++ [⟨s, t, Similarity.maxScore⟩]) ts
    | none => matchEqual sources found ts

/-! ## Equal names -/

def onlyNamed? (ps : List Place) (name : Text) : Option Place :=
  match ps.filter (·.basename == name) with
  | [p] => some p
  | _ => none

def namedMatch? (sources targets : List Place) (source : Place) : Option Match := do
  let s ← onlyNamed? sources source.basename
  let t ← onlyNamed? targets source.basename
  let n := score leastNamedScore s t
  if leastNamedScore ≤ n then some ⟨s, t, n⟩ else none

def matchNamed (sources targets : List Place) : List Match :=
  sources.filterMap (namedMatch? sources targets)

/-! ## The most similar files -/

structure Candidate where
  source : Place
  target : Place
  score : Nat
  sameName : Bool

/-- The better of two candidates has the higher score, or the same score and the same name. -/
def Candidate.isBetter (a b : Candidate) : Bool :=
  b.score < a.score || (a.score == b.score && a.sameName && !b.sameName)

def Candidate.of (source target : Place) : Candidate :=
  ⟨source, target, Rename.score leastScore source target, source.basename == target.basename⟩

def maxCandidates : Nat := 4

def worst? : List Candidate → Option Candidate
  | [] => none
  | c :: cs => some (cs.foldl (fun w c => if w.isBetter c then c else w) c)

def keep (kept : List Candidate) (c : Candidate) : List Candidate :=
  if kept.length < maxCandidates then kept ++ [c]
  else
    match worst? kept with
    | some w =>
      if c.isBetter w then
        kept.map fun k => if k.source.path == w.source.path then c else k
      else kept
    | none => kept

def candidates (sources : List Place) (target : Place) : List Candidate :=
  sources.foldl (fun kept s => keep kept (.of s target)) []

/-- The candidates joined from the best one on, as far as both paths are free. -/
def joinBest (found : List Match) : List Candidate → List Match
  | [] => found
  | c :: cs =>
    if found.any fun m => m.source.path == c.source.path || m.target.path == c.target.path then
      joinBest found cs
    else joinBest (found ++ [⟨c.source, c.target, c.score⟩]) cs

def maxPairs : Nat := 1000 * 1000

def matchSimilar (sources targets : List Place) : List Match :=
  if maxPairs < sources.length * targets.length then []
  else
    let ranked := (targets.flatMap (candidates sources)).mergeSort fun a b => !b.isBetter a
    joinBest [] (ranked.takeWhile (leastScore ≤ ·.score))

/-! ## Renames among differences -/

def findMatches (sources targets : List Place) : List Match :=
  let equal := matchEqual sources [] targets
  let sources := freeSources sources equal
  let targets := freeTargets targets equal
  let named := matchNamed sources targets
  equal ++ named ++ matchSimilar (freeSources sources named) (freeTargets targets named)

def sources (ds : List Delta) : List Place :=
  ds.filterMap fun
    | .deleted path old => some (.ofEntry path old)
    | _ => none

def targets (ds : List Delta) : List Place :=
  ds.filterMap fun
    | .added path new => some (.ofEntry path new)
    | _ => none

/-- A difference under the given matches: a path that became another one is left out, and the
other one tells of it. -/
def joined (found : List Match) : Delta → Option Delta
  | .deleted path old =>
    if found.any (·.source.path == path) then none else some (.deleted path old)
  | .added path new =>
    match found.find? (·.target.path == path) with
    | some m => some (.renamed m.source.path path m.source.entry new m.score)
    | none => some (.added path new)
  | d => some d

def detect (ds : List Delta) : List Delta :=
  ds.filterMap (joined (findMatches (sources ds) (targets ds)))

end DiffBudget.Rename
