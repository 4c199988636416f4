import DiffBudget.Snapshot.Basic
import DiffBudget.Sum

/-!
# Similar files

A file is cut into pieces: its lines, and runs of 64 bytes where a line is longer. Two files are as
similar as the share of the larger one that is made of pieces which both have. Pieces are told
apart by a key only, and what stands behind the last line feed in a piece that is not full does
not count.
-/
namespace DiffBudget.Similarity

open Utf8 (Bytes)

/-- Similarities are told in parts of this number. -/
def maxScore : Nat := 60000

/-- The bytes of a piece so far, folded into two words. -/
structure Roll where
  first : UInt32 := 0
  second : UInt32 := 0
  size : Nat := 0

def Roll.push (r : Roll) (b : UInt8) : Roll :=
  { first := ((r.first <<< 7) ^^^ (r.second >>> 25)) + b.toUInt32
    second := (r.second <<< 7) ^^^ (r.first >>> 25)
    size := r.size + 1 }

def Roll.key (r : Roll) : Nat := ((r.first + r.second * 0x61) % 107927).toNat

def maxPieceSize : Nat := 64

/-- The key and the size of each piece. In a text, a carriage return in front of a line feed is
passed over. -/
def pieces (isText : Bool) (r : Roll) : Bytes → List (Nat × Nat)
  | [] => []
  | b :: t =>
    if isText && b == 13 && t.head? == some 10 then pieces isText r t
    else
      let r := r.push b
      if r.size < maxPieceSize && b != 10 then pieces isText r t
      else (r.key, r.size) :: pieces isText {} t

def sumRuns : List (Nat × Nat) → List (Nat × Nat)
  | [] => []
  | p :: ps =>
    match sumRuns ps with
    | [] => [p]
    | q :: qs => if q.1 = p.1 then (p.1, p.2 + q.2) :: qs else p :: q :: qs

/-- Whether bytes are taken for something other than text: a zero byte stands near the start. -/
def isBinary (content : Bytes) : Bool := (content.take 8000).contains 0

def profile (content : Bytes) : List (Nat × Nat) :=
  sumRuns ((pieces (!isBinary content) {} content).mergeSort fun p q => p.1 ≤ q.1)

def commonSize : List (Nat × Nat) → List (Nat × Nat) → Nat
  | [], _ => 0
  | _, [] => 0
  | p :: ps, q :: qs =>
    if p.1 < q.1 then commonSize ps (q :: qs)
    else if q.1 < p.1 then commonSize (p :: ps) qs
    else min p.2 q.2 + commonSize ps qs

structure Sample where
  size : Nat
  profile : List (Nat × Nat)

def Sample.ofEntry? : Entry → Option Sample
  | .file _ content => some ⟨content.length, Similarity.profile content⟩
  | _ => none

/-- The similarity of two files; none when their sizes alone keep it below the least one of
interest. -/
def score (least : Nat) (old new : Sample) : Nat :=
  let larger := max old.size new.size
  let growth := larger - min old.size new.size
  if larger * (maxScore - least) < growth * maxScore then 0
  else if new.size = 0 then 0
  else commonSize old.profile new.profile * maxScore / larger

theorem commonSize_le (ps qs : List (Nat × Nat)) :
    commonSize ps qs ≤ sumOf (·.2) ps ∧ commonSize ps qs ≤ sumOf (·.2) qs := by
  fun_induction commonSize ps qs with
  | case1 | case2 => simp
  | case3 p ps q qs _ ih | case4 p ps q qs _ _ ih | case5 p ps q qs _ _ ih =>
    simp only [sumOf_cons] at ih ⊢
    omega

end DiffBudget.Similarity
