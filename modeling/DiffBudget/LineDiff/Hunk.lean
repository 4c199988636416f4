import DiffBudget.LineDiff.Settle
import DiffBudget.Text.Number

/-!
# Printed hunks

Changes with few lines between them share a hunk, and every hunk shows some lines of context. Its
header names the last line in front of the hunk that starts with a letter: most likely the head
of the function that the hunk is in.
-/
namespace DiffBudget.LineDiff

open Utf8 (Bytes)

def contextSize : Nat := 3

/-- The changes of hunks: neighbours stay together when their contexts touch. -/
def groupChanges : List Change → List (List Change)
  | [] => []
  | c :: cs =>
    match cs, groupChanges cs with
    | d :: _, g :: gs =>
      if d.oldStart ≤ c.oldEnd + 2 * contextSize then (c :: g) :: gs else [c] :: g :: gs
    | _, gs => [c] :: gs

/-! ## Heads of functions -/

def isHeadByte (b : UInt8) : Bool :=
  (65 ≤ b && b ≤ 90) || (97 ≤ b && b ≤ 122) || b == 95 || b == 36

def maxHeadSize : Nat := 80

/-- A line as the head of a function, cut to the length that a header has room for. -/
def head? (line : Bytes) : Option Bytes :=
  match line with
  | [] => none
  | b :: _ =>
    if isHeadByte b then
      some ((line.take maxHeadSize).reverse.dropWhile isSpaceByte).reverse
    else none

def headBefore (old : Array Bytes) (n : Nat) : Option Bytes :=
  (old.toList.take n).reverse.findSome? head?

/-! ## Printing -/

def encodeAscii (t : Text) : Bytes := Utf8.encode t

def rangeText (start count : Nat) : Text :=
  Text.ofNat (if count = 0 then start else start + 1) ++
    (if count = 1 then [] else ',' :: Text.ofNat count)

def noNewlineMark : Bytes := encodeAscii "\n\\ No newline at end of file\n".toList

def printLine (mark : UInt8) (line : Bytes) : Bytes :=
  mark :: line ++ (if line.getLast? == some 10 then [] else noNewlineMark)

def printRange (mark : UInt8) (lines : Array Bytes) (first last : Nat) : Bytes :=
  (lines.toList.drop first |>.take (last - first)).flatMap (printLine mark)

/-- The changes of a hunk and the common lines between them; the common lines start at `at_` in
the new version. -/
def printChanges (old new : Array Bytes) (at_ : Nat) : List Change → Bytes
  | [] => []
  | c :: cs =>
    printRange 32 new at_ c.newStart ++ printRange 45 old c.oldStart c.oldEnd ++
      printRange 43 new c.newStart c.newEnd ++ printChanges old new c.newEnd cs

def printHunk (old new : Array Bytes) (first last : Change) (cs : List Change) : Bytes :=
  let oldStart := first.oldStart - contextSize
  let newStart := first.newStart - contextSize
  let below := min contextSize (min (old.size - last.oldEnd) (new.size - last.newEnd))
  let header := "@@ -".toList ++ rangeText oldStart (last.oldEnd + below - oldStart) ++
    " +".toList ++ rangeText newStart (last.newEnd + below - newStart) ++ " @@".toList
  let head := match headBefore old oldStart with
    | some head => if head.isEmpty then [] else 32 :: head
    | none => []
  encodeAscii header ++ head ++ 10 :: printChanges old new newStart cs ++
    printRange 32 new last.newEnd (last.newEnd + below)

def printGroup (old new : Array Bytes) (cs : List Change) : Bytes :=
  match cs.head?, cs.getLast? with
  | some first, some last => printHunk old new first last cs
  | _, _ => []

def splitLines : Bytes → List Bytes
  | [] => []
  | b :: t =>
    if b == 10 then [b] :: splitLines t
    else
      match splitLines t with
      | [] => [[b]]
      | l :: ls => (b :: l) :: ls

def changes (old new : Array Bytes) : List Change :=
  Change.ofGaps 0 0
    (settle old new (Gap.between 0 0 old.size new.size (matchLines old new)))

def hunks (old new : Bytes) : Bytes :=
  let old := (splitLines old).toArray
  let new := (splitLines new).toArray
  (groupChanges (changes old new)).flatMap (printGroup old new)

theorem flatten_splitLines (bytes : Bytes) : (splitLines bytes).flatten = bytes := by
  induction bytes with
  | nil => rfl
  | cons b t ih =>
    unfold splitLines
    split
    · simp [ih]
    · revert ih
      cases splitLines t with
      | nil => intro ih; simp [← ih]
      | cons l ls => intro ih; simp [← ih]

end DiffBudget.LineDiff
