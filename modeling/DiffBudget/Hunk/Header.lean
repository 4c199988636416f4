import DiffBudget.Failure
import DiffBudget.Hunk.Basic

/-!
# Hunk headers

A header is the line `@@ -a,b +c,d @@ comment`. An absent count is 1; an absent new start is 0,
and then an absent new count is 0 too. The comment is what follows the closing marks, without
one leading space. The reader takes the line from left to right, one part of the header at a
time, and each part hands on the rest of the line.
-/
namespace DiffBudget.Hunk

structure Header where
  oldStart : Nat
  oldCount : Nat
  newStart : Nat
  newCount : Nat
  comment : Text
  deriving DecidableEq, Repr

namespace Header

def digits? (t : Text) : Option (Nat × Text) :=
  (Text.number? (t.takeWhile Text.isDigit)).map (·, t.dropWhile Text.isDigit)

def start (t : Text) : Option (Option Nat × Text) :=
  if t.head?.any Text.isDigit then (digits? t).map fun p => (some p.1, p.2)
  else some (none, t)

def count (t : Text) : Option (Option Nat × Text) :=
  match t with
  | ',' :: r => (digits? r).map fun p => (some p.1, p.2)
  | _ => some (none, t)

def commentOf : Text → Text
  | ' ' :: r => r
  | r => r

def read? (line : Text) : Option Header := do
  if '\n' ∈ line then none
  let t ← "@@ -".toList.isPrefixOf? line
  let (oldStart, t) ← digits? t
  let (oldCount, t) ← count t
  let t ← " +".toList.isPrefixOf? t
  let (newStart, t) ← start t
  let (newCount, t) ← count t
  let t ← " @@".toList.isPrefixOf? t
  return {
    oldStart
    oldCount := oldCount.getD 1
    newStart := newStart.getD 0
    newCount := newCount.getD (if newStart.isSome then 1 else 0)
    comment := commentOf t }

def parse (line : Text) : Except FileFault Header :=
  match read? line with
  | some h => .ok h
  | none => .error (.malformedHeader line)

def format (h : Header) : Text :=
  "@@ -".toList ++ Text.ofNat h.oldStart ++ ',' :: Text.ofNat h.oldCount ++ " +".toList ++
    Text.ofNat h.newStart ++ ',' :: Text.ofNat h.newCount ++ " @@".toList ++
    (if h.comment.isEmpty then [] else ' ' :: h.comment)

theorem parse_eq_ok {line : Text} {h : Header} : parse line = .ok h ↔ read? line = some h := by
  unfold parse; cases read? line <;> simp

end Header

def headerFields (h : Hunk) : Header :=
  ⟨h.oldStart, h.oldCount, h.newStart, h.newCount, h.comment⟩

def formattedHeader (h : Hunk) : Text := h.headerFields.format

/-- The header line: as written for a hunk that was read, formatted otherwise. -/
def header (h : Hunk) : Text := h.written.getD h.formattedHeader

end DiffBudget.Hunk
