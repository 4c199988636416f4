import DiffBudget.Text.Utf8

/-!
# Where a change reads best

A change that may be moved is put where the lines around its two ends make the best reading: next
to blank lines, and where the indentation goes back. Every place gets a score from its two ends;
a smaller one is better, and the indentation counts before all else.
-/
namespace DiffBudget.LineDiff

open Utf8 (Bytes)

def isSpaceByte (b : UInt8) : Bool := b == 32 || (9 ≤ b && b ≤ 13 && b != 11 && b != 12)

def maxIndent : Nat := 200

/-- The column of the first byte of a line that is no white space; nothing for a blank line. Tabs
go to the next multiple of eight. -/
def indentOf (column : Nat) : Bytes → Option Nat
  | [] => none
  | b :: t =>
    if !isSpaceByte b then some column
    else
      let column :=
        if b == 32 then column + 1 else if b == 9 then column + 8 - column % 8 else column
      if maxIndent ≤ column then some maxIndent else indentOf column t

def maxBlanks : Nat := 20

/-- The blank lines in front of a list of lines, and the indentation of the line behind them. Of
more than `maxBlanks` no more are looked at, and the indentation is taken for none. -/
def blanks (count : Nat) : List Bytes → Nat × Option Nat
  | [] => (count, none)
  | l :: ls =>
    match indentOf 0 l with
    | some n => (count, some n)
    | none => if count + 1 == maxBlanks then (maxBlanks, some 0) else blanks (count + 1) ls

structure Surroundings where
  atEnd : Bool
  indent : Option Nat
  blanksBefore : Nat
  indentBefore : Option Nat
  blanksAfter : Nat
  indentAfter : Option Nat

namespace Surroundings

def of (before after : List Bytes) : Surroundings :=
  let b := blanks 0 before
  let a := blanks 0 (after.drop 1)
  { atEnd := after.isEmpty
    indent := after.head?.bind (indentOf 0)
    blanksBefore := b.1
    indentBefore := b.2
    blanksAfter := a.1
    indentAfter := a.2 }

end Surroundings

/-- A score: the indentation of both ends of a change, with a blank end of the file as -1, and
what is held against the place. -/
structure Score where
  indent : Int := 0
  penalty : Int := 0

namespace Score

def add (s : Score) (m : Surroundings) : Score :=
  let blanksBehind := if m.indent.isNone then 1 + m.blanksAfter else 0
  let allBlanks := m.blanksBefore + blanksBehind
  let atStart : Int := if m.indentBefore.isNone && m.blanksBefore == 0 then 1 else 0
  let atEnd : Int := if m.atEnd then 21 else 0
  let nearBlanks : Int := -30 * (allBlanks : Int) + 6 * (blanksBehind : Int)
  let indent := m.indent.or m.indentAfter
  let choose (plain nextToBlanks : Int) : Int := if allBlanks == 0 then plain else nextToBlanks
  let turn : Int := match indent, m.indentBefore with
    | some i, some b =>
      if b < i then choose (-4) 10
      else if i = b then 0
      else if m.indentAfter.any (i < ·) then choose 24 17
      else choose 23 17
    | _, _ => 0
  { indent := s.indent + (match indent with
      | some i => (i : Int)
      | none => -1)
    penalty := s.penalty + atStart + atEnd + nearBlanks + turn }

def isBetterOrEqual (s t : Score) : Bool :=
  60 * (s.indent - t.indent).sign + (s.penalty - t.penalty) ≤ 0

end Score

end DiffBudget.LineDiff
