import DiffBudget.LineDiff.Gap
import DiffBudget.LineDiff.Indentation

/-!
# Settling the changes

Changes of one version are moved up and down over equal lines. Changes that meet become one. In
the end a change stands against a change of the other version if it can; otherwise where it reads
best.
-/
namespace DiffBudget.LineDiff

open Utf8 (Bytes)

/-- A row of gaps looked at from one of them: the gaps before it, nearest first, and those behind
it. `start` is the first old line of the gap; in an empty gap, the line behind it. -/
structure Slider where
  start : Nat
  before : List Gap
  gap : Gap
  after : List Gap
  deriving Repr

namespace Slider

def lastLine (s : Slider) : Nat := s.start + s.gap.old

def up? (lines : Array Bytes) (s : Slider) : Option Slider :=
  match s.before with
  | [] => none
  | g :: before =>
    if s.gap.old ≠ 0 ∧ lines[s.start - 1]? = lines[s.lastLine - 1]? then
      some ⟨s.start - 1 - g.old, before, ⟨g.old + s.gap.old, g.new⟩, ⟨0, s.gap.new⟩ :: s.after⟩
    else none

def down? (lines : Array Bytes) (s : Slider) : Option Slider :=
  match s.after with
  | [] => none
  | g :: after =>
    if s.gap.old ≠ 0 ∧ lines[s.start]? = lines[s.lastLine]? then
      some ⟨s.start + 1, ⟨0, s.gap.new⟩ :: s.before, ⟨s.gap.old + g.old, g.new⟩, after⟩
    else none

def top (lines : Array Bytes) : Nat → Slider → Slider
  | 0, s => s
  | n + 1, s =>
    match s.up? lines with
    | some s => top lines n s
    | none => s

/-- Moved down as far as possible, and whether it stood against new lines on the way. -/
def bottom (lines : Array Bytes) : Nat → Bool → Slider → Slider × Bool
  | 0, met, s => (s, met)
  | n + 1, met, s =>
    let met := met || s.gap.new != 0
    match s.down? lines with
    | some s => bottom lines n met s
    | none => (s, met)

structure Range where
  slider : Slider
  firstEnd : Nat
  meets : Bool

/-- The whole range of a change: it is moved up and down until it grows no more. -/
def range (lines : Array Bytes) (steps : Nat) : Nat → Slider → Range
  | 0, s => ⟨s, s.lastLine, false⟩
  | n + 1, s =>
    let highest := top lines steps s
    let (lowest, meets) := bottom lines (steps + 1) false highest
    if lowest.gap.old = s.gap.old then ⟨lowest, highest.lastLine, meets⟩
    else range lines steps n lowest

def upToNew (lines : Array Bytes) : Nat → Slider → Slider
  | 0, s => s
  | n + 1, s =>
    if s.gap.new ≠ 0 then s
    else
      match s.up? lines with
      | some s => upToNew lines n s
      | none => s

def upToEnd (lines : Array Bytes) (last : Nat) : Nat → Slider → Slider
  | 0, s => s
  | n + 1, s =>
    if s.lastLine ≤ last then s
    else
      match s.up? lines with
      | some s => upToEnd lines last n s
      | none => s

def maxPlaces : Nat := 100

def surroundings (lines : Array Bytes) (at_ : Nat) : Surroundings :=
  .of (lines.toList.take at_).reverse (lines.toList.drop at_)

def score (lines : Array Bytes) (size last : Nat) : Score :=
  (({} : Score).add (surroundings lines last)).add (surroundings lines (last - size))

/-- The end at which the change reads best, the last one of equals. -/
def bestEnd (lines : Array Bytes) (size first last : Nat) : Nat :=
  let ends := (List.range (last + 1 - first)).map (· + first)
  let best := ends.foldl (fun (best : Option (Nat × Score)) e =>
    let s := score lines size e
    match best with
    | some b => if s.isBetterOrEqual b.2 then some (e, s) else best
    | none => some (e, s)) none
  (best.map (·.1)).getD last

def settle (lines : Array Bytes) (s : Slider) : Slider :=
  if s.gap.old = 0 then s
  else
    let steps := lines.size + 1
    let r := range lines steps steps s
    let s := r.slider
    if s.lastLine = r.firstEnd then s
    else if r.meets then upToNew lines steps s
    else
      let size := s.gap.old
      let first := max r.firstEnd (max (s.lastLine - size - 1) (s.lastLine - maxPlaces))
      upToEnd lines (bestEnd lines size first s.lastLine) steps s

def next? (s : Slider) : Option Slider :=
  match s.after with
  | [] => none
  | g :: after => some ⟨s.lastLine + 1, s.gap :: s.before, g, after⟩

def settleAll (lines : Array Bytes) : Nat → Slider → Slider
  | 0, s => s
  | n + 1, s =>
    let s := s.settle lines
    match s.next? with
    | some s => settleAll lines n s
    | none => s

def gaps (s : Slider) : List Gap := s.before.reverse ++ s.gap :: s.after

end Slider

/-- The gaps with the changes of the old version settled. A change that ends up higher makes the
slider pass some gaps again, at most all of them for each change. -/
def settleOld (lines : Array Bytes) : List Gap → List Gap
  | [] => []
  | g :: gs => (Slider.settleAll lines ((gs.length + 2) * (gs.length + 2)) ⟨0, [], g, gs⟩).gaps

def settle (old new : Array Bytes) (gaps : List Gap) : List Gap :=
  (settleOld new ((settleOld old gaps).map Gap.swap)).map Gap.swap

end DiffBudget.LineDiff
