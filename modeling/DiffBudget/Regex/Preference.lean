import DiffBudget.Regex.Basic

/-!
# The stretch that an expression picks

An expression may describe several stretches that begin at one place. It prefers what an earlier
branch describes to what a later one does, and one more repetition to none, since no expression
here is lazy; the stretch that comes first in this order is picked. A repetition that does not go
on is the last one. To go through a text is to pick a stretch, to go on where it ends, and to pass
over one character where nothing is picked.
-/
namespace DiffBudget.Regex

/-- The places that exactly `n` steps lead to, with those first that the earlier steps prefer. -/
def inTurn (step : Nat → List Nat) : Nat → Nat → List Nat
  | 0, i => [i]
  | n + 1, i => (step i).flatMap (inTurn step n)

def asOften (step : Nat → List Nat) : Nat → Nat → List Nat
  | 0, i => [i]
  | n + 1, i => ((step i).flatMap fun j => if j = i then [i] else asOften step n j) ++ [i]

/-- The places where a stretch that begins at place `i` can end, in the order of preference. -/
def choices (text : Array Char) : Regex → Nat → List Nat
  | empty, i => [i]
  | char c, i => if text[i]?.any c.has then [i + 1] else []
  | look a, i =>
    if a.holds (if i = 0 then none else text[i - 1]?) text[i]? then [i] else []
  | seq a b, i => (choices text a i).flatMap (choices text b)
  | alt a b, i => choices text a i ++ choices text b i
  | times a least most, i =>
    let more := match most with
      | none => text.size + 1
      | some m => m - least
    (inTurn (choices text a) least i).flatMap (asOften (choices text a) more)

def pick? (text : Array Char) (r : Regex) (i : Nat) : Option Nat := (choices text r i).head?

/-- The stretches that are picked from place `i` on, in order. A place where none is picked, or one
without characters, is passed over. -/
def picksFrom (text : Array Char) (r : Regex) (i : Nat) : List Text :=
  if i < text.size then
    match pick? text r i with
    | none => picksFrom text r (i + 1)
    | some j =>
      if i < j then (text.extract i j).toList :: picksFrom text r j
      else picksFrom text r (i + 1)
  else []
termination_by text.size - i

def picks (r : Regex) (t : Text) : List Text := picksFrom t.toArray r 0

end DiffBudget.Regex
