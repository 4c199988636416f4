import DiffBudget.Regex.Parser
import DiffBudget.Tokens.Piece

/-!
# The pattern of the pieces

The kinds of pieces are the branches of one pattern, in the order in which they are tried. It is
given as a text, and as the expression that the text stands for.
-/
namespace DiffBudget

namespace Regex

def one (c : Char) : Regex := .char (.single c)

def word : Text → Regex
  | [] => .empty
  | c :: t => t.foldl (fun e d => .seq e (one d)) (one c)

def anyOf : List Regex → Regex
  | [] => .empty
  | e :: es => es.foldl .alt e

def optional (e : Regex) : Regex := .times e 0 (some 1)

end Regex

namespace Piece

def patternText : Text :=
  ("'(?:s|t|re|ve|m|ll|d)| ?\\p\x7bL\x7d+| ?\\p\x7bN\x7d\x7b1,3\x7d| ?" ++
    "[^\\s\\p\x7bL\x7d\\p\x7bN\x7d]+|\\s+").toList

/-- The class in brackets takes its items one by one, from nothing. -/
def CharClass.set (k : CharClass) : DiffBudget.CharClass :=
  let letters : DiffBudget.CharClass := .named ⟨Unicode.inCategory ['L'], 300⟩
  let numbers : DiffBudget.CharClass := .named ⟨Unicode.inCategory ['N'], 300⟩
  let blanks : DiffBudget.CharClass := .named ⟨isBlank, 10⟩
  match k with
  | letter => letters
  | number => numbers
  | symbol => .complement (.anyOf (.anyOf (.anyOf .nothing blanks) letters) numbers)
  | blank => blanks

open Regex

def run (k : CharClass) : Regex :=
  .times (.char k.set) 1 (if k = .number then some 3 else none)

def spaced (e : Regex) : Regex := .seq (optional (one ' ')) e

def contraction : Regex := .seq (one '\'') (anyOf (contractions.map word))

def pattern : Regex :=
  anyOf [contraction, spaced (run .letter), spaced (run .number), spaced (run .symbol),
    run .blank]

end Piece
end DiffBudget
