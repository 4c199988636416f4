import DiffBudget.Glob.Parser
import DiffBudget.Regex.Parser

/-!
# Limits of patterns

A pattern that can be read is refused all the same when the automaton that it is compiled to takes
too much space. How much space it takes is the affair of the engines that compile it, so what
compiles patterns is given the limits, and whatever is shown of patterns holds for all limits. A
program that runs goes by an estimate.
-/
namespace DiffBudget

/-- Which patterns are within the limits, of those that can be read. -/
structure PatternLimits where
  regexFits : Text → Bool
  globsFit : List Text → Bool

def PatternLimits.compile (limits : PatternLimits) (pattern : Text) : Except Regex.Fault Regex := do
  let r ← Regex.parse pattern
  if limits.regexFits pattern then return r else throw .tooLarge

/-! ## An estimate -/

def CharClass.width : CharClass → Nat
  | nothing => 0
  | range _ _ => 1
  | named set => set.runs
  | anyOf a b | allOf a b | without a b | oneOf a b => a.width + b.width
  | complement a => a.width + 1
  | anyCase a | anyAsciiCase a => a.width + 1

namespace Regex

/-- Whether only empty stretches can be described. To repeat these says nothing new. -/
def isEmptyWide : Regex → Bool
  | empty | look _ => true
  | char _ => false
  | seq a b | alt a b => a.isEmptyWide && b.isEmptyWide
  | times a _ most => a.isEmptyWide || most == some 0

/-- About how many bytes the automaton of an expression takes. -/
def size : Regex → Nat
  | empty => 32
  | char c => 32 + 56 * (c.width - 1)
  | look _ => 32
  | seq a b => a.size + b.size
  | alt a b => a.size + b.size + 64
  | times a least most =>
    if a.isEmptyWide then a.size + 32
    else
      match most with
      | none => a.size * max least 1 + 64
      | some m => a.size * least + (a.size + 32) * (m - least) + 32

end Regex

namespace PatternLimits

def maxSize : Nat := 10 * 1048576

/-- Whether a glob is compiled: plain paths are looked up as they are. -/
def isCompiled (glob : Text) : Bool :=
  (Glob.parse glob).toOption.all fun ts => !ts.all Glob.isLiteral

def estimated : PatternLimits where
  regexFits pattern := (Regex.parse pattern).toOption.all (·.size ≤ maxSize)
  globsFit globs := 32 * sumOf Text.byteCount (globs.filter isCompiled) ≤ maxSize

end PatternLimits
end DiffBudget
