import DiffBudget.Unicode.CaseClass
import DiffBudget.Unicode.Query

/-!
# Regular expressions

An expression describes stretches of a text. Given a place where a stretch begins, `ends` lists
the places where it can end. Assertions describe empty stretches and look at the characters on
either side. Whether an expression prefers long or short stretches plays no part here, because
only the existence of a stretch is asked for.
-/
namespace DiffBudget

inductive CharClass
  | nothing
  | range (low high : Char)
  | named (set : Unicode.CharSet)
  | anyOf (a b : CharClass)
  | allOf (a b : CharClass)
  | without (a b : CharClass)
  | oneOf (a b : CharClass)
  | complement (a : CharClass)
  /-- With every character that differs in case alone. -/
  | anyCase (a : CharClass)
  /-- The same for ASCII letters. -/
  | anyAsciiCase (a : CharClass)

namespace CharClass

def single (c : Char) : CharClass := .range c c

def swapAsciiCase (c : Char) : Char :=
  if c.isUpper then c.toLower else if c.isLower then c.toUpper else c

def has : CharClass → Char → Bool
  | nothing, _ => false
  | range low high, c => low ≤ c && c ≤ high
  | named set, c => set.has c
  | anyOf a b, c => a.has c || b.has c
  | allOf a b, c => a.has c && b.has c
  | without a b, c => a.has c && !b.has c
  | oneOf a b, c => a.has c != b.has c
  | complement a, c => !a.has c
  | anyCase a, c => (Unicode.caseClass c).any a.has
  | anyAsciiCase a, c => a.has c || a.has (swapAsciiCase c)

def union (cs : List CharClass) : CharClass := cs.foldl anyOf nothing

end CharClass

inductive Assertion
  | textStart
  | textEnd
  | lineStart (crlf : Bool)
  | lineEnd (crlf : Bool)
  | wordBoundary (unicode : Bool)
  | noWordBoundary (unicode : Bool)
  | wordStart (unicode : Bool)
  | wordEnd (unicode : Bool)
  | wordStartHalf (unicode : Bool)
  | wordEndHalf (unicode : Bool)
  deriving DecidableEq, Repr

inductive Regex
  | empty
  | char (c : CharClass)
  | look (a : Assertion)
  | seq (a b : Regex)
  | alt (a b : Regex)
  /-- From `least` to `most` times, without end if `most` is missing. -/
  | times (a : Regex) (least : Nat) (most : Option Nat)

def isAsciiWordChar (c : Char) : Bool := c.isAlphanum || c == '_'

namespace Assertion

def isWord (unicode : Bool) (c : Option Char) : Bool :=
  c.any (if unicode then Unicode.isWordChar else isAsciiWordChar)

/-- Whether the assertion holds between two characters; at an end of the text one is missing. -/
def holds (before after : Option Char) : Assertion → Bool
  | textStart => before.isNone
  | textEnd => after.isNone
  | lineStart false => before.isNone || before == some '\n'
  | lineStart true =>
    before.isNone || before == some '\n' || (before == some '\r' && after != some '\n')
  | lineEnd false => after.isNone || after == some '\n'
  | lineEnd true =>
    after.isNone || after == some '\r' || (after == some '\n' && before != some '\r')
  | wordBoundary u => isWord u before != isWord u after
  | noWordBoundary u => isWord u before == isWord u after
  | wordStart u => !isWord u before && isWord u after
  | wordEnd u => isWord u before && !isWord u after
  | wordStartHalf u => !isWord u before
  | wordEndHalf u => !isWord u after

end Assertion

namespace Regex

/-- Places with those that one more step leads to, for up to `n` steps. -/
def grow (step : List Nat → List Nat) : Nat → List Nat → List Nat
  | 0, places => places
  | n + 1, places =>
    let next := (places ++ step places).eraseDups
    if next.length = places.length then places else grow step n next

def walk (step : List Nat → List Nat) : Nat → List Nat → List Nat
  | 0, places => places
  | n + 1, places => if places.isEmpty then [] else walk step n (step places)

/-- The places where a stretch that begins at place `i` can end. -/
def ends (text : Array Char) : Regex → Nat → List Nat
  | empty, i => [i]
  | char c, i => if text[i]?.any c.has then [i + 1] else []
  | look a, i =>
    if a.holds (if i = 0 then none else text[i - 1]?) text[i]? then [i] else []
  | seq a b, i => ((ends text a i).flatMap fun j => ends text b j).eraseDups
  | alt a b, i => (ends text a i ++ ends text b i).eraseDups
  | times a least most, i =>
    let step (places : List Nat) := (places.flatMap fun j => ends text a j).eraseDups
    let first := walk step least [i]
    match most with
    | none => grow step (text.size + 1) first
    | some m => grow step (m - least) first

def occursIn (r : Regex) (t : Text) : Bool :=
  let text := t.toArray
  (List.range (text.size + 1)).any fun i => !(r.ends text i).isEmpty

@[simp] theorem ends_empty (text : Array Char) (i : Nat) : ends text empty i = [i] := rfl

end Regex
end DiffBudget
