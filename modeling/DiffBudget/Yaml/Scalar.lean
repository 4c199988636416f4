import DiffBudget.Yaml.Character
import DiffBudget.Yaml.Fault

/-!
# Scalars

The text of a scalar as its style writes it. White space inside a flow scalar that holds a line
break is folded: a single line feed becomes a space, of several line breaks the first line feed
is dropped. The readers return the text and what follows the scalar.
-/
namespace DiffBudget.Yaml

inductive Style
  | plain
  | singleQuoted
  | doubleQuoted
  | literal
  | folded
  deriving DecidableEq, Repr

def foldRun (run : Text) : Text :=
  match run.filter isBreak with
  | [] => run
  | ['\n'] => [' ']
  | '\n' :: more => more
  | breaks => breaks

/-- A part of a quoted scalar: a character that stands for itself, white space that may be
folded, or an escaped line break, after which white space keeps nothing but its breaks. -/
inductive Part
  | shown (c : Char)
  | white (c : Char)
  | joint
  deriving DecidableEq, Repr

def Part.ofChar (c : Char) : Part := if isWhite c then white c else shown c

namespace Part

def closeRun (joined : Bool) (run : Text) : Text :=
  if joined then run.filter isBreak else foldRun run

/-- The text of the parts behind a run of white space; `joined` tells that the run follows an
escaped line break. -/
def textAfter (joined : Bool) (run : Text) : List Part → Text
  | [] => closeRun joined run
  | shown c :: ps => closeRun joined run ++ c :: textAfter false [] ps
  | white c :: ps => textAfter joined (run ++ [c]) ps
  | joint :: ps => closeRun joined run ++ textAfter true [] ps

def text (ps : List Part) : Text := textAfter false [] ps

end Part

/-! ## Quoted scalars -/

/-- Parts up to the closing quote; a quote written twice stands for one. `fresh` tells that the
text starts a line. -/
def singleQuotedParts (fresh : Bool) : Text → Except Fault (List Part × Text)
  | [] => .error .unclosedQuote
  | '\'' :: '\'' :: t => (singleQuotedParts false t).map fun p => (.shown '\'' :: p.1, p.2)
  | c :: t =>
    if c = '\'' then .ok ([], t)
    else if fresh && atDocumentMark (c :: t) then .error .documentMarkInQuotes
    else (singleQuotedParts (isBreak c) t).map fun p => (.ofChar c :: p.1, p.2)

def escaped? : Char → Option Char
  | '0' => some '\x00'
  | 'a' => some '\x07'
  | 'b' => some '\x08'
  | 't' => some '\t'
  | '\t' => some '\t'
  | 'n' => some '\n'
  | 'v' => some '\x0b'
  | 'f' => some '\x0c'
  | 'r' => some '\r'
  | 'e' => some '\x1b'
  | ' ' => some ' '
  | '"' => some '"'
  | '/' => some '/'
  | '\\' => some '\\'
  | 'N' => some '\u0085'
  | '_' => some '\u00a0'
  | 'L' => some '\u2028'
  | 'P' => some '\u2029'
  | _ => none

def codeLength? : Char → Option Nat
  | 'x' => some 2
  | 'u' => some 4
  | 'U' => some 8
  | _ => none

/-- Where a reader of a double-quoted scalar stands: between parts, behind a backslash, or
behind some digits of a character code, with so many more to come after the next. -/
inductive EscapeState
  | between
  | backslash
  | code (more value : Nat)
  deriving DecidableEq, Repr

def codeChar? (n : Nat) : Option Char :=
  if n.isValidChar then some (Char.ofNat n) else none

def doubleQuotedParts (fresh : Bool) (state : EscapeState) :
    Text → Except Fault (List Part × Text)
  | [] => .error .unclosedQuote
  | c :: t =>
    match state with
    | .between =>
      if c = '"' then .ok ([], t)
      else if fresh && atDocumentMark (c :: t) then .error .documentMarkInQuotes
      else if c = '\\' then doubleQuotedParts false .backslash t
      else (doubleQuotedParts (isBreak c) .between t).map fun p => (.ofChar c :: p.1, p.2)
    | .backslash =>
      if isBreak c then (doubleQuotedParts true .between t).map fun p => (.joint :: p.1, p.2)
      else
        match codeLength? c, escaped? c with
        | some n, _ => doubleQuotedParts false (.code (n - 1) 0) t
        | none, some d =>
          (doubleQuotedParts false .between t).map fun p => (.shown d :: p.1, p.2)
        | none, none => .error .unknownEscape
    | .code more value =>
      match hexDigit? c with
      | none => .error .malformedCode
      | some d =>
        match more with
        | more + 1 => doubleQuotedParts false (.code more (value * 16 + d)) t
        | 0 =>
          match codeChar? (value * 16 + d) with
          | none => .error .malformedCode
          | some e => (doubleQuotedParts false .between t).map fun p => (.shown e :: p.1, p.2)

def readSingleQuoted (t : Text) : Except Fault (Text × Text) :=
  (singleQuotedParts false t).map fun p => (Part.text p.1, p.2)

def readDoubleQuoted (t : Text) : Except Fault (Text × Text) :=
  (doubleQuotedParts false .between t).map fun p => (Part.text p.1, p.2)

/-! ## Plain scalars -/

def isFlowIndicator (c : Char) : Bool :=
  c == ',' || c == '[' || c == ']' || c == '\x7b' || c == '\x7d'

/-- Where a plain scalar stands: inside brackets or not, and the least column at which it goes
on after a line break outside brackets. -/
structure PlainContext where
  inFlow : Bool
  leastColumn : Nat

namespace PlainContext

def refusesColon (x : PlainContext) : Text → Bool
  | d :: _ => x.inFlow && (isFlowIndicator d || d == '?')
  | [] => false

def endsBefore (x : PlainContext) (c : Char) (t : Text) : Bool :=
  (c == ':' && atWordEnd t) || (x.inFlow && isFlowIndicator c)

def endsAtWord (x : PlainContext) (column : Nat) (c : Char) (t : Text) : Bool :=
  (!x.inFlow && column < x.leastColumn) || (column == 0 && atDocumentMark (c :: t)) || c == '#'

end PlainContext

structure PlainScalar where
  text : Text
  brokeAfter : Bool
  rest : Text

/-- The scalar behind the white space `run`, which is dropped if no word of the scalar follows. -/
def readPlain (x : PlainContext) (column : Nat) (run : Text) : Text → Except Fault PlainScalar
  | [] => .ok ⟨[], run.any isBreak, []⟩
  | c :: t =>
    if isBreak c then readPlain x 0 (run ++ [c]) t
    else if isGap c then
      if c = '\t' && run.any isBreak && column < x.leastColumn then .error .tabInIndentation
      else readPlain x (column + 1) (run ++ [c]) t
    else if !run.isEmpty && x.endsAtWord column c t then .ok ⟨[], run.any isBreak, c :: t⟩
    else if c = ':' && x.refusesColon t then .error .colonBeforeIndicator
    else if x.endsBefore c t then .ok ⟨[], run.any isBreak, c :: t⟩
    else do
      let s ← readPlain x (column + 1) [] t
      return { s with text := foldRun run ++ c :: s.text }

@[simp] theorem foldRun_nil : foldRun [] = [] := rfl

theorem text_map_shown (t : Text) : Part.text (t.map .shown) = t := by
  unfold Part.text
  induction t with
  | nil => rfl
  | cons c t ih => simp [Part.textAfter, Part.closeRun, ih]

end DiffBudget.Yaml
