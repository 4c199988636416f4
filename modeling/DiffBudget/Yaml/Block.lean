import DiffBudget.Yaml.Scalar

/-!
# Block scalars

A block scalar is a run of lines behind a header. Lines that hold nothing beyond the indentation
are empty; the scalar ends before the first other line that is indented less. The literal style
keeps line breaks; the folded style joins lines that neither start with white space nor have an
empty line between them. Chomping decides what stays of the breaks at the end.
-/
namespace DiffBudget.Yaml

structure StreamLine where
  content : Text
  ending : Option Char
  deriving DecidableEq, Repr

namespace StreamLine

def text (l : StreamLine) : Text := l.content ++ l.ending.toList

def ofText : Text → List StreamLine
  | [] => []
  | c :: t =>
    if isBreak c then ⟨[], some c⟩ :: ofText t
    else
      match ofText t with
      | [] => [⟨[c], none⟩]
      | l :: ls => { l with content := c :: l.content } :: ls

def toText (ls : List StreamLine) : Text := ls.flatMap text

theorem toText_ofText (t : Text) : toText (ofText t) = t := by
  unfold toText
  induction t with
  | nil => rfl
  | cons c t ih =>
    unfold ofText
    split
    · simp [text, ih]
    · revert ih
      cases ofText t with
      | nil => intro ih; simp [text, ← ih]
      | cons l ls => intro ih; simp [text, ← ih]

end StreamLine

inductive Chomping
  | strip
  | clip
  | keep
  deriving DecidableEq, Repr

/-- What the header of a block scalar says: what stays of the last line breaks, and how much
deeper than its parent the scalar is indented, where that is told. -/
structure BlockHeader where
  chomping : Chomping
  increment : Option Nat
  deriving DecidableEq, Repr

namespace BlockHeader

def chomping? : Char → Option Chomping
  | '+' => some .keep
  | '-' => some .strip
  | _ => none

def increment? (c : Char) : Option Nat :=
  if Text.isDigit c && c != '0' then some (Text.decimalDigit c) else none

def read : Text → BlockHeader × Text
  | [] => (⟨.clip, none⟩, [])
  | c :: t =>
    match chomping? c, increment? c with
    | some h, _ =>
      match t with
      | d :: t' =>
        match increment? d with
        | some n => (⟨h, some n⟩, t')
        | none => (⟨h, none⟩, t)
      | [] => (⟨h, none⟩, t)
    | none, some n =>
      match t with
      | d :: t' =>
        match chomping? d with
        | some h => (⟨h, some n⟩, t')
        | none => (⟨.clip, some n⟩, t)
      | [] => (⟨.clip, some n⟩, t)
    | none, none => (⟨.clip, none⟩, c :: t)

end BlockHeader

inductive BlockLine
  | empty (ending : Char)
  | filled (content : Text) (ending : Option Char)
  deriving DecidableEq, Repr

def dropSpaces : Nat → Text → Nat × Text
  | n + 1, ' ' :: t => ((dropSpaces n t).1 + 1, (dropSpaces n t).2)
  | _, t => (0, t)

def leadingSpaces (t : Text) : Nat := (t.takeWhile (· == ' ')).length

/-- The depth of the first lines: that of the first line with something other than spaces, or of
an empty line before it that holds more of them. -/
def foundDepth : List StreamLine → Except Fault Nat
  | [] => .ok 0
  | l :: ls =>
    let depth := leadingSpaces l.content
    match l.content.drop depth, l.ending with
    | '\t' :: _, _ => .error .tabInIndentation
    | [], some _ => (foundDepth ls).map (max depth)
    | _, _ => .ok depth

def blockLines (depth : Nat) : List StreamLine → Except Fault (List BlockLine × Text)
  | [] => .ok ([], [])
  | l :: ls =>
    let (column, content) := dropSpaces depth l.content
    match content, l.ending with
    | [], some c => (blockLines depth ls).map fun p => (.empty c :: p.1, p.2)
    | [], none => .ok ([], [])
    | c :: t, ending =>
      if column == depth then
        (blockLines depth ls).map fun p => (.filled (c :: t) ending :: p.1, p.2)
      else if c = '\t' then .error .tabInIndentation
      else .ok ([], StreamLine.toText (⟨c :: t, ending⟩ :: ls))

/-- What stands before a line of a block scalar that was not written yet: the break of the last
filled line, the breaks of the empty lines behind it, and whether that line started with white
space. -/
structure BlockGap where
  line : Text := []
  empty : Text := []
  indented : Bool := false

namespace BlockGap

def before (g : BlockGap) (folds indented : Bool) : Text :=
  if folds && g.line == ['\n'] && !g.indented && !indented then
    if g.empty.isEmpty then [' '] else g.empty
  else g.line ++ g.empty

def atEnd (g : BlockGap) : Chomping → Text
  | .strip => []
  | .clip => g.line
  | .keep => g.line ++ g.empty

end BlockGap

def startsWhite : Text → Bool
  | c :: _ => isGap c
  | [] => false

def blockText (folds : Bool) (chomping : Chomping) (g : BlockGap) : List BlockLine → Text
  | [] => g.atEnd chomping
  | .empty c :: ls => blockText folds chomping { g with empty := g.empty ++ [c] } ls
  | .filled t ending :: ls =>
    g.before folds (startsWhite t) ++ t ++
      blockText folds chomping ⟨ending.toList, [], startsWhite t⟩ ls

/-- The scalar behind its style indicator, inside a collection indented by `parent` columns if
there is one. -/
def readBlock (folds : Bool) (parent : Option Nat) (t : Text) : Except Fault (Text × Text) := do
  let (header, t) := BlockHeader.read t
  let t := skipLineRest t
  if !atLineEnd t then throw .malformedBlockHeader
  let lines := StreamLine.ofText (afterBreak t)
  let depth ← match header.increment with
    | some n => pure (parent.getD 0 + n)
    | none => do
      let found ← foundDepth lines
      pure (max found (max 1 ((parent.map (· + 1)).getD 0)))
  let (lines, rest) ← blockLines depth lines
  return (blockText folds header.chomping {} lines, rest)

end DiffBudget.Yaml
