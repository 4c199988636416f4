import DiffBudget.Yaml.Block
import DiffBudget.Yaml.Token

/-!
# From characters to tokens

Outside brackets the indentation of a line opens and closes block collections. A token that may
be the key of a mapping is remembered until a colon follows on its line; then the key is marked
in front of it, and where the line opens a mapping, so is the mapping. The tokens are kept with
the newest first.
-/
namespace DiffBudget.Yaml

structure Place where
  index : Nat := 0
  line : Nat := 0
  column : Nat := 0
  deriving DecidableEq, Repr

namespace Place

def next (p : Place) (c : Char) : Place :=
  if isBreak c then ⟨p.index + 1, p.line + 1, 0⟩ else ⟨p.index + 1, p.line, p.column + 1⟩

def after (p : Place) (t : Text) : Place := t.foldl next p

@[simp] theorem after_nil (p : Place) : p.after [] = p := rfl

theorem after_append (p : Place) (s t : Text) : p.after (s ++ t) = (p.after s).after t :=
  List.foldl_append

end Place

/-- A token that may turn out to be a key: where it starts, how many tokens stand before it, and
whether it must be a key because it starts a line of a block mapping. -/
structure KeyCandidate where
  place : Place
  number : Nat
  required : Bool
  deriving DecidableEq, Repr

namespace KeyCandidate

def maxLength : Nat := 1024

/-- A key has to end on its line and within `maxLength` characters. -/
def reaches (k : KeyCandidate) (p : Place) : Bool :=
  p.line ≤ k.place.line && p.index ≤ k.place.index + maxLength

end KeyCandidate

structure Scanner where
  rest : Text
  place : Place := {}
  tokens : List Token := []
  columns : List Nat := []
  candidate : Option KeyCandidate := none
  outer : List (Option KeyCandidate) := []
  keyAllowed : Bool := true

namespace Scanner

variable (s : Scanner)

def inFlow : Bool := !s.outer.isEmpty

def moveTo (rest : Text) : Scanner :=
  { s with
    rest
    place := s.place.after (s.rest.take (s.rest.length - rest.length)) }

def skip (n : Nat) : Scanner := s.moveTo (s.rest.drop n)

def push (t : Token) : Scanner := { s with tokens := t :: s.tokens }

def insertAt (number : Nat) (t : Token) : Scanner :=
  { s with tokens := s.tokens.insertIdx (s.tokens.length - number) t }

def allowKey (allowed : Bool) : Scanner := { s with keyAllowed := allowed }

/-! ## Indentation -/

def isDeeper (column : Nat) : Bool :=
  match s.columns with
  | [] => true
  | c :: _ => c < column

/-- Outside brackets, a block collection opened at a new, deeper column; its token is put behind
the first `number` tokens. -/
def indent (column number : Nat) (t : Token) : Scanner :=
  if !s.inFlow && s.isDeeper column then
    { s with columns := column :: s.columns }.insertAt number t
  else s

def dedent (column : Option Nat) : Scanner :=
  if s.inFlow then s
  else
    let isClosed (c : Nat) : Bool := match column with
      | some k => k < c
      | none => true
    let closed := s.columns.takeWhile isClosed
    { s with
      columns := s.columns.dropWhile isClosed
      tokens := closed.map (fun _ => Token.blockEnd) ++ s.tokens }

/-! ## Keys -/

def refresh (p : Place) : Option KeyCandidate → Except Fault (Option KeyCandidate)
  | none => .ok none
  | some k =>
    if k.reaches p then .ok (some k)
    else if k.required then .error .missingColon
    else .ok none

def dropStale : Except Fault Scanner := do
  let candidate ← refresh s.place s.candidate
  let outer ← s.outer.mapM (refresh s.place)
  return { s with candidate, outer }

def dropCandidate : Except Fault Scanner :=
  match s.candidate with
  | some k => if k.required then .error .missingColon else .ok { s with candidate := none }
  | none => .ok s

def saveCandidate : Except Fault Scanner := do
  if !s.keyAllowed then return s
  let s ← s.dropCandidate
  let required := !s.inFlow && s.columns.head? == some s.place.column
  return { s with candidate := some ⟨s.place, s.tokens.length, required⟩ }

/-! ## Between tokens -/

/-- White space, comments and line breaks skipped. A tab is refused where a key may start outside
brackets: it is left for what follows. -/
def skipWhite (inFlow keyAllowed : Bool) : Bool → Text → Bool × Text
  | _, [] => (keyAllowed, [])
  | inComment, c :: t =>
    if isBreak c then skipWhite inFlow (keyAllowed || !inFlow) false t
    else if inComment then skipWhite inFlow keyAllowed true t
    else if c = '#' then skipWhite inFlow keyAllowed true t
    else if c = ' ' || (c = '\t' && (inFlow || !keyAllowed)) then
      skipWhite inFlow keyAllowed false t
    else (keyAllowed, c :: t)

def toNextToken : Scanner :=
  let (allowed, rest) := skipWhite s.inFlow s.keyAllowed false s.rest
  (s.moveTo rest).allowKey allowed

/-! ## Tokens -/

def documentToken (t : Token) (rest : Text) : Except Fault Scanner := do
  let s ← (s.dedent none).dropCandidate
  return ((s.allowKey false).moveTo rest).push t

def openFlow (t : Token) : Except Fault Scanner := do
  let s ← s.saveCandidate
  return ({ s with candidate := none, outer := s.candidate :: s.outer, keyAllowed := true }.skip
    1).push t

def closeFlow (t : Token) : Except Fault Scanner := do
  let s ← s.dropCandidate
  let s := match s.outer with
    | k :: ks => { s with candidate := k, outer := ks }
    | [] => s
  return ((s.allowKey false).skip 1).push t

def flowEntry : Except Fault Scanner := do
  let s ← s.dropCandidate
  return ((s.allowKey true).skip 1).push .flowEntry

def blockEntry : Except Fault Scanner := do
  if !s.inFlow && !s.keyAllowed then throw .misplacedEntry
  let s ← (s.indent s.place.column s.tokens.length .blockSequenceStart).dropCandidate
  return ((s.allowKey true).skip 1).push .blockEntry

def explicitKey : Except Fault Scanner := do
  if !s.inFlow && !s.keyAllowed then throw .misplacedKey
  let s ← (s.indent s.place.column s.tokens.length .blockMappingStart).dropCandidate
  return ((s.allowKey !s.inFlow).skip 1).push .key

def value : Except Fault Scanner := do
  match s.candidate with
  | some k =>
    let s := (s.insertAt k.number .key).indent k.place.column k.number .blockMappingStart
    return (({ s with candidate := none }.allowKey false).skip 1).push .value
  | none =>
    if !s.inFlow && !s.keyAllowed then throw .misplacedValue
    let s := s.indent s.place.column s.tokens.length .blockMappingStart
    return ((s.allowKey !s.inFlow).skip 1).push .value

def anchorToken (make : Text → Token) : Except Fault Scanner := do
  let s ← s.saveCandidate
  let (name, rest) ← readAnchor (s.rest.drop 1)
  return ((s.allowKey false).moveTo rest).push (make name)

def tagToken : Except Fault Scanner := do
  let s ← s.saveCandidate
  let (token, rest) ← readTag s.inFlow (s.rest.drop 1)
  return ((s.allowKey false).moveTo rest).push token

def blockScalar (style : Style) : Except Fault Scanner := do
  let s ← s.dropCandidate
  let (text, rest) ← readBlock (style == .folded) s.columns.head? (s.rest.drop 1)
  return ((s.allowKey true).moveTo rest).push (.scalar text style)

def quotedScalar (style : Style) (read : Text → Except Fault (Text × Text)) :
    Except Fault Scanner := do
  let s ← s.saveCandidate
  let (text, rest) ← read (s.rest.drop 1)
  return ((s.allowKey false).moveTo rest).push (.scalar text style)

def plainScalar : Except Fault Scanner := do
  let s ← s.saveCandidate
  let context : PlainContext := ⟨s.inFlow, (s.columns.head?.map (· + 1)).getD 0⟩
  let scalar ← readPlain context s.place.column [] s.rest
  return ((s.allowKey scalar.brokeAfter).moveTo scalar.rest).push (.scalar scalar.text .plain)

def startsPlain (c : Char) (t : Text) : Bool :=
  !(isWhite c || "-?:,[]\x7b\x7d#&*!|>'\"%@\x60".toList.contains c) ||
    (c == '-' && !startsWhite t) || (!s.inFlow && (c == '?' || c == ':') && !atWordEnd t)

def token (c : Char) (t : Text) : Except Fault Scanner :=
  let starts := s.place.column == 0
  if starts && c == '%' then do
    let (token, rest) ← readDirective t
    s.documentToken token rest
  else if starts && opensWith documentStartMark (c :: t) then
    s.documentToken .documentStart (t.drop 2)
  else if starts && opensWith documentEndMark (c :: t) then
    s.documentToken .documentEnd (t.drop 2)
  else if c == '[' then s.openFlow .flowSequenceStart
  else if c == '\x7b' then s.openFlow .flowMappingStart
  else if c == ']' then s.closeFlow .flowSequenceEnd
  else if c == '\x7d' then s.closeFlow .flowMappingEnd
  else if c == ',' then s.flowEntry
  else if c == '-' && atWordEnd t then s.blockEntry
  else if c == '?' && (s.inFlow || atWordEnd t) then s.explicitKey
  else if c == ':' && (s.inFlow || atWordEnd t) then s.value
  else if c == '*' then s.anchorToken .alias
  else if c == '&' then s.anchorToken .anchor
  else if c == '!' then s.tagToken
  else if c == '|' && !s.inFlow then s.blockScalar .literal
  else if c == '>' && !s.inFlow then s.blockScalar .folded
  else if c == '\'' then s.quotedScalar .singleQuoted readSingleQuoted
  else if c == '"' then s.quotedScalar .doubleQuoted readDoubleQuoted
  else if s.startsPlain c t then s.plainScalar
  else .error .unexpectedCharacter

/-- All tokens, in order. Every token takes at least one character, so that the length of the
stream bounds the number of steps. -/
def finish : Nat → Scanner → Except Fault (List Token)
  | 0, _ => .error .unexpectedCharacter
  | n + 1, s => do
    let s ← s.toNextToken.dropStale
    match s.rest with
    | [] =>
      let s ← (s.dedent none).dropCandidate
      return s.tokens.reverse
    | c :: t =>
      let s ← (s.dedent (some s.place.column)).token c t
      finish n s

end Scanner

/-- A byte order mark is skipped at the start; it takes a column. -/
def Scanner.start (t : Text) : Scanner :=
  let s : Scanner := { rest := t }
  match t with
  | '\ufeff' :: rest => s.moveTo rest
  | _ => s

def tokens (t : Text) : Except Fault (List Token) :=
  if t.all isAllowed then
    let t := unifyBreaks t
    (Scanner.start t).finish (t.length + 1)
  else .error .forbiddenCharacter

end DiffBudget.Yaml
