import DiffBudget.Yaml.Style

/-!
# Writing

Scalars in their styles, and block mappings of scalars, lists and tables of numbers.
-/
namespace DiffBudget.Yaml

def spaces (n : Nat) : Text := List.replicate n ' '

/-! ## Scalars -/

def escapeLetter? : Char → Option Char
  | '\x00' => some '0'
  | '\x07' => some 'a'
  | '\x08' => some 'b'
  | '\t' => some 't'
  | '\n' => some 'n'
  | '\x0b' => some 'v'
  | '\x0c' => some 'f'
  | '\r' => some 'r'
  | '\x1b' => some 'e'
  | '"' => some '"'
  | '\\' => some '\\'
  | '\u0085' => some 'N'
  | '\u00a0' => some '_'
  | '\u2028' => some 'L'
  | '\u2029' => some 'P'
  | _ => none

def upperHex (d : Nat) : Char := "0123456789ABCDEF".toList.getD d '0'

def hexCode : Nat → Nat → Text
  | 0, _ => []
  | width + 1, n => hexCode width (n / 16) ++ [upperHex (n % 16)]

def escapeCode (c : Char) : Text :=
  let n := c.toNat
  if n ≤ 0xFF then 'x' :: hexCode 2 n
  else if n ≤ 0xFFFF then 'u' :: hexCode 4 n
  else 'U' :: hexCode 8 n

def mustEscape (c : Char) : Bool := !isPrintable c || isBreak c || c == '"' || c == '\\'

def doubleQuotedChar (c : Char) : Text :=
  if mustEscape c then '\\' :: ((escapeLetter? c).map ([·])).getD (escapeCode c) else [c]

def doubleQuoted (t : Text) : Text := '"' :: t.flatMap doubleQuotedChar ++ ['"']

/-- The characters inside single quotes: quotes are doubled, and behind line breaks the lines
are indented. -/
def singleQuotedBody (indent : Nat) (afterBreak : Bool) : Text → Text
  | [] => if afterBreak then spaces indent else []
  | c :: t =>
    if isBreak c then c :: singleQuotedBody indent true t
    else
      (if afterBreak then spaces indent else []) ++
        (if c == '\'' then ['\'', '\''] else [c]) ++ singleQuotedBody indent false t

def singleQuoted (indent : Nat) (t : Text) : Text :=
  '\'' :: singleQuotedBody indent false t ++ ['\'']

def literalBody (indent : Nat) (afterBreak : Bool) : Text → Text
  | [] => []
  | c :: t =>
    if isBreak c then c :: literalBody indent true t
    else (if afterBreak then spaces indent else []) ++ c :: literalBody indent false t

/-- The indentation is told where the text itself starts with white space. -/
def indentationHint : Text → Text
  | c :: _ => if isSpace c || isBreak c then ['2'] else []
  | [] => []

/-- How the breaks at the end are told: one is the rule, none or more are marked. -/
def chompingHint (t : Text) : Text :=
  match t.reverse with
  | c :: d :: _ => if !isBreak c then ['-'] else if isBreak d then ['+'] else []
  | [c] => if isBreak c then ['+'] else ['-']
  | [] => ['-']

def literal (indent : Nat) (t : Text) : Text :=
  '|' :: indentationHint t ++ chompingHint t ++ '\n' :: literalBody indent true t

def writeScalar (indent : Nat) (t : Text) : Text :=
  match Style.ofText t with
  | .plain => t
  | .literal => literal indent t
  | .singleQuoted => singleQuoted indent t
  | _ => doubleQuoted t

/-! ## Collections -/

def closeLine (t : Text) : Text := if t.getLast?.any isBreak then t else t ++ ['\n']

/-- A key may stand before its colon when it fits on a line. -/
def isSimpleKey (key : Text) : Bool := !key.any isAnyBreak && Text.byteCount key ≤ 128

def tableEntry (key : Text) (n : Nat) : Text :=
  if isSimpleKey key then
    spaces 2 ++ writeScalar 4 key ++ ": ".toList ++ Text.ofNat n ++ ['\n']
  else
    closeLine (spaces 2 ++ "? ".toList ++ writeScalar 4 key) ++
      spaces 2 ++ ": ".toList ++ Text.ofNat n ++ ['\n']

inductive Value
  | word (t : Text)
  | text (t : Text)
  | list (items : List Text)
  | table (entries : List (Text × Nat))
  deriving DecidableEq, Repr

namespace Value

def write : Value → Text
  | word t => ' ' :: t ++ ['\n']
  | text t => closeLine (' ' :: writeScalar 2 t)
  | list [] => " []\n".toList
  | list items => '\n' :: items.flatMap fun t => closeLine ("- ".toList ++ writeScalar 2 t)
  | table [] => " \x7b\x7d\n".toList
  | table entries => '\n' :: entries.flatMap fun e => tableEntry e.1 e.2

def natural (n : Nat) : Value := word (Text.ofNat n)

def flag (b : Bool) : Value := word (if b then "true".toList else "false".toList)

end Value

def writeDocument (entries : List (Text × Value)) : Text :=
  entries.flatMap fun e => e.1 ++ ':' :: e.2.write

end DiffBudget.Yaml
