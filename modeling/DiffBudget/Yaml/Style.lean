import DiffBudget.Yaml.Resolution
import DiffBudget.Yaml.Scalar

/-!
# The style of a written text

A text is written plain where that reads back as the same text. Otherwise it is put in single
quotes; a text with line feeds is written as a literal block, and what neither of them can hold
in double quotes.
-/
namespace DiffBudget.Yaml

def switchWords : List Text :=
  ["y", "Y", "yes", "Yes", "YES", "n", "N", "no", "No", "NO", "true", "True", "TRUE", "false",
    "False", "FALSE", "on", "On", "ON", "off", "Off", "OFF"].map String.toList

def isPrintable (c : Char) : Bool :=
  let n := c.toNat
  n == 0xA || (0x20 ≤ n && n ≤ 0x7E) || (0xA0 ≤ n && n ≤ 0xFFFD && n != 0xFEFF)

def isWordEnd (c : Char) : Bool :=
  isWhite c || c == '\r' || c == '\u0085' || c == '\x00'

def isAnyBreak (c : Char) : Bool := isBreak c || c == '\r' || c == '\u0085'

def endsWordBefore : Text → Bool
  | [] => true
  | c :: _ => isWordEnd c

def isIndicatorAtStart (c : Char) (t : Text) : Bool :=
  "#,[]\x7b\x7d&*!|>'\"%@\x60".toList.contains c ||
    ((c == '?' || c == ':' || c == '-') && endsWordBefore t)

/-- Whether some character further on would end a plain scalar; `spaced` tells that white space
stands before the text. -/
def hasInnerIndicator (spaced : Bool) : Text → Bool
  | [] => false
  | c :: t =>
    (c == ':' && endsWordBefore t) || (c == '#' && spaced) || hasInnerIndicator (isWordEnd c) t

def hasIndicator : Text → Bool
  | [] => false
  | c :: t =>
    documentStartMark.isPrefixOf (c :: t) || documentEndMark.isPrefixOf (c :: t) ||
      isIndicatorAtStart c t || hasInnerIndicator (isWordEnd c) t

def hasPair (p q : Char → Bool) (t : Text) : Bool :=
  (t.zip (t.drop 1)).any fun x => p x.1 && q x.2

def isSpace (c : Char) : Bool := c == ' '

/-- Whether the text needs escapes: it has a character that does not print, or a space before a
line break. -/
def needsEscapes (t : Text) : Bool := !t.all isPrintable || hasPair isSpace isAnyBreak t

def allowsBlock (t : Text) : Bool :=
  !t.isEmpty && t.getLast? != some ' ' && !needsEscapes t

def allowsSingleQuoted (t : Text) : Bool := !hasPair isAnyBreak isSpace t && !needsEscapes t

def allowsPlain (t : Text) : Bool :=
  t.head? != some ' ' && t.getLast? != some ' ' && !t.any isAnyBreak && !needsEscapes t &&
    !hasIndicator t

def Style.ofText (t : Text) : Style :=
  let quoted := if allowsSingleQuoted t then .singleQuoted else doubleQuoted
  if switchWords.contains t then quoted
  else if t.contains '\n' then if allowsBlock t then literal else doubleQuoted
  else if isAmbiguous t then quoted
  else if allowsPlain t then plain
  else quoted

end DiffBudget.Yaml
