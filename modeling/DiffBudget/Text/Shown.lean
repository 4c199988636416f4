import DiffBudget.Text.Number
import DiffBudget.Unicode.Category
import DiffBudget.Unicode.Property

/-!
# Texts shown to a programmer

A text in double quotes, with escapes for quotes, backslashes, control characters and whatever
does not print by itself: characters without a glyph, blanks other than the space, and marks that
would join the character before them.
-/
namespace DiffBudget.Text

def hexDigits (n : Nat) : Text := Nat.toDigits 16 n

def graphemeExtendRuns : Unicode.Runs Bool := .ofGaps Unicode.graphemeExtendTable

def unseenCategories : List Text :=
  ["Cc".toList, "Cf".toList, "Cn".toList, "Co".toList, "Zl".toList, "Zp".toList, "Zs".toList]

def isShown (c : Char) : Bool :=
  c == ' ' ||
    (!graphemeExtendRuns.has c && !unseenCategories.contains (Unicode.category c))

def shownChar (c : Char) : Text :=
  match c with
  | '"' => ['\\', '"']
  | '\\' => ['\\', '\\']
  | '\n' => ['\\', 'n']
  | '\r' => ['\\', 'r']
  | '\t' => ['\\', 't']
  | '\x00' => ['\\', '0']
  | c => if isShown c then [c] else "\\u\x7b".toList ++ hexDigits c.toNat ++ ['\x7d']

def shown (t : Text) : Text := '"' :: t.flatMap shownChar ++ ['"']

end DiffBudget.Text
